import SourceRegistry.Members

/-!
# Ascending members are a map

Members in ascending order are determined by what they hold under each name, and giving a name a
value changes nothing else. Members that are put one after another in ascending order stay as
they are.
-/

namespace SourceRegistry.Members

variable {α : Type} {ms ns : List (String × α)} {name : String}

theorem Ascending.tail {m : String × α} (h : Ascending (m :: ms)) : Ascending ms :=
  (List.pairwise_cons.1 h).2

theorem lookup_eq_none_of_forall_ne (h : ∀ m ∈ ms, m.1 ≠ name) : ms.lookup name = none := by
  rw [List.lookup_eq_none_iff]
  exact fun m hm => bne_iff_ne.2 (Ne.symm (h m hm))

/-- Behind a greater name there is no smaller one. -/
theorem Ascending.lookup_eq_none {other : String} {v : α} (h : Ascending ((other, v) :: ms))
    (hlt : name < other) : ms.lookup name = none := by
  refine lookup_eq_none_of_forall_ne fun m hm he => ?_
  have hm : other < m.1 := (List.pairwise_cons.1 h).1 m hm
  exact String.lt_irrefl name (String.lt_trans hlt (he ▸ hm))

theorem Ascending.lookup_head {v : α} (h : Ascending ((name, v) :: ms)) :
    ms.lookup name = none := by
  refine lookup_eq_none_of_forall_ne fun m hm he => ?_
  exact String.lt_irrefl name (he ▸ (List.pairwise_cons.1 h).1 m hm)

theorem mem_of_lookup {v : α} (h : ms.lookup name = some v) : (name, v) ∈ ms := by
  obtain ⟨_, _, rfl, -⟩ := List.lookup_eq_some_iff.1 h
  exact List.mem_append_right _ List.mem_cons_self

theorem Ascending.lookup_of_mem {m : String × α} (h : Ascending ms) (hm : m ∈ ms) :
    ms.lookup m.1 = some m.2 := by
  induction ms with
  | nil => cases hm
  | cons head ms ih =>
    obtain ⟨other, v⟩ := head
    rw [lookup_cons_eq]
    rcases List.mem_cons.1 hm with rfl | hm
    · exact if_pos rfl
    · have hlt : other < m.1 := (List.pairwise_cons.1 h).1 m hm
      rw [if_neg (Ne.symm (Std.ne_of_lt hlt)), ih h.tail hm]

/-- What is held under each name determines ascending members. -/
theorem Ascending.ext (h : Ascending ms) (h' : Ascending ns)
    (hl : ∀ name, ms.lookup name = ns.lookup name) : ms = ns := by
  induction ms generalizing ns with
  | nil =>
    cases ns with
    | nil => rfl
    | cons m ns => exact absurd (hl m.1) (by rw [h'.lookup_of_mem List.mem_cons_self]; simp)
  | cons m ms ih =>
    obtain ⟨k, v⟩ := m
    have hk : ns.lookup k = some v := (hl k).symm.trans (h.lookup_of_mem List.mem_cons_self)
    cases ns with
    | nil => cases hk
    | cons m' ns =>
      obtain ⟨k', v'⟩ := m'
      have hk' : ((k, v) :: ms).lookup k' = some v' :=
        (hl k').trans (h'.lookup_of_mem List.mem_cons_self)
      -- the least name of the one list is the least of the other
      have heq : k = k' := by
        rcases List.mem_cons.1 (mem_of_lookup hk) with hm | hm
        · exact congrArg Prod.fst hm
        · have hlt : k' < k := (List.pairwise_cons.1 h').1 _ hm
          rw [lookup_cons_eq, if_neg (Std.ne_of_lt hlt), h.lookup_eq_none hlt] at hk'
          cases hk'
      subst heq
      rw [lookup_cons_eq, if_pos rfl] at hk
      obtain rfl : v' = v := Option.some.inj hk
      refine congrArg _ (ih h.tail h'.tail fun name => ?_)
      by_cases hn : name = k
      · rw [hn, h.lookup_head, h'.lookup_head]
      · have hname := hl name
        rwa [lookup_cons_eq, lookup_cons_eq, if_neg hn, if_neg hn] at hname

theorem lookup_alter (h : Ascending ms) (f : Option α → α) (other : String) :
    (alter name f ms).lookup other =
      if other = name then some (f (ms.lookup name)) else ms.lookup other := by
  induction ms with
  | nil => exact lookup_cons_eq other name _ []
  | cons head ms ih =>
    obtain ⟨key, v⟩ := head
    unfold alter
    split
    · next hlt =>
      have hne : name ≠ key := Std.ne_of_lt hlt
      rw [lookup_cons_eq, lookup_cons_eq name, if_neg hne, h.lookup_eq_none hlt]
    · split
      · next heq =>
        subst heq
        rw [lookup_cons_eq, lookup_cons_eq, lookup_cons_eq, if_pos rfl]
        split <;> rfl
      · next hne =>
        rw [lookup_cons_eq, lookup_cons_eq, lookup_cons_eq, if_neg hne, ih h.tail]
        split
        · next heq => rw [if_neg fun he => hne (he.symm.trans heq)]
        · rfl

/-- A name greater than all others goes to the end. -/
theorem put_of_forall_lt {v : α} (h : ∀ m ∈ ms, m.1 < name) :
    put name v ms = ms ++ [(name, v)] := by
  induction ms with
  | nil => rfl
  | cons head ms ih =>
    obtain ⟨key, w⟩ := head
    rw [List.forall_mem_cons] at h
    have hlt : key < name := h.1
    rw [put] at ih ⊢
    rw [alter, if_neg (String.lt_asymm hlt), if_neg (Ne.symm (Std.ne_of_lt hlt)), ih h.2]
    rfl

theorem foldl_put_append (h : Ascending (ms ++ ns)) :
    ns.foldl (fun acc m => put m.1 m.2 acc) ms = ms ++ ns := by
  induction ns generalizing ms with
  | nil => exact (List.append_nil ms).symm
  | cons m ns ih =>
    have hlt : ∀ m' ∈ ms, m'.1 < m.1 := fun m' hm' =>
      (List.pairwise_append.1 h).2.2 m' hm' m List.mem_cons_self
    rw [List.foldl_cons, put_of_forall_lt hlt, ih]
    · rw [List.append_assoc]
      rfl
    · rwa [List.append_assoc]

theorem ofList_of_ascending (h : Ascending ms) : ofList ms = ms := foldl_put_append h

end SourceRegistry.Members
