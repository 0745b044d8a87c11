/-!
# Members in ascending order

Pairs of a name and a value, with one pair for each name, in the order of the names. Names are
compared by code point, which is also the order of their bytes. `alter` changes the value of a
name and leaves all others alone.
-/

namespace SourceRegistry.Members

def Ascending (ms : List (String × α)) : Prop := ms.Pairwise fun a b => a.1 < b.1

/-- Replaces the value of a name, or adds the name if it is missing. -/
def alter (name : String) (f : Option α → α) : List (String × α) → List (String × α)
  | [] => [(name, f none)]
  | (other, v) :: rest =>
    if name < other then (name, f none) :: (other, v) :: rest
    else if name = other then (name, f (some v)) :: rest
    else (other, v) :: alter name f rest

/-- Gives a name a value. -/
def put (name : String) (value : α) : List (String × α) → List (String × α) :=
  alter name fun _ => value

/-- The ascending members with the given values; the last value of a name counts. -/
def ofList (ms : List (String × α)) : List (String × α) :=
  ms.foldl (fun acc m => put m.1 m.2 acc) []

theorem name_mem_alter {name : String} {f : Option α → α} {ms : List (String × α)}
    {m : String × α} (h : m ∈ alter name f ms) : m.1 = name ∨ ∃ v, (m.1, v) ∈ ms := by
  induction ms with
  | nil => simp [alter] at h; simp [h]
  | cons head rest ih =>
    obtain ⟨other, v⟩ := head
    unfold alter at h
    split at h
    · simp only [List.mem_cons] at h
      rcases h with rfl | rfl | h
      · simp
      · exact .inr ⟨v, by simp⟩
      · exact .inr ⟨m.2, by simp [h]⟩
    · split at h
      · rcases List.mem_cons.1 h with rfl | h
        · simp
        · exact .inr ⟨m.2, by simp [h]⟩
      · rcases List.mem_cons.1 h with rfl | h
        · exact .inr ⟨v, by simp⟩
        · exact (ih h).imp id fun ⟨w, hw⟩ => ⟨w, by simp [hw]⟩

theorem ascending_alter {name : String} {f : Option α → α} {ms : List (String × α)}
    (h : Ascending ms) : Ascending (alter name f ms) := by
  induction ms with
  | nil => simp [alter, Ascending]
  | cons head rest ih =>
    obtain ⟨other, v⟩ := head
    have hrest : Ascending rest := (List.pairwise_cons.1 h).2
    have hhead := (List.pairwise_cons.1 h).1
    unfold alter
    split
    · rename_i lt
      refine List.pairwise_cons.2 ⟨fun m hm => ?_, h⟩
      rcases List.mem_cons.1 hm with rfl | hm
      · exact lt
      · exact String.lt_trans lt (hhead m hm)
    · split
      · rename_i eq
        subst eq
        exact List.pairwise_cons.2 ⟨fun m hm => hhead m hm, hrest⟩
      · rename_i nlt ne
        refine List.pairwise_cons.2 ⟨fun m hm => ?_, ih hrest⟩
        rcases name_mem_alter hm with eq | ⟨w, hw⟩
        · show other < m.1
          exact eq ▸ Std.lt_of_le_of_ne nlt fun e => ne e.symm
        · exact hhead (m.1, w) hw

theorem lookup_cons_eq (other name : String) (v : α) (ms : List (String × α)) :
    ((name, v) :: ms).lookup other = if other = name then some v else ms.lookup other := by
  rw [List.lookup_cons]
  by_cases h : other = name
  · simp [h]
  · rw [beq_eq_false_iff_ne.2 h, if_neg h]

theorem lookup_put (name : String) (v : α) (ms : List (String × α)) (other : String) :
    (put name v ms).lookup other = if other = name then some v else ms.lookup other := by
  induction ms with
  | nil => exact lookup_cons_eq other name v []
  | cons head rest ih =>
    obtain ⟨key, w⟩ := head
    rw [put] at ih ⊢
    unfold alter
    split
    · rw [lookup_cons_eq]
    · split
      · rename_i eq
        rw [lookup_cons_eq, lookup_cons_eq, ← eq]
        split
        · rfl
        · rfl
      · rename_i ne
        rw [lookup_cons_eq, lookup_cons_eq, ih]
        split
        · rename_i eq
          rw [if_neg fun h => ne (h.symm.trans eq)]
        · rfl

end SourceRegistry.Members
