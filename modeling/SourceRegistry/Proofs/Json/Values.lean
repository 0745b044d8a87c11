import SourceRegistry.Proofs.Json.Lockstep

/-!
# Values read in step

Values, the lists and objects of any nesting among them, are read in step: a reader of a value
that starts outside of strings comes back to the depth at which it started. Members of objects
are followed up to their names here; what is read behind a name is up to the object.
-/

namespace SourceRegistry.Json

open Text (Symbol)

section
variable {E : List Symbol → List Symbol → Prop} {d : Nat} {s s' : List Symbol}

def Opening.spot (d : Nat) : Opening → Spot
  | .string => (d, .string)
  | .list | .object => (d + 1, .plain)
  | _ => (d, .plain)

def Opening.taken : Opening → Nat
  | .number Bool.false => 0
  | _ => 1

/-- A symbol opens a value of one kind whatever follows it, or none. -/
theorem opening_cases (c : Symbol) :
    (∃ o : Opening, o.taken = 1 ∧ (∀ d, Spot.pass (d, .plain) c = o.spot d) ∧
      ∀ s, opening c s = some (o, s)) ∨
    (∀ s, opening c s = some (.number false, c :: s)) ∨ ∀ s, opening c s = none := by
  by_cases hc : c ∈ [Symbol.char 'n', .char 't', .char 'f', .char '-', .char '\x22', .char '[',
    .char '{']
  · left
    simp only [List.mem_cons, List.not_mem_nil, or_false] at hc
    rcases hc with rfl | rfl | rfl | rfl | rfl | rfl | rfl
    · exact ⟨.null, rfl, fun _ => rfl, fun _ => rfl⟩
    · exact ⟨.true, rfl, fun _ => rfl, fun _ => rfl⟩
    · exact ⟨.false, rfl, fun _ => rfl, fun _ => rfl⟩
    · exact ⟨.number true, rfl, fun _ => rfl, fun _ => rfl⟩
    · exact ⟨.string, rfl, fun _ => rfl, fun _ => rfl⟩
    · exact ⟨.list, rfl, fun _ => rfl, fun _ => rfl⟩
    · exact ⟨.object, rfl, fun _ => rfl, fun _ => rfl⟩
  · right
    have hs : ∀ s, opening c s =
        if (digit? c).isSome then some (.number false, c :: s) else none := by
      intro s
      unfold opening
      split <;> simp_all
    by_cases hd : (digit? c).isSome
    · exact .inl fun s => (hs s).trans (if_pos hd)
    · exact .inr fun s => (hs s).trans (if_neg hd)

theorem peek_lockstep (hE : PartsAtCommas E) (h : Abreast E (d, .plain) s s') :
    Lockstep (fun a b => a.1 = b.1 ∧ Ahead E (a.1.spot d) a.1.taken s s' a.2 b.2)
      (peek s) (peek s') := by
  have hb := skipBlanks_ahead hE h
  unfold peek
  generalize skipBlanks s = t at hb
  generalize skipBlanks s' = t' at hb
  cases hb.abreast with
  | part he =>
    obtain ⟨r, r', rfl, rfl, -⟩ := hE _ _ he
    exact .failPast _ _ _
  | nil => exact .failPast _ _ _
  | @cons _ c t t' ht =>
    dsimp only
    rcases opening_cases c with ⟨o, ho, hp, hc⟩ | hc | hc
    · rw [hc, hc]
      have hone : Ahead E (o.spot d) 1 s s' t t' := by
        rw [← hp]
        exact (hb.trans (.tail ht)).weaken (Nat.le_add_left 1 0)
      exact .ok ⟨rfl, ho ▸ hone⟩
    · rw [hc, hc]
      exact .ok ⟨rfl, hb⟩
    · rw [hc, hc]
      exact .failPast _ _ _

/-! ## Between the parts -/

theorem colon_eq (s : List Symbol) :
    colon s = match skipBlanks s with
      | [] => failPast .endOfObject []
      | c :: t => if c = .char ':' then .ok t else failPast .noColon (c :: t) := by
  unfold colon
  cases skipBlanks s with
  | nil => rfl
  | cons c t => split <;> simp_all

/-- The fault behind the comma at which a list cannot end. -/
def danglingItem (s : List Symbol) : Except Fault (List Symbol) :=
  match skipBlanks s with
  | .char ']' :: t => failPast .trailingComma (.char ']' :: t)
  | t => failPast .trailingCharacters t

theorem danglingItem_eq (s : List Symbol) :
    danglingItem s =
      failPast (if (skipBlanks s).head? = some (.char ']') then .trailingComma
        else .trailingCharacters) (skipBlanks s) := by
  unfold danglingItem
  split
  · next he => rw [he, List.head?_cons, if_pos rfl]
  · next hn =>
    rw [if_neg]
    intro he
    obtain ⟨t, ht⟩ := List.head?_eq_some_iff.1 he
    exact hn t ht

theorem endItems_eq (s : List Symbol) :
    endItems s = match skipBlanks s with
      | [] => failPast .endOfList []
      | c :: t =>
        if c = .char ']' then .ok t
        else if c = .char ',' then danglingItem t
        else failPast .trailingCharacters (c :: t) := by
  unfold endItems
  cases skipBlanks s with
  | nil => rfl
  | cons c t =>
    split <;> simp_all
    rfl

theorem endMembers_eq (s : List Symbol) :
    endMembers s = match skipBlanks s with
      | [] => failPast .endOfObject []
      | c :: t =>
        if c = .char '}' then .ok t
        else if c = .char ',' then failPast .trailingComma (c :: t)
        else failPast .trailingCharacters (c :: t) := by
  unfold endMembers
  cases skipBlanks s with
  | nil => rfl
  | cons c t => split <;> simp_all

def anotherItem : Reader Bool := fun s =>
  match skipBlanks s with
  | [] => failPast .endOfValue []
  | .char ']' :: t => failPast .trailingComma (.char ']' :: t)
  | t => .ok (true, t)

theorem anotherItem_eq (s : List Symbol) :
    anotherItem s = match skipBlanks s with
      | [] => failPast .endOfValue []
      | c :: t =>
        if c = .char ']' then failPast .trailingComma (c :: t) else .ok (true, c :: t) := by
  unfold anotherItem
  cases skipBlanks s with
  | nil => rfl
  | cons c t =>
    by_cases hc : c = .char ']'
    · subst hc
      rfl
    · split
      · next he => cases he
      · next he => exact absurd (List.cons.inj he).1 hc
      · exact (if_neg hc).symm

theorem nextItem_eq (first : Bool) (s : List Symbol) :
    nextItem first s = match skipBlanks s with
      | [] => failPast .endOfList []
      | c :: t =>
        if c = .char ']' then .ok (false, c :: t)
        else if first then .ok (true, c :: t)
        else if c = .char ',' then anotherItem t
        else failPast .noListComma (c :: t) := by
  unfold nextItem
  cases skipBlanks s with
  | nil => rfl
  | cons c t =>
    by_cases hc : c = .char ']'
    · subst hc
      rfl
    · split
      · next he => cases he
      · next he => exact absurd (List.cons.inj he).1 hc
      · next he =>
        cases he
        exact (if_neg hc).symm

def anotherName : Reader (Option String) := fun s =>
  match skipBlanks s with
  | [] => failPast .endOfValue []
  | .char '\x22' :: t => nextName.name t
  | .char '}' :: t => failPast .trailingComma (.char '}' :: t)
  | t => failPast .keyNotString t

theorem anotherName_eq (s : List Symbol) :
    anotherName s = match skipBlanks s with
      | [] => failPast .endOfValue []
      | c :: t =>
        if c = .char '\x22' then nextName.name t
        else if c = .char '}' then failPast .trailingComma (c :: t)
        else failPast .keyNotString (c :: t) := by
  unfold anotherName
  cases skipBlanks s with
  | nil => rfl
  | cons c t =>
    by_cases hq : c = .char '\x22'
    · subst hq
      rfl
    · by_cases hc : c = .char '}'
      · subst hc
        rfl
      · split
        · next he => cases he
        · next he => exact absurd (List.cons.inj he).1 hq
        · next he => exact absurd (List.cons.inj he).1 hc
        · exact ((if_neg hq).trans (if_neg hc)).symm

theorem nextName_eq (first : Bool) (s : List Symbol) :
    nextName first s = match skipBlanks s with
      | [] => failPast .endOfObject []
      | c :: t =>
        if c = .char '}' then .ok (none, c :: t)
        else if first then
          if c = .char '\x22' then nextName.name t else failPast .keyNotString (c :: t)
        else if c = .char ',' then anotherName t
        else failPast .noObjectComma (c :: t) := by
  unfold nextName
  cases skipBlanks s with
  | nil => rfl
  | cons c t =>
    by_cases hc : c = .char '}'
    · subst hc
      rfl
    · split
      · next he => cases he
      · next he => exact absurd (List.cons.inj he).1 hc
      · next he =>
        cases he
        exact (if_neg hc).symm

theorem colon_lockstep (hE : PartsAtCommas E) (h : Abreast E (d, .plain) s s') :
    Lockstep (Ahead E (d, .plain) 1 s s') (colon s) (colon s') := by
  have hb := skipBlanks_ahead hE h
  rw [colon_eq, colon_eq]
  generalize skipBlanks s = t at hb
  generalize skipBlanks s' = t' at hb
  cases hb.abreast with
  | part he =>
    obtain ⟨r, r', rfl, rfl, -⟩ := hE _ _ he
    exact .failPast _ _ _
  | nil => exact .failPast _ _ _
  | @cons _ c t t' ht =>
    by_cases hc : c = .char ':'
    · subst hc
      exact .ok (hb.trans (.tail ht))
    · dsimp only
      rw [if_neg hc, if_neg hc]
      exact .failPast _ _ _

theorem endItems_lockstep (hE : PartsAtCommas E) (h : Abreast E (d + 1, .plain) s s') :
    Lockstep (Ahead E (d, .plain) 0 s s') (endItems s) (endItems s') := by
  have hb := skipBlanks_ahead hE h
  rw [endItems_eq, endItems_eq]
  generalize skipBlanks s = t at hb
  generalize skipBlanks s' = t' at hb
  cases hb.abreast with
  | nil => exact .failPast _ _ _
  | @cons _ c t t' ht =>
    by_cases hc : c = .char ']'
    · subst hc
      exact .ok ((hb.trans (.tail ht)).weaken (Nat.zero_le _))
    · dsimp only
      rw [if_neg hc, if_neg hc]
      split
      · next hc =>
        subst hc
        have ht : Abreast E (d + 1, .plain) t t' := ht
        rw [danglingItem_eq, danglingItem_eq, (skipBlanks_ahead hE ht).abreast.head?_eq hE]
        exact .failPast _ _ _
      · exact .failPast _ _ _

theorem endMembers_lockstep (hE : PartsAtCommas E) (h : Abreast E (d + 1, .plain) s s') :
    Lockstep (Ahead E (d, .plain) 0 s s') (endMembers s) (endMembers s') := by
  have hb := skipBlanks_ahead hE h
  rw [endMembers_eq, endMembers_eq]
  generalize skipBlanks s = t at hb
  generalize skipBlanks s' = t' at hb
  cases hb.abreast with
  | nil => exact .failPast _ _ _
  | @cons _ c t t' ht =>
    by_cases hc : c = .char '}'
    · subst hc
      exact .ok ((hb.trans (.tail ht)).weaken (Nat.zero_le _))
    · dsimp only
      rw [if_neg hc, if_neg hc]
      split
      · exact .failPast _ _ _
      · exact .failPast _ _ _

theorem anotherItem_lockstep (hE : PartsAtCommas E) (h : Abreast E (d + 1, .plain) s s') :
    Lockstep (Reads Eq E (d + 1, .plain) 0 s s') (anotherItem s) (anotherItem s') := by
  have hb := skipBlanks_ahead hE h
  rw [anotherItem_eq, anotherItem_eq]
  generalize skipBlanks s = t at hb
  generalize skipBlanks s' = t' at hb
  cases hb.abreast with
  | nil => exact .failPast _ _ _
  | @cons _ c t t' ht =>
    dsimp only
    split
    · exact .failPast _ _ _
    · exact .ok ⟨rfl, hb⟩

theorem nextItem_lockstep (hE : PartsAtCommas E) (first : Bool)
    (h : Abreast E (d + 1, .plain) s s') :
    Lockstep (Reads Eq E (d + 1, .plain) 0 s s') (nextItem first s) (nextItem first s') := by
  have hb := skipBlanks_ahead hE h
  rw [nextItem_eq, nextItem_eq]
  generalize skipBlanks s = t at hb
  generalize skipBlanks s' = t' at hb
  cases hb.abreast with
  | nil => exact .failPast _ _ _
  | @cons _ c t t' ht =>
    dsimp only
    split
    · exact .ok ⟨rfl, hb⟩
    · split
      · exact .ok ⟨rfl, hb⟩
      · split
        · next hc =>
          subst hc
          exact (anotherItem_lockstep hE ht).since (hb.trans (.tail ht)) (Nat.zero_le _)
        · exact .failPast _ _ _

/-- What two texts abreast hold next in an object: the same name, or its end. -/
inductive Named (E : List Symbol → List Symbol → Prop) (d : Nat) (s s' : List Symbol) :
    Option String × List Symbol → Option String × List Symbol → Prop
  | some (name : String) {t t' : List Symbol} (h : Ahead E (d, .plain) 1 s s' t t') :
    Named E d s s' (some name, t) (some name, t')
  | none {t t' : List Symbol}
    (h : Ahead E (d, .plain) 0 s s' (.char '}' :: t) (.char '}' :: t')) :
    Named E d s s' (none, .char '}' :: t) (none, .char '}' :: t')

theorem Named.since {p : Spot} {k : Nat} {t t' : List Symbol}
    {a b : Option String × List Symbol} (h : Named E d t t' a b) (ha : Ahead E p k s s' t t') :
    Named E d s s' a b := by
  cases h with
  | some name h => exact .some name ((ha.trans h).weaken (Nat.le_add_left 1 k))
  | none h => exact .none ((ha.trans h).weaken (Nat.zero_le _))

theorem name_lockstep (hE : PartsAtCommas E) (h : Abreast E (d, .string) s s') {k : Nat}
    {u u' : List Symbol} (hu : Ahead E (d, .string) (k + 1) u u' s s') :
    Lockstep (Named E d u u') (nextName.name s) (nextName.name s') := by
  refine (stringBody_lockstep hE h).bind ?_
  rintro ⟨name, t⟩ ⟨_, t'⟩ ⟨rfl, ht⟩
  exact .ok (.some name ((hu.trans ht).weaken (Nat.le_add_left 1 k)))

theorem anotherName_lockstep (hE : PartsAtCommas E) (h : Abreast E (d, .plain) s s') :
    Lockstep (Named E d s s') (anotherName s) (anotherName s') := by
  have hb := skipBlanks_ahead hE h
  rw [anotherName_eq, anotherName_eq]
  generalize skipBlanks s = t at hb
  generalize skipBlanks s' = t' at hb
  cases hb.abreast with
  | part he =>
    obtain ⟨r, r', rfl, rfl, -⟩ := hE _ _ he
    exact .failPast _ _ _
  | nil => exact .failPast _ _ _
  | @cons _ c t t' ht =>
    dsimp only
    split
    · next hc =>
      subst hc
      exact name_lockstep hE ht (hb.trans (.tail ht))
    · split
      · exact .failPast _ _ _
      · exact .failPast _ _ _

/-- The next member has the same name in both texts, unless they part in front of it. -/
theorem nextName_lockstep (hE : PartsAtCommas E) {first : Bool} (h : Abreast E (d, .plain) s s')
    (hp : first = false → d = 0 → ¬ E (skipBlanks s) (skipBlanks s')) :
    Lockstep (Named E d s s') (nextName first s) (nextName first s') := by
  have hb := skipBlanks_ahead hE h
  rw [nextName_eq, nextName_eq]
  generalize skipBlanks s = t at hb hp
  generalize skipBlanks s' = t' at hb hp
  cases hb.abreast with
  | part he =>
    cases first with
    | false => exact absurd he (hp rfl rfl)
    | true =>
      obtain ⟨r, r', rfl, rfl, -⟩ := hE _ _ he
      exact .failPast _ _ _
  | nil => exact .failPast _ _ _
  | @cons _ c t t' ht =>
    dsimp only
    split
    · next hc =>
      subst hc
      exact .ok (.none hb)
    · split
      · split
        · next hc =>
          subst hc
          exact name_lockstep hE ht (hb.trans (.tail ht))
        · exact .failPast _ _ _
      · split
        · next hc =>
          subst hc
          exact (anotherName_lockstep hE ht).mono fun a b hab => hab.since (hb.trans (.tail ht))
        · exact .failPast _ _ _

/-! ## Lists and objects -/

/-- A reader that takes at least one symbol of two texts abreast, and reads the same. -/
def KeepsStep {α : Type} (E : List Symbol → List Symbol → Prop) (r : Reader α) : Prop :=
  ∀ {d s s'}, Abreast E (d, .plain) s s' → Lockstep (Reads Eq E (d, .plain) 1 s s') (r s) (r s')

theorem itemLoop_lockstep {α : Type} {item : Reader α} (hE : PartsAtCommas E)
    (hitem : KeepsStep E item) {fuel fuel' index : Nat} {before : List α}
    (h : Abreast E (d + 1, .plain) s s') (hf : s.length < fuel) (hf' : s'.length < fuel') :
    Lockstep (Reads Eq E (d + 1, .plain) 0 s s') (itemLoop item fuel index before s)
      (itemLoop item fuel' index before s') := by
  induction fuel generalizing fuel' index before s s' with
  | zero => exact absurd hf (Nat.not_lt_zero _)
  | succ fuel ih =>
    cases fuel' with
    | zero => exact absurd hf' (Nat.not_lt_zero _)
    | succ fuel' =>
      refine (nextItem_lockstep hE _ h).bind ?_
      rintro ⟨more, t⟩ ⟨_, t'⟩ ⟨rfl, ht⟩
      cases more with
      | false => exact .ok ⟨rfl, ht⟩
      | true =>
        refine ((hitem ht.abreast).under _).bind ?_
        rintro ⟨x, u⟩ ⟨_, u'⟩ ⟨rfl, hu⟩
        have hread := ht.trans hu
        obtain ⟨hl, hl'⟩ := hread.fuel (Nat.le_refl 1) hf hf'
        exact (ih hread.abreast hl hl').since hread (Nat.zero_le _)

theorem items_lockstep {α : Type} {item : Reader α} (hE : PartsAtCommas E)
    (hitem : KeepsStep E item) (h : Abreast E (d + 1, .plain) s s') :
    Lockstep (Reads Eq E (d, .plain) 0 s s') (items item s) (items item s') := by
  refine (itemLoop_lockstep hE hitem h (Nat.lt_succ_self _) (Nat.lt_succ_self _)).bind ?_
  rintro ⟨l, t⟩ ⟨_, t'⟩ ⟨rfl, ht⟩
  refine (endItems_lockstep hE ht.abreast).bind fun u u' hu => ?_
  exact .ok ⟨rfl, ht.trans hu⟩

theorem memberValue_lockstep {α : Type} {V : α → α → Prop} {value : Reader α}
    (hE : PartsAtCommas E) {k : Nat}
    (hvalue : ∀ {s s'}, Abreast E (d, .plain) s s' →
      Lockstep (Reads V E (d, .plain) k s s') (value s) (value s'))
    (name : String) (h : Abreast E (d, .plain) s s') :
    Lockstep (Reads V E (d, .plain) 0 s s') (memberValue name value s)
      (memberValue name value s') := by
  refine Lockstep.under ?_ _
  refine (colon_lockstep hE h).bind fun t t' ht => ?_
  exact (hvalue ht.abreast).since ht (Nat.zero_le _)

theorem memberLoop_lockstep {σ : Type} {member : String → σ → Reader σ} (hE : PartsAtCommas E)
    (hmember : ∀ name state {s s'}, Abreast E (d + 1, .plain) s s' →
      Lockstep (Reads Eq E (d + 1, .plain) 0 s s') (member name state s) (member name state s'))
    {fuel fuel' : Nat} {first : Bool} {state : σ}
    (h : Abreast E (d + 1, .plain) s s') (hf : s.length < fuel) (hf' : s'.length < fuel') :
    Lockstep (Reads Eq E (d + 1, .plain) 0 s s') (memberLoop member fuel first state s)
      (memberLoop member fuel' first state s') := by
  induction fuel generalizing fuel' first state s s' with
  | zero => exact absurd hf (Nat.not_lt_zero _)
  | succ fuel ih =>
    cases fuel' with
    | zero => exact absurd hf' (Nat.not_lt_zero _)
    | succ fuel' =>
      refine ((nextName_lockstep hE h fun _ hd => nomatch hd).under _).bind ?_
      rintro a b (⟨name, ht⟩ | ⟨ht⟩)
      · refine (hmember name state ht.abreast).bind ?_
        rintro ⟨state, u⟩ ⟨_, u'⟩ ⟨rfl, hu⟩
        have hread := ht.trans hu
        obtain ⟨hl, hl'⟩ := hread.fuel (Nat.le_refl 1) hf hf'
        exact (ih hread.abreast hl hl').since hread (Nat.zero_le _)
      · exact .ok ⟨rfl, ht⟩

theorem pairs_lockstep {α : Type} {value : Reader α} (hE : PartsAtCommas E)
    (hvalue : KeepsStep E value) (h : Abreast E (d + 1, .plain) s s') :
    Lockstep (Reads Eq E (d, .plain) 0 s s') (pairs value s) (pairs value s') := by
  refine Lockstep.bind (memberLoop_lockstep hE (fun name ms _ _ h => ?_) h (Nat.lt_succ_self _)
    (Nat.lt_succ_self _)) ?_
  · refine (memberValue_lockstep hE hvalue name h).bind ?_
    rintro ⟨v, t⟩ ⟨_, t'⟩ ⟨rfl, ht⟩
    exact .ok ⟨rfl, ht⟩
  · rintro ⟨ms, t⟩ ⟨_, t'⟩ ⟨rfl, ht⟩
    refine (endMembers_lockstep hE ht.abreast).bind fun u u' hu => ?_
    exact .ok ⟨rfl, ht.trans hu⟩

theorem isPlainWord_null : ∀ c ∈ ['u', 'l', 'l'], IsOrdinary (.char c) ∧ c ≠ ',' := by
  simp [IsOrdinary]

theorem isPlainWord_true : ∀ c ∈ ['r', 'u', 'e'], IsOrdinary (.char c) ∧ c ≠ ',' := by
  simp [IsOrdinary]

theorem isPlainWord_false : ∀ c ∈ ['a', 'l', 's', 'e'], IsOrdinary (.char c) ∧ c ≠ ',' := by
  simp [IsOrdinary]

theorem value_lockstep (hE : PartsAtCommas E) (depth : Nat) : KeepsStep E (value depth) := by
  induction depth using Nat.strongRecOn with
  | ind depth ih =>
    intro d s s' h
    rw [value, value]
    refine (peek_lockstep hE h).bind ?_
    rintro ⟨o, t⟩ ⟨_, t'⟩ ⟨rfl, ht⟩
    cases o with
    | null =>
      refine (word_lockstep hE isPlainWord_null ht.abreast).bind fun u u' hu => ?_
      exact .ok ⟨rfl, ht.trans hu⟩
    | true =>
      refine (word_lockstep hE isPlainWord_true ht.abreast).bind fun u u' hu => ?_
      exact .ok ⟨rfl, ht.trans hu⟩
    | false =>
      refine (word_lockstep hE isPlainWord_false ht.abreast).bind fun u u' hu => ?_
      exact .ok ⟨rfl, ht.trans hu⟩
    | number negative =>
      have ha : Abreast E (d, .plain) t t' := ht.abreast
      refine (numberBody_lockstep hE negative ha).bind ?_
      rintro ⟨n, u⟩ ⟨_, u'⟩ ⟨rfl, hu⟩
      exact .ok ⟨rfl, (ht.trans hu).weaken (Nat.le_add_left 1 _)⟩
    | string =>
      refine (stringBody_lockstep hE (d := d) ht.abreast).bind ?_
      rintro ⟨x, u⟩ ⟨_, u'⟩ ⟨rfl, hu⟩
      exact .ok ⟨rfl, ht.trans hu⟩
    | list =>
      cases depth with
      | zero => exact .failAt _ _ _
      | succ depth =>
        refine (items_lockstep hE (ih depth (Nat.lt_succ_self depth)) ht.abreast).bind ?_
        rintro ⟨l, u⟩ ⟨_, u'⟩ ⟨rfl, hu⟩
        exact .ok ⟨rfl, ht.trans hu⟩
    | object =>
      cases depth with
      | zero => exact .failAt _ _ _
      | succ depth =>
        refine (pairs_lockstep hE (ih depth (Nat.lt_succ_self depth)) ht.abreast).bind ?_
        rintro ⟨ms, u⟩ ⟨_, u'⟩ ⟨rfl, hu⟩
        exact .ok ⟨rfl, ht.trans hu⟩

end

end SourceRegistry.Json
