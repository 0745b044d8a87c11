import SourceRegistry.Json.Decoder

/-!
# Two texts read in step

Texts that begin alike are read alike for as long as they do. `Abreast` says of two texts that
they are the same up to a point between the parts of the outermost object, or to the end. Two runs
of a reader are in `Lockstep` if both fail for the same cause, at whatever place, or both go on
abreast. Here this is shown for words, strings and numbers.
-/

namespace SourceRegistry.Json

open Text (Symbol)

/-- Where a text stands as to strings. -/
inductive Inside where
  | plain
  | string
  | escape
  deriving DecidableEq, Repr

/-- Where in a text a reader stands: the number of open brackets, and whether it is in a string. -/
abbrev Spot := Nat × Inside

/-- The spot behind a symbol. A bracket that closes nothing leaves all as it is. -/
def Spot.pass : Spot → Symbol → Spot
  | (d, .plain), c =>
    if c = .char '\x22' then (d, .string)
    else if c = .char '[' ∨ c = .char '{' then (d + 1, .plain)
    else if c = .char ']' ∨ c = .char '}' then (d - 1, .plain)
    else (d, .plain)
  | (d, .string), c =>
    if c = .char '\\' then (d, .escape) else if c = .char '\x22' then (d, .plain) else (d, .string)
  | (d, .escape), _ => (d, .string)

/-- A symbol that outside of strings means nothing to a spot. -/
def IsOrdinary (c : Symbol) : Prop :=
  c ∉ [.char '\x22', .char '[', .char '{', .char ']', .char '}']

instance (c : Symbol) : Decidable (IsOrdinary c) := inferInstanceAs (Decidable (_ ∉ _))

theorem Spot.pass_ordinary {c : Symbol} (h : IsOrdinary c) (d : Nat) :
    Spot.pass (d, .plain) c = (d, .plain) := by
  simp only [IsOrdinary, List.mem_cons, List.not_mem_nil, or_false, not_or] at h
  obtain ⟨h₁, h₂, h₃, h₄, h₅⟩ := h
  simp only [pass, h₁, h₂, h₃, h₄, h₅, or_false, if_false]

/-- Two texts from a spot on: they are the same until both end, or until they come to a pair of
rests where texts may part. -/
inductive Abreast (E : List Symbol → List Symbol → Prop) :
    Spot → List Symbol → List Symbol → Prop
  | part {s s' : List Symbol} (h : E s s') : Abreast E (0, .plain) s s'
  | nil (p : Spot) : Abreast E p [] []
  | cons {p : Spot} {c : Symbol} {s s' : List Symbol} (h : Abreast E (p.pass c) s s') :
    Abreast E p (c :: s) (c :: s')

theorem Abreast.refl (E : List Symbol → List Symbol → Prop) (p : Spot) (s : List Symbol) :
    Abreast E p s s := by
  induction s generalizing p with
  | nil => exact .nil p
  | cons c s ih => exact .cons (ih _)

/-- Texts part only at commas, in front of three symbols at least. -/
def PartsAtCommas (E : List Symbol → List Symbol → Prop) : Prop :=
  ∀ s s', E s s' → ∃ r r', s = .char ',' :: r ∧ s' = .char ',' :: r' ∧
    3 ≤ r.length ∧ 3 ≤ r'.length

/-- Rests of two texts that are abreast, with at least `k` symbols read. -/
structure Ahead (E : List Symbol → List Symbol → Prop) (q : Spot) (k : Nat)
    (s s' t t' : List Symbol) : Prop where
  abreast : Abreast E q t t'
  left : t.length + k ≤ s.length
  right : t'.length + k ≤ s'.length

/-! ## Runs in lockstep -/

/-- Two runs that both succeed with related results, or fail for the same cause at the same step
of their paths. -/
inductive Lockstep {β γ : Type} (R : β → γ → Prop) : Except Fault β → Except Fault γ → Prop
  | ok {b : β} {c : γ} (h : R b c) : Lockstep R (.ok b) (.ok c)
  | error (cause : Cause) (left left' : Nat) (path : List Step) :
    Lockstep R (.error ⟨cause, left, path⟩) (.error ⟨cause, left', path⟩)

namespace Lockstep

variable {β γ β' γ' : Type} {R : β → γ → Prop} {S : β' → γ' → Prop} {e : Except Fault β}
  {e' : Except Fault γ}

theorem failAt (cause : Cause) (s s' : List Symbol) :
    Lockstep R (Json.failAt cause s) (Json.failAt cause s') := .error _ _ _ _

theorem failPast (cause : Cause) (s s' : List Symbol) :
    Lockstep R (Json.failPast cause s) (Json.failPast cause s') := .error _ _ _ _

theorem mono {R' : β → γ → Prop} (h : Lockstep R e e') (hR : ∀ b c, R b c → R' b c) :
    Lockstep R' e e' := by
  cases h with
  | ok h => exact .ok (hR _ _ h)
  | error => exact .error _ _ _ _

theorem bind {f : β → Except Fault β'} {g : γ → Except Fault γ'} (h : Lockstep R e e')
    (hf : ∀ b c, R b c → Lockstep S (f b) (g c)) : Lockstep S (e >>= f) (e' >>= g) := by
  cases h with
  | ok h => exact hf _ _ h
  | error => exact .error _ _ _ _

theorem map {f : β → β'} {g : γ → γ'} (h : Lockstep R e e')
    (hf : ∀ b c, R b c → S (f b) (g c)) : Lockstep S (f <$> e) (g <$> e') := by
  cases h with
  | ok h => exact .ok (hf _ _ h)
  | error => exact .error _ _ _ _

theorem under (h : Lockstep R e e') (step : Step) :
    Lockstep R (Json.under step e) (Json.under step e') := by
  cases h with
  | ok h => exact .ok h
  | error => exact .error _ _ _ _

end Lockstep

/-- Results of two readers that have related values and go on abreast. -/
def Reads {α β : Type} (V : α → β → Prop) (E : List Symbol → List Symbol → Prop) (q : Spot)
    (k : Nat) (s s' : List Symbol) (a : α × List Symbol) (b : β × List Symbol) : Prop :=
  V a.1 b.1 ∧ Ahead E q k s s' a.2 b.2

namespace Ahead

variable {E : List Symbol → List Symbol → Prop} {p q : Spot} {k l : Nat}
  {s s' t t' u u' : List Symbol} {c : Symbol}

theorem refl (h : Abreast E p s s') : Ahead E p 0 s s' s s' := ⟨h, Nat.le_refl _, Nat.le_refl _⟩

theorem tail (h : Abreast E p s s') : Ahead E p 1 (c :: s) (c :: s') s s' :=
  ⟨h, Nat.le_refl _, Nat.le_refl _⟩

theorem trans (h : Ahead E p k s s' t t') (h' : Ahead E q l t t' u u') :
    Ahead E q (k + l) s s' u u' := by
  refine ⟨h'.abreast, ?_, ?_⟩
  · have := h.left
    have := h'.left
    omega
  · have := h.right
    have := h'.right
    omega

theorem weaken (h : Ahead E p k s s' t t') (hk : l ≤ k) : Ahead E p l s s' t t' := by
  refine ⟨h.abreast, ?_, ?_⟩
  · have := h.left
    omega
  · have := h.right
    omega

/-- What bounded the length of two texts bounds that of their rests still after one step. -/
theorem fuel {n n' : Nat} (h : Ahead E p k s s' t t') (hk : 1 ≤ k) (hn : s.length < n + 1)
    (hn' : s'.length < n' + 1) : t.length < n ∧ t'.length < n' := by
  have := h.left
  have := h.right
  omega

/-- A rest of two texts is a rest of longer ones. -/
theorem behind (h : Ahead E p k s s' t t') : Ahead E p k (c :: s) (c :: s') t t' :=
  ⟨h.abreast, Nat.le_succ_of_le h.left, Nat.le_succ_of_le h.right⟩

end Ahead

/-- What is read in step behind a rest is read in step from where the rest was read. -/
theorem Lockstep.since {α β : Type} {V : α → β → Prop} {E : List Symbol → List Symbol → Prop}
    {p q : Spot} {k l m : Nat} {s s' t t' : List Symbol} {e : Except Fault (α × List Symbol)}
    {e' : Except Fault (β × List Symbol)} (h : Lockstep (Reads V E q l t t') e e')
    (ha : Ahead E p k s s' t t') (hm : m ≤ k + l) : Lockstep (Reads V E q m s s') e e' :=
  h.mono fun _ _ hab => ⟨hab.1, (ha.trans hab.2).weaken hm⟩

section
variable {E : List Symbol → List Symbol → Prop} {d : Nat} {s s' : List Symbol}

theorem Abreast.head?_eq (hE : PartsAtCommas E) {p : Spot} (h : Abreast E p s s') :
    s.head? = s'.head? := by
  cases h with
  | part h =>
    obtain ⟨r, r', rfl, rfl, -⟩ := hE _ _ h
    rfl
  | nil => rfl
  | cons h => rfl

/-- Symbols that mean nothing to a spot can be dropped from the front of both texts. -/
theorem dropWhile_ahead (hE : PartsAtCommas E) {f : Symbol → Bool}
    (hf : ∀ c, f c → IsOrdinary c ∧ c ≠ .char ',') (h : Abreast E (d, .plain) s s') :
    Ahead E (d, .plain) 0 s s' (s.dropWhile f) (s'.dropWhile f) := by
  generalize hp : (d, Inside.plain) = p at h
  induction h with
  | part h =>
    obtain ⟨r, r', rfl, rfl, -⟩ := id (hE _ _ h)
    have hc : ¬ f (.char ',') := fun hc => (hf _ hc).2 rfl
    rw [List.dropWhile_cons_of_neg hc, List.dropWhile_cons_of_neg hc]
    exact .refl (hp ▸ .part h)
  | nil => exact .refl (hp ▸ .nil _)
  | @cons p c s s' h ih =>
    subst hp
    by_cases hc : f c
    · rw [Spot.pass_ordinary (hf c hc).1] at ih h
      rw [List.dropWhile_cons_of_pos hc, List.dropWhile_cons_of_pos hc]
      exact ((Ahead.tail h).trans (ih rfl)).weaken (Nat.zero_le _)
    · rw [List.dropWhile_cons_of_neg hc, List.dropWhile_cons_of_neg hc]
      exact .refl (.cons h)

theorem skipBlanks_append {blanks : List Symbol} (hb : ∀ c ∈ blanks, isBlank c) {c : Symbol}
    (hc : ¬ isBlank c) (s : List Symbol) : skipBlanks (blanks ++ c :: s) = c :: s := by
  rw [skipBlanks, List.dropWhile_append_of_pos hb, List.dropWhile_cons_of_neg hc]

theorem isOrdinary_of_isBlank (c : Symbol) (h : isBlank c) : IsOrdinary c ∧ c ≠ .char ',' := by
  simp only [isBlank, Bool.or_eq_true, beq_iff_eq] at h
  rcases h with ((rfl | rfl) | rfl) | rfl <;> decide

theorem skipBlanks_ahead (hE : PartsAtCommas E) (h : Abreast E (d, .plain) s s') :
    Ahead E (d, .plain) 0 s s' (skipBlanks s) (skipBlanks s') :=
  dropWhile_ahead hE isOrdinary_of_isBlank h

theorem word_lockstep (hE : PartsAtCommas E) {cs : List Char}
    (hcs : ∀ c ∈ cs, IsOrdinary (.char c) ∧ c ≠ ',') (h : Abreast E (d, .plain) s s') :
    Lockstep (Ahead E (d, .plain) 0 s s') (word cs s) (word cs s') := by
  induction cs generalizing s s' with
  | nil => exact .ok (.refl h)
  | cons c cs ih =>
    obtain ⟨hc, hrest⟩ := List.forall_mem_cons.1 hcs
    cases h with
    | part h =>
      obtain ⟨r, r', rfl, rfl, -⟩ := hE _ _ h
      have hne : ¬ Symbol.char ',' = .char c := fun he => hc.2 (Symbol.char.inj he).symm
      rw [word, word, if_neg hne, if_neg hne]
      exact .failAt _ _ _
    | nil => exact .failAt _ _ _
    | @cons _ b s s' h =>
      by_cases hb : b = .char c
      · subst hb
        rw [Spot.pass_ordinary hc.1] at h
        rw [word, word, if_pos rfl, if_pos rfl]
        exact (ih hrest h).mono fun t t' ht => ((Ahead.tail h).trans ht).weaken (Nat.zero_le _)
      · rw [word, word, if_neg hb, if_neg hb]
        exact .failAt _ _ _

/-! ## Strings -/

/-- Where a reader of strings stands, seen as a spot. -/
def StringMode.inside : StringMode → Inside
  | .plain | .digits _ _ _ | .pairBackslash _ => .string
  | .escape | .pairLetter _ => .escape

theorem byteWidth_ge_length (s : List Symbol) : s.length ≤ Text.byteWidth s := by
  have hw : ∀ c : Symbol, 1 ≤ c.width := by
    intro c
    cases c with
    | char c => exact Char.utf8Size_pos c
    | stray b => exact Nat.le_refl 1
  have hfold : ∀ (s : List Symbol) (n : Nat),
      n + s.length ≤ s.foldl (fun n c => n + c.width) n := by
    intro s
    induction s with
    | nil => exact fun n => Nat.le_refl n
    | cons c s ih =>
      intro n
      have h₁ := ih (n + c.width)
      have h₂ := hw c
      rw [List.length_cons, List.foldl_cons]
      omega
  simpa [Text.byteWidth] using hfold s 0

theorem hasFourBytes_of_length {s : List Symbol} (h : 4 ≤ s.length) : hasFourBytes s := by
  have hw := byteWidth_ge_length (s.take 4)
  rw [List.length_take_of_le h] at hw
  exact decide_eq_true hw

theorem Abreast.eq_or_length (hE : PartsAtCommas E) {p : Spot} (h : Abreast E p s s') :
    s = s' ∨ 4 ≤ s.length ∧ 4 ≤ s'.length := by
  induction h with
  | part h =>
    obtain ⟨r, r', rfl, rfl, hr, hr'⟩ := hE _ _ h
    exact .inr ⟨Nat.succ_le_succ hr, Nat.succ_le_succ hr'⟩
  | nil => exact .inl rfl
  | cons h ih =>
    rcases ih with rfl | ⟨hl, hl'⟩
    · exact .inl rfl
    · exact .inr ⟨Nat.le_succ_of_le hl, Nat.le_succ_of_le hl'⟩

theorem Abreast.hasFourBytes_eq (hE : PartsAtCommas E) {p : Spot} (h : Abreast E p s s') :
    hasFourBytes s = hasFourBytes s' := by
  rcases h.eq_or_length hE with rfl | ⟨hl, hl'⟩
  · rfl
  · rw [hasFourBytes_of_length hl, hasFourBytes_of_length hl']

theorem Spot.pass_hex {c : Symbol} {n : Nat} (h : hexValue? c = some n) (d : Nat) :
    Spot.pass (d, .string) c = (d, .string) := by
  have hq : hexValue? (.char '\x22') = none := by decide
  have hb : hexValue? (.char '\\') = none := by decide
  have hcq : c ≠ .char '\x22' := by
    rintro rfl
    rw [hq] at h
    cases h
  have hcb : c ≠ .char '\\' := by
    rintro rfl
    rw [hb] at h
    cases h
  simp only [pass, if_neg hcq, if_neg hcb]

theorem stringRest_plain_char {before : List Char} {sound : Bool} {c : Char} (hq : c ≠ '\x22')
    (hb : c ≠ '\\') (s : List Symbol) :
    stringRest before sound .plain (.char c :: s) =
      if c.toNat < 0x20 then failAt .controlCharacter s
      else stringRest (c :: before) sound .plain s := by
  rw [stringRest]
  · exact hq
  · exact hb

theorem stringRest_lockstep (hE : PartsAtCommas E) {before : List Char} {sound : Bool}
    {mode : StringMode} (h : Abreast E (d, mode.inside) s s') :
    Lockstep (Reads Eq E (d, .plain) 0 s s') (stringRest before sound mode s)
      (stringRest before sound mode s') := by
  generalize hp : (d, mode.inside) = p at h
  induction h generalizing before sound mode with
  | part h => cases mode <;> cases hp
  | nil =>
    rw [stringRest]
    exact .failAt _ _ _
  | @cons p c s s' h ih =>
    subst hp
    have hnext : ∀ {before sound} {next : StringMode},
        (d, next.inside) = Spot.pass (d, mode.inside) c →
        Lockstep (Reads Eq E (d, .plain) 0 (c :: s) (c :: s')) (stringRest before sound next s)
          (stringRest before sound next s') := fun hm =>
      (ih hm).mono fun a b hab => ⟨hab.1, hab.2.behind⟩
    cases mode with
    | plain =>
      cases c with
      | stray b =>
        rw [stringRest, stringRest]
        exact hnext rfl
      | char c =>
        by_cases hq : c = '\x22'
        · subst hq
          cases sound with
          | true => exact .ok ⟨rfl, (Ahead.tail h).weaken (Nat.zero_le _)⟩
          | false => exact .failAt _ _ _
        · by_cases hb : c = '\\'
          · subst hb
            exact hnext rfl
          · rw [stringRest_plain_char hq hb, stringRest_plain_char hq hb]
            by_cases hc : c.toNat < 0x20
            · rw [if_pos hc, if_pos hc]
              exact .failAt _ _ _
            · rw [if_neg hc, if_neg hc]
              refine hnext ?_
              simp [StringMode.inside, Spot.pass, hq, hb]
    | escape =>
      rw [stringRest, stringRest]
      cases simpleEscape? c with
      | some b => exact hnext rfl
      | none =>
        by_cases hu : c = .char 'u'
        · have hf := h.hasFourBytes_eq hE
          simp only [if_pos hu, hf]
          by_cases hs : hasFourBytes s'
          · rw [if_pos hs, if_pos hs]
            exact hnext rfl
          · rw [if_neg hs, if_neg hs]
            exact .failAt _ _ _
        · simp only [if_neg hu]
          exact .failAt _ _ _
    | digits left n high =>
      rw [stringRest, stringRest]
      cases hx : hexValue? c with
      | none => exact .failAt _ _ _
      | some b =>
        have hpass := (Spot.pass_hex hx d).symm
        by_cases hl : 1 < left
        · simp only [if_pos hl]
          exact hnext hpass
        · simp only [if_neg hl]
          cases escaped (16 * n + b) high with
          | char e => exact hnext hpass
          | half e => exact hnext hpass
          | lone => exact .failAt _ _ _
    | pairBackslash high =>
      rw [stringRest, stringRest]
      by_cases hb : c = .char '\\'
      · rw [if_pos hb, if_pos hb]
        subst hb
        exact hnext rfl
      · rw [if_neg hb, if_neg hb]
        exact .failAt _ _ _
    | pairLetter high =>
      rw [stringRest, stringRest]
      by_cases hu : c = .char 'u'
      · have hf := h.hasFourBytes_eq hE
        simp only [if_pos hu, hf]
        by_cases hs : hasFourBytes s'
        · rw [if_pos hs, if_pos hs]
          exact hnext rfl
        · rw [if_neg hs, if_neg hs]
          exact .failAt _ _ _
      · simp only [if_neg hu]
        exact .failAt _ _ _

theorem stringBody_lockstep (hE : PartsAtCommas E) (h : Abreast E (d, .string) s s') :
    Lockstep (Reads Eq E (d, .plain) 0 s s') (stringBody s) (stringBody s') := by
  have hp : Abreast E (d, StringMode.plain.inside) s s' := h
  exact stringRest_lockstep hE hp

/-! ## Numbers -/

theorem isOrdinary_of_digit? {c : Symbol} {n : Nat} (h : digit? c = some n) : IsOrdinary c := by
  intro hc
  have hnone : ∀ c ∈ [Symbol.char '\x22', .char '[', .char '{', .char ']', .char '}'],
      digit? c = none := by decide
  exact nomatch (hnone c hc).symm.trans h

theorem digitRun_lockstep (hE : PartsAtCommas E) (h : Abreast E (d, .plain) s s') :
    Lockstep (Reads Eq E (d, .plain) 0 s s') (digitRun s) (digitRun s') := by
  generalize hp : (d, Inside.plain) = p at h
  induction h with
  | part h =>
    obtain ⟨r, r', rfl, rfl, -⟩ := id (hE _ _ h)
    exact .ok ⟨rfl, .refl (hp ▸ .part h)⟩
  | nil p => exact .ok ⟨rfl, .refl (hp ▸ .nil _)⟩
  | @cons p c s s' h ih =>
    subst hp
    rw [digitRun, digitRun]
    cases hc : digit? c with
    | none => exact .ok ⟨rfl, .refl (.cons h)⟩
    | some n =>
      rw [Spot.pass_ordinary (isOrdinary_of_digit? hc)] at ih
      refine (ih rfl).bind ?_
      rintro ⟨ds, t⟩ ⟨_, t'⟩ ⟨rfl, ht⟩
      exact .ok ⟨rfl, ht.behind⟩

theorem floatOf_lockstep (negative : Bool) (n : Nat) (e : Int) (h : Abreast E (d, .plain) s s') :
    Lockstep (Reads Eq E (d, .plain) 0 s s') (floatOf negative n e s)
      (floatOf negative n e s') := by
  unfold floatOf
  cases scaled? negative n e with
  | some x => exact .ok ⟨rfl, .refl h⟩
  | none => exact .failAt _ _ _

theorem exponentSign_ahead (hE : PartsAtCommas E) (h : Abreast E (d, .plain) s s') :
    Reads Eq E (d, .plain) 0 s s' (exponentSign s) (exponentSign s') := by
  cases h with
  | part h =>
    obtain ⟨r, r', rfl, rfl, -⟩ := id (hE _ _ h)
    exact ⟨rfl, .refl (.part h)⟩
  | nil => exact ⟨rfl, .refl (.nil _)⟩
  | @cons _ c s s' h =>
    by_cases hp : c = .char '+'
    · subst hp
      exact ⟨rfl, (Ahead.tail h).weaken (Nat.zero_le _)⟩
    · by_cases hm : c = .char '-'
      · subst hm
        exact ⟨rfl, (Ahead.tail h).weaken (Nat.zero_le _)⟩
      · have hs : ∀ s, exponentSign (c :: s) = (false, c :: s) := by
          intro s
          unfold exponentSign
          split
          · next he => exact absurd (List.cons.inj he).1 hp
          · next he => exact absurd (List.cons.inj he).1 hm
          · rfl
        rw [hs, hs]
        exact ⟨rfl, .refl (.cons h)⟩

theorem exponentPart_lockstep (hE : PartsAtCommas E) (negative : Bool) (n : Nat) (e : Int)
    (h : Abreast E (d, .plain) s s') :
    Lockstep (Reads Eq E (d, .plain) 0 s s') (exponentPart negative n e s)
      (exponentPart negative n e s') := by
  have hsign := exponentSign_ahead hE h
  unfold exponentPart
  generalize exponentSign s = a at hsign
  generalize exponentSign s' = b at hsign
  obtain ⟨minus, t⟩ := a
  obtain ⟨_, t'⟩ := b
  obtain ⟨rfl, ht⟩ := hsign
  refine (digitRun_lockstep hE ht.abreast).bind ?_
  rintro ⟨ds, u⟩ ⟨_, u'⟩ ⟨rfl, hu⟩
  have hhead := ht.abreast.head?_eq hE
  have hread := ht.trans hu
  cases t with
  | nil =>
    cases t' with
    | nil => exact .failAt _ _ _
    | cons c' t' => cases hhead
  | cons c t =>
    cases t' with
    | nil => cases hhead
    | cons c' t' =>
      cases ds with
      | nil => exact .failAt _ _ _
      | cons x ds =>
        dsimp only
        split
        · exact (floatOf_lockstep _ _ _ hu.abreast).since hread (Nat.zero_le _)
        · split
          · exact .failAt _ _ _
          · exact (floatOf_lockstep _ _ _ hu.abreast).since hread (Nat.zero_le _)

/-- Both texts start with the letter of an exponent, or neither does. -/
theorem exponentLetter?_ahead (hE : PartsAtCommas E) (h : Abreast E (d, .plain) s s') :
    (exponentLetter? s = none ∧ exponentLetter? s' = none) ∨
      ∃ t t', exponentLetter? s = some t ∧ exponentLetter? s' = some t' ∧
        Ahead E (d, .plain) 1 s s' t t' := by
  cases h with
  | part h =>
    obtain ⟨r, r', rfl, rfl, -⟩ := hE _ _ h
    exact .inl ⟨rfl, rfl⟩
  | nil => exact .inl ⟨rfl, rfl⟩
  | @cons _ c s s' h =>
    by_cases hl : c = .char 'e'
    · subst hl
      exact .inr ⟨s, s', rfl, rfl, .tail h⟩
    · by_cases hu : c = .char 'E'
      · subst hu
        exact .inr ⟨s, s', rfl, rfl, .tail h⟩
      · have hs : ∀ s, exponentLetter? (c :: s) = none := by
          intro s
          unfold exponentLetter?
          split
          · next he => exact absurd (List.cons.inj he).1 hl
          · next he => exact absurd (List.cons.inj he).1 hu
          · rfl
        exact .inl ⟨hs s, hs s'⟩

theorem withExponent_lockstep (hE : PartsAtCommas E) (negative : Bool) (n : Nat) (e : Int)
    (h : Abreast E (d, .plain) s s') :
    Lockstep (Reads Eq E (d, .plain) 0 s s') (withExponent negative n e s)
      (withExponent negative n e s') := by
  unfold withExponent
  rcases exponentLetter?_ahead hE h with ⟨hn, hn'⟩ | ⟨t, t', ht, ht', hread⟩
  · rw [hn, hn']
    exact floatOf_lockstep negative n e h
  · rw [ht, ht']
    exact (exponentPart_lockstep hE negative n e hread.abreast).since hread (Nat.zero_le _)

theorem fractionPart_lockstep (hE : PartsAtCommas E) (negative : Bool) (n : Nat) (e : Int)
    (h : Abreast E (d, .plain) s s') :
    Lockstep (Reads Eq E (d, .plain) 0 s s') (fractionPart negative n e s)
      (fractionPart negative n e s') := by
  refine (digitRun_lockstep hE h).bind ?_
  rintro ⟨ds, t⟩ ⟨_, t'⟩ ⟨rfl, ht⟩
  have hempty : t.isEmpty = t'.isEmpty := by
    have hhead := ht.abreast.head?_eq hE
    cases t <;> cases t' <;> first | rfl | cases hhead
  dsimp only
  rw [hempty]
  split
  · exact .failPast _ _ _
  · exact (withExponent_lockstep hE _ _ _ ht.abreast).since ht (Nat.zero_le _)

/-- A number without a point is whole or has an exponent. -/
theorem numberTail_of_head? (negative : Bool) (n dropped : Nat)
    (h : s.head? ≠ some (.char '.')) :
    numberTail negative n dropped s =
      match exponentLetter? s with
      | some rest => exponentPart negative n dropped rest
      | none =>
        if dropped = 0 then .ok (wholeNumber negative n, s) else floatOf negative n dropped s := by
  unfold numberTail
  split
  · exact absurd rfl h
  · rfl

theorem numberTail_lockstep (hE : PartsAtCommas E) (negative : Bool) (n dropped : Nat)
    (h : Abreast E (d, .plain) s s') :
    Lockstep (Reads Eq E (d, .plain) 0 s s') (numberTail negative n dropped s)
      (numberTail negative n dropped s') := by
  by_cases hp : s.head? = some (.char '.')
  · cases h with
    | part h =>
      obtain ⟨r, r', rfl, rfl, -⟩ := hE _ _ h
      cases hp
    | nil => cases hp
    | @cons _ c s s' h =>
      cases hp
      exact (fractionPart_lockstep hE _ _ _ h).since (.tail h) (Nat.zero_le _)
  · rw [numberTail_of_head? _ _ _ hp, numberTail_of_head? _ _ _ (h.head?_eq hE ▸ hp)]
    rcases exponentLetter?_ahead hE h with ⟨hn, hn'⟩ | ⟨t, t', ht, ht', hread⟩
    · rw [hn, hn']
      dsimp only
      split
      · exact .ok ⟨rfl, .refl h⟩
      · exact floatOf_lockstep negative n dropped h
    · rw [ht, ht']
      exact (exponentPart_lockstep hE negative n dropped hread.abreast).since hread
        (Nat.zero_le _)

theorem numberBody_lockstep (hE : PartsAtCommas E) (negative : Bool)
    (h : Abreast E (d, .plain) s s') :
    Lockstep (Reads Eq E (d, .plain) 1 s s') (numberBody negative s) (numberBody negative s') := by
  cases h with
  | part h =>
    obtain ⟨r, r', rfl, rfl, -⟩ := hE _ _ h
    exact .failAt _ _ _
  | nil => exact .failAt _ _ _
  | @cons _ c s s' h =>
    cases hc : digit? c with
    | none =>
      rw [numberBody, numberBody, hc]
      exact .failAt _ _ _
    | some n =>
      rw [Spot.pass_ordinary (isOrdinary_of_digit? hc)] at h
      by_cases hn : n = 0
      · subst hn
        have hs : ∀ s, numberBody negative (c :: s) =
            if (s.head?.bind digit?).isSome then failPast .badNumber s
            else numberTail negative 0 0 s := by
          intro s
          rw [numberBody, hc]
          rfl
        rw [hs, hs, h.head?_eq hE]
        split
        · exact .failPast _ _ _
        · exact (numberTail_lockstep hE _ _ _ h).since (.tail h) (Nat.le_refl _)
      · obtain ⟨m, rfl⟩ := Nat.exists_eq_succ_of_ne_zero hn
        rw [numberBody, numberBody, hc]
        refine (digitRun_lockstep hE h).bind ?_
        rintro ⟨ds, t⟩ ⟨_, t'⟩ ⟨rfl, ht⟩
        exact (numberTail_lockstep hE _ _ _ ht.abreast).since ((Ahead.tail h).trans ht)
          (Nat.le_refl _)

end

end SourceRegistry.Json
