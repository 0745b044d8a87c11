import SourceRegistry.Proofs.Json.Passing

/-!
# Strings and numbers read whatever stands behind them

What a reader makes of a value does not depend on what stands behind the value: it is `Local`.
Here this is shown for strings, which end with their quote, and for numbers, which end where a
value may end. A string that spells a text is read as that text.
-/

namespace SourceRegistry.Json

open Text (Symbol)

/-- Two results of a reader with the same value, in front of the given rests. -/
def StopsAt {α : Type} (r r' : List Symbol) (a b : α × List Symbol) : Prop :=
  a.1 = b.1 ∧ a.2 = r ∧ b.2 = r'

/-- A reader reads a text as the same value whatever stands behind it, or refuses it for the same
cause. -/
def Local {α : Type} (read : Reader α) (x : List Symbol) : Prop :=
  ∀ r r', Ends r → Ends r' → Lockstep (StopsAt r r') (read (x ++ r)) (read (x ++ r'))

variable {r r' : List Symbol}

/-- What the digits of an escape amount to, and the rest of the string. -/
def afterCode (before : List Char) (s : List Symbol) : Escaped → Except Fault (String × List Symbol)
  | .char d => stringRest (d :: before) true .plain s
  | .half high => stringRest before true (.pairBackslash high) s
  | .lone => failAt .loneSurrogate s

section
variable {c₁ c₂ c₃ c₄ : Symbol} (hc : ∀ c ∈ [c₁, c₂, c₃, c₄], (hexValue? c).isSome)
  (before : List Char) (s : List Symbol)
include hc

theorem stringRest_digits (high : Option Nat) :
    stringRest before true (.digits 4 0 high) (c₁ :: c₂ :: c₃ :: c₄ :: s) =
      afterCode before s (escaped (codePoint [c₁, c₂, c₃, c₄]) high) := by
  simp only [List.mem_cons, List.not_mem_nil, or_false, forall_eq_or_imp, forall_eq,
    Option.isSome_iff_exists] at hc
  obtain ⟨⟨d₁, h₁⟩, ⟨d₂, h₂⟩, ⟨d₃, h₃⟩, ⟨d₄, h₄⟩⟩ := hc
  simp only [stringRest, h₁, h₂, h₃, h₄, codePoint, List.foldl_cons, List.foldl_nil,
    Option.getD_some]
  cases escaped _ high <;> rfl

theorem stringRest_code :
    stringRest before true .plain (.char '\\' :: .char 'u' :: c₁ :: c₂ :: c₃ :: c₄ :: s) =
      afterCode before s (escaped (codePoint [c₁, c₂, c₃, c₄]) none) := by
  have hroom : hasFourBytes (c₁ :: c₂ :: c₃ :: c₄ :: s) := hasFourBytes_of_length (by simp)
  have hu : simpleEscape? (.char 'u') = none := rfl
  rw [stringRest, stringRest, hu]
  dsimp only
  rw [if_pos rfl, if_pos hroom, stringRest_digits hc]

theorem stringRest_half (high : Nat) :
    stringRest before true (.pairBackslash high)
        (.char '\\' :: .char 'u' :: c₁ :: c₂ :: c₃ :: c₄ :: s) =
      afterCode before s (escaped (codePoint [c₁, c₂, c₃, c₄]) (some high)) := by
  have hroom : hasFourBytes (c₁ :: c₂ :: c₃ :: c₄ :: s) := hasFourBytes_of_length (by simp)
  rw [stringRest, if_pos rfl, stringRest, if_pos rfl, if_pos hroom, stringRest_digits hc]

end

theorem stringRest_escape {c : Symbol} {d : Char} (hc : simpleEscape? c = some d)
    (before : List Char) (s : List Symbol) :
    stringRest before true .plain (.char '\\' :: c :: s) =
      stringRest (d :: before) true .plain s := by
  rw [stringRest, stringRest, hc]

/-- The text that a string spells is read from it. -/
theorem stringBody_append {x : List Symbol} {t : List Char} (h : Spells x t) (r : List Symbol) :
    stringBody (x ++ r) = .ok (String.ofList t, r) := by
  have hrest : ∀ before,
      stringRest before true .plain (x ++ r) = .ok (String.ofList (before.reverse ++ t), r) := by
    induction h with
    | close =>
      intro before
      rw [List.append_nil]
      rfl
    | plain hquote hslash hcontrol h ih =>
      intro before
      rw [List.cons_append, stringRest_plain_char hquote hslash, if_neg hcontrol, ih]
      simp
    | escape hc h ih =>
      intro before
      rw [List.cons_append, List.cons_append, stringRest_escape hc, ih]
      simp
    | code hc hd h ih =>
      intro before
      simp only [List.cons_append]
      rw [stringRest_code hc, hd, afterCode, ih]
      simp
    | pair hb hhigh hc hd h ih =>
      intro before
      simp only [List.cons_append]
      rw [stringRest_code hb, hhigh, afterCode, stringRest_half hc, hd, afterCode, ih]
      simp
  exact hrest []

/-- Two runs inside of a string go on together, also where half of a character has been read. -/
theorem stringRest_local {x : List Symbol} (h : IsString x) (r r' : List Symbol)
    (before : List Char) {mode : StringMode}
    (hm : mode = .plain ∨ ∃ high, mode = .pairBackslash high) :
    Lockstep (StopsAt r r') (stringRest before true mode (x ++ r))
      (stringRest before true mode (x ++ r')) := by
  have hhalf : ∀ before {c : Symbol} (high : Nat) (s : List Symbol), c ≠ .char '\\' →
      stringRest before true (.pairBackslash high) (c :: s) = failAt .shortSurrogate s := by
    intro before c high s hc
    rw [stringRest, if_neg hc]
  induction h generalizing before mode with
  | close =>
    rcases hm with rfl | ⟨high, rfl⟩
    · exact .ok ⟨rfl, rfl, rfl⟩
    · exact .failAt _ _ _
  | @plain c x hquote hslash hcontrol h ih =>
    rw [List.cons_append, List.cons_append]
    rcases hm with rfl | ⟨high, rfl⟩
    · rw [stringRest_plain_char hquote hslash, stringRest_plain_char hquote hslash,
        if_neg hcontrol, if_neg hcontrol]
      exact ih _ (.inl rfl)
    · have hc : Symbol.char c ≠ .char '\\' := fun he => hslash (Symbol.char.inj he)
      rw [hhalf _ _ _ hc, hhalf _ _ _ hc]
      exact .failAt _ _ _
  | @escape c x hc h ih =>
    obtain ⟨d, hd⟩ := Option.isSome_iff_exists.1 hc
    simp only [List.cons_append]
    rcases hm with rfl | ⟨high, rfl⟩
    · rw [stringRest_escape hd, stringRest_escape hd]
      exact ih _ (.inl rfl)
    · have hu : c ≠ .char 'u' := by
        rintro rfl
        cases hd
      rw [stringRest, stringRest, if_pos rfl, if_pos rfl, stringRest, stringRest, if_neg hu,
        if_neg hu]
      exact .failAt _ _ _
  | @code c₁ c₂ c₃ c₄ x hc h ih =>
    have hafter : ∀ e : Escaped, Lockstep (StopsAt r r') (afterCode before (x ++ r) e)
        (afterCode before (x ++ r') e) := by
      intro e
      cases e with
      | char d => exact ih _ (.inl rfl)
      | half high => exact ih _ (.inr ⟨high, rfl⟩)
      | lone => exact .failAt _ _ _
    simp only [List.cons_append]
    rcases hm with rfl | ⟨high, rfl⟩
    · rw [stringRest_code hc, stringRest_code hc]
      exact hafter _
    · rw [stringRest_half hc, stringRest_half hc]
      exact hafter _

theorem stringBody_local {x : List Symbol} (h : IsString x) (r r' : List Symbol) :
    Lockstep (StopsAt r r') (stringBody (x ++ r)) (stringBody (x ++ r')) :=
  stringRest_local h r r' [] (.inl rfl)

/-! ## Numbers -/

theorem digitRun_append {x s : List Symbol} (hx : AreDigits x) (hs : ¬ startsWithDigit s) :
    digitRun (x ++ s) = .ok (x.filterMap digit?, s) := by
  induction x with
  | nil =>
    cases s with
    | nil => rfl
    | cons c s =>
      have hc : digit? c = none := Option.not_isSome_iff_eq_none.1 hs
      rw [List.nil_append, digitRun, hc]
      rfl
  | cons c x ih =>
    obtain ⟨d, hd⟩ := Option.isSome_iff_exists.1 (hx c List.mem_cons_self)
    rw [List.cons_append, digitRun, hd, List.filterMap_cons_some hd]
    dsimp only
    rw [ih fun c hc => hx c (List.mem_cons_of_mem _ hc)]
    rfl

theorem floatOf_local (negative : Bool) (n : Nat) (e : Int) (r r' : List Symbol) :
    Lockstep (StopsAt r r') (floatOf negative n e r) (floatOf negative n e r') := by
  unfold floatOf
  cases scaled? negative n e with
  | some x => exact .ok ⟨rfl, rfl, rfl⟩
  | none => exact .failAt _ _ _

theorem exponentPart_local (negative : Bool) (n : Nat) (e : Int) {sign x : List Symbol}
    (hs : sign ∈ [[], [.char '+'], [Symbol.char '-']]) (hx : AreDigits x) (hne : x ≠ [])
    (hr : Ends r) (hr' : Ends r') :
    Lockstep (StopsAt r r') (exponentPart negative n e (sign ++ (x ++ r)))
      (exponentPart negative n e (sign ++ (x ++ r'))) := by
  obtain ⟨minus, hsign⟩ := exponentSign_append hs hx hne
  obtain ⟨c, x, rfl⟩ := List.exists_cons_of_ne_nil hne
  obtain ⟨d, hd⟩ := Option.isSome_iff_exists.1 (hx c List.mem_cons_self)
  have hpart : ∀ {r}, Ends r → exponentPart negative n e (sign ++ (c :: x ++ r)) =
      let k := (d :: x.filterMap digit?).foldl (fun k d => 10 * k + d) 0
      if k < exponentLimit then floatOf negative n (if minus then e - k else e + k) r
      else if n ≠ 0 ∧ !minus then failAt .numberOutOfRange r
      else floatOf negative 0 0 r := by
    intro r hr
    unfold exponentPart
    rw [hsign]
    dsimp only
    rw [digitRun_append hx (hr.not_startsWithDigit (by decide)), List.filterMap_cons_some hd]
    rfl
  rw [hpart hr, hpart hr']
  dsimp only
  split
  · exact floatOf_local _ _ _ _ _
  · split
    · exact .failAt _ _ _
    · exact floatOf_local _ _ _ _ _

/-- What stands behind the digits of a number, seen as its exponent or as the end of it. -/
theorem exponentLetter?_local {x : List Symbol} (h : IsExponent x) :
    (x = [] ∧ ∀ r, Ends r → exponentLetter? (x ++ r) = none) ∨
      ∃ sign y, sign ∈ [[], [.char '+'], [Symbol.char '-']] ∧ AreDigits y ∧ y ≠ [] ∧
        ∀ r, exponentLetter? (x ++ r) = some (sign ++ (y ++ r)) := by
  cases h with
  | none => exact .inl ⟨rfl, fun r hr => exponentLetter?_of_goesOn hr (by decide) (by decide)⟩
  | some hl hs hy hne =>
    refine .inr ⟨_, _, hs, hy, hne, fun r => ?_⟩
    rw [List.cons_append, exponentLetter?_of_mem hl, List.append_assoc]

theorem withExponent_local (negative : Bool) (n : Nat) (e : Int) {x : List Symbol}
    (h : IsExponent x) (hr : Ends r) (hr' : Ends r') :
    Lockstep (StopsAt r r') (withExponent negative n e (x ++ r))
      (withExponent negative n e (x ++ r')) := by
  unfold withExponent
  rcases exponentLetter?_local h with ⟨rfl, hnone⟩ | ⟨sign, y, hs, hy, hne, hsome⟩
  · rw [hnone r hr, hnone r' hr']
    exact floatOf_local _ _ _ _ _
  · rw [hsome, hsome]
    exact exponentPart_local _ _ _ hs hy hne hr hr'

theorem numberTail_local (negative : Bool) (n dropped : Nat) {x y : List Symbol}
    (hx : IsFraction x) (hy : IsExponent y) (hr : Ends r) (hr' : Ends r') :
    Lockstep (StopsAt r r') (numberTail negative n dropped (x ++ (y ++ r)))
      (numberTail negative n dropped (x ++ (y ++ r'))) := by
  cases hx with
  | none =>
    have hpoint : ∀ {r}, Ends r → (y ++ r).head? ≠ some (.char '.') := fun hr =>
      (hy.goesOn hr).head?_ne (by decide)
    rw [List.nil_append, List.nil_append, numberTail_of_head? _ _ _ (hpoint hr),
      numberTail_of_head? _ _ _ (hpoint hr')]
    rcases exponentLetter?_local hy with ⟨rfl, hnone⟩ | ⟨sign, z, hs, hz, hne, hsome⟩
    · rw [hnone r hr, hnone r' hr']
      dsimp only
      split
      · exact .ok ⟨rfl, rfl, rfl⟩
      · exact floatOf_local _ _ _ _ _
    · rw [hsome, hsome]
      exact exponentPart_local _ _ _ hs hz hne hr hr'
  | @some x hx hne =>
    obtain ⟨c, x, rfl⟩ := List.exists_cons_of_ne_nil hne
    obtain ⟨d, hd⟩ := Option.isSome_iff_exists.1 (hx c List.mem_cons_self)
    have hfraction : ∀ {r}, Ends r →
        numberTail negative n dropped (.char '.' :: (c :: x) ++ (y ++ r)) =
          let ds := d :: x.filterMap digit?
          withExponent negative (absorb n ds).1
            (dropped - (ds.length - (absorb n ds).2.length : Nat)) (y ++ r) := by
      intro r hr
      have hgo : ¬ startsWithDigit (y ++ r) := (hy.goesOn hr).not_startsWithDigit (by decide)
      rw [List.cons_append, numberTail, fractionPart, digitRun_append hx hgo,
        List.filterMap_cons_some hd]
      rfl
    rw [hfraction hr, hfraction hr']
    exact withExponent_local _ _ _ hy hr hr'

theorem ne_zero_of_digit? {c : Symbol} {d : Nat} (hc : digit? c = some d) (hz : c ≠ .char '0') :
    d ≠ 0 := by
  rintro rfl
  cases c with
  | stray b => cases hc
  | char c =>
    have hbound : ('0' ≤ c ∧ c ≤ '9') ∧ c.toNat - 48 = 0 := by
      simpa [digit?, Symbol.char?] using hc
    have hle : 48 ≤ c.toNat := hbound.1.1
    have heq : c.toNat = '0'.toNat := by
      show c.toNat = 48
      omega
    exact hz (congrArg Symbol.char (Char.toNat_inj.1 heq))

theorem numberBody_local (negative : Bool) {x : List Symbol} (h : IsNumber x) :
    Local (numberBody negative) x := by
  intro r r' hr hr'
  obtain ⟨hw, hf, he⟩ := h
  rename_i whole fraction exponent
  have hgo : ∀ {r}, Ends r → ¬ startsWithDigit (fraction ++ (exponent ++ r)) := fun hr =>
    (hf.goesOn he hr).not_startsWithDigit (by decide)
  simp only [List.append_assoc]
  cases hw with
  | zero =>
    have hzero : ∀ {r}, Ends r →
        numberBody negative ([.char '0'] ++ (fraction ++ (exponent ++ r))) =
          numberTail negative 0 0 (fraction ++ (exponent ++ r)) := fun hr => if_neg (hgo hr)
    rw [hzero hr, hzero hr']
    exact numberTail_local _ _ _ hf he hr hr'
  | @digits c x hc hz hx =>
    obtain ⟨d, hd⟩ := Option.isSome_iff_exists.1 hc
    obtain ⟨m, rfl⟩ := Nat.exists_eq_succ_of_ne_zero (ne_zero_of_digit? hd hz)
    have hdigits : ∀ {r}, Ends r →
        numberBody negative (c :: x ++ (fraction ++ (exponent ++ r))) =
          let a := absorb (m + 1) (x.filterMap digit?)
          numberTail negative a.1 a.2.length (fraction ++ (exponent ++ r)) := by
      intro r hr
      rw [List.cons_append, numberBody, hd]
      dsimp only
      rw [digitRun_append hx (hgo hr)]
      rfl
    rw [hdigits hr, hdigits hr']
    exact numberTail_local _ _ _ hf he hr hr'

end SourceRegistry.Json
