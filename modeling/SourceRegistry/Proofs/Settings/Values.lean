import SourceRegistry.Proofs.Number.Numerals
import SourceRegistry.Proofs.Text.Space
import SourceRegistry.Settings.Environment

/-!
# Values of variables

The value of a variable is taken for a truth value or a number before it is known what it is for,
and a text or a count is made of that again. A text comes back as it was unless it spells a truth
value or a number in an unusual way (`spelling_eq_iff`), and so does the numeral of a number unless
it goes through a binary number that is not the same (`rounded_eq_iff`).
-/

namespace SourceRegistry

theorem Binary64.mem_digits {c : Char} (h : c.isDigit = true) : c ∈ "0123456789".toList := by
  have hc : 48 ≤ c.toNat ∧ c.toNat ≤ 57 := Char.isDigit_iff_toNat.1 h
  have hall : ∀ k < 10, Char.ofNat (48 + k) ∈ "0123456789".toList := by decide
  have hmem := hall (c.toNat - 48) (by omega)
  rwa [Nat.add_sub_cancel' hc.1, Char.ofNat_toNat] at hmem

theorem Text.isUncased_of_isDigit {c : Char} (h : c.isDigit = true) : isUncased c = true := by
  have hall : "0123456789".toList.all isUncased = true := by decide +kernel
  exact List.all_eq_true.1 hall c (Binary64.mem_digits h)

/-- A text begins in lower case as it did, if it begins with no letter. -/
theorem Text.toList_lower_of_isUncased {c : Char} (hc : isUncased c = true) {s : String}
    {cs : List Char} (hs : s.toList = c :: cs) :
    (lower s).toList = c :: lowerChars [c] cs := by
  obtain ⟨hsigma, hdot, hpartner⟩ := of_decide_eq_true hc
  rw [toList_lower, hs, lowerChars, lowerChar, if_neg hsigma, if_neg hdot, hpartner]
  rfl

namespace Environment

def IsTruth (v : String) : Prop := Text.lower v = "true" ∨ Text.lower v = "false"

instance (v : String) : Decidable (IsTruth v) := inferInstanceAs (Decidable (_ ∨ _))

/-- What the value of a variable comes to as a text. -/
def spelling (v : String) : String :=
  if IsTruth v then Text.lower v
  else
    match Setting.int? v with
    | some n => toString n
    | none => (Binary64.ofText? v).elim v Setting.floatText

/-- A text that spells a truth value or a number in an unusual way. -/
inductive Reworded (v : String) : Prop
  | truth (h : IsTruth v) (hne : Text.lower v ≠ v)
  | whole {n : Int} (h : Setting.int? v = some n) (hne : toString n ≠ v)
  | number {x : Binary64} (hw : Setting.int? v = none) (h : Binary64.ofText? v = some x)
    (hne : Setting.floatText x ≠ v)

section
variable {v : String}

theorem not_isTruth_of_isUncased {c : Char} (hc : Text.isUncased c = true) (hne : c ∉ ['t', 'f'])
    {cs : List Char} (hv : v.toList = c :: cs) : ¬ IsTruth v := by
  have hlower := Text.toList_lower_of_isUncased hc hv
  rintro (ht | hf)
  · rw [ht] at hlower
    exact hne ((List.cons.inj hlower).1 ▸ .head _)
  · rw [hf] at hlower
    exact hne ((List.cons.inj hlower).1 ▸ .tail _ (.head _))

theorem spelling_of_truth (ht : IsTruth v) : spelling v = Text.lower v := if_pos ht

theorem spelling_of_whole (ht : ¬ IsTruth v) {n : Int} (h : Setting.int? v = some n) :
    spelling v = toString n := by
  rw [spelling, if_neg ht, h]

theorem spelling_of_not_whole (ht : ¬ IsTruth v) (h : Setting.int? v = none) :
    spelling v = (Binary64.ofText? v).elim v Setting.floatText := by
  rw [spelling, if_neg ht, h]

theorem Reworded.spelling_ne (h : Reworded v) : spelling v ≠ v := by
  intro he
  by_cases ht : IsTruth v
  · -- the two words themselves are no numbers
    rw [spelling_of_truth ht] at he
    have hv : v = "true" ∨ v = "false" := he ▸ ht
    have hwhole : Setting.int? v = none := by rcases hv with rfl | rfl <;> decide
    have hnumber : Binary64.ofText? v = none := by rcases hv with rfl | rfl <;> decide
    cases h with
    | truth _ hne => exact hne he
    | whole hn _ => cases hwhole.symm.trans hn
    | number _ hx _ => cases hnumber.symm.trans hx
  · cases h with
    | truth h _ => exact ht h
    | whole hn hne => exact hne (spelling_of_whole ht hn ▸ he)
    | number hn hx hne =>
      rw [spelling_of_not_whole ht hn, hx] at he
      exact hne he

theorem reworded_of_spelling_ne (hne : spelling v ≠ v) : Reworded v := by
  by_cases ht : IsTruth v
  · exact .truth ht (spelling_of_truth ht ▸ hne)
  · cases hn : Setting.int? v with
    | some n => exact .whole hn (spelling_of_whole ht hn ▸ hne)
    | none =>
      rw [spelling_of_not_whole ht hn] at hne
      cases hx : Binary64.ofText? v with
      | some x =>
        rw [hx] at hne
        exact .number hn hx hne
      | none =>
        rw [hx] at hne
        exact absurd rfl hne

/-- A text comes back as it was, unless it is reworded. -/
theorem spelling_eq_iff : spelling v = v ↔ ¬ Reworded v :=
  ⟨fun he h => h.spelling_ne he, fun h => by_contra fun hne => h (reworded_of_spelling_ne hne)⟩

theorem text?_valueOf {name : String} (hname : name ≠ listName) (v : String) :
    (valueOf name v).text? = some (spelling v) := by
  unfold valueOf spelling IsTruth
  by_cases ht : Text.lower v = "true"
  · simp [ht, Setting.text?]
  · by_cases hf : Text.lower v = "false"
    · simp [hf, Setting.text?]
    · simp only [ht, hf, or_self, if_false]
      cases Setting.int? v with
      | some n => rfl
      | none =>
        cases Binary64.ofText? v with
        | some x => rfl
        | none => simp [hname, Setting.text?]

/-- No truth value and no number starts with a slash. -/
theorem not_reworded_of_slash (h : v.toList.head? = some '/') : ¬ Reworded v := by
  obtain ⟨cs, hcs⟩ := List.head?_eq_some_iff.1 h
  have hsplit : Binary64.splitSign v.toList = (false, '/' :: cs) := by
    rw [hcs]
    rfl
  obtain ⟨hinf, hnan⟩ := Binary64.word_ne (c := '/') (by decide) cs
  rintro (⟨ht, -⟩ | ⟨hn, -⟩ | ⟨-, hx, -⟩)
  · exact not_isTruth_of_isUncased (by decide +kernel) (by decide) hcs ht
  · rw [Setting.int?, Setting.wholeText?, hsplit] at hn
    cases hn
  · rw [Binary64.ofText?, Binary64.ofChars?, hsplit] at hx
    dsimp only at hx
    rw [if_neg hinf, if_neg hnan] at hx
    cases hx

end

/-! ### Texts that are not blank -/

theorem trim_ne_of_mem {s : String} {c : Char} (h : c ∈ s.toList) (hc : Text.isSpace c = false) :
    Text.trim s ≠ "" := fun he =>
  Bool.false_ne_true (hc.symm.trans (Text.trim_eq_empty_iff.1 he c h))

/-- Numerals are not blank. -/
theorem exists_toDigits_not_isSpace (n : Nat) :
    ∃ c ∈ Nat.toDigits 10 n, Text.isSpace c = false := by
  obtain ⟨c, cs, hcs, hc⟩ := Binary64.exists_toDigits_eq_cons n
  rw [Binary64.isDigit_eq] at hc
  exact ⟨c, hcs ▸ List.mem_cons_self .., Text.isSpace_of_isDigit hc⟩

theorem trim_toString_ne (n : Int) : Text.trim (toString n) ≠ "" := by
  cases n with
  | ofNat n =>
    obtain ⟨c, hmem, hc⟩ := exists_toDigits_not_isSpace n
    have hlist : (toString (Int.ofNat n)).toList = Nat.toDigits 10 n := Nat.toList_repr
    exact trim_ne_of_mem (hlist ▸ hmem) hc
  | negSucc n =>
    obtain ⟨c, hmem, hc⟩ := exists_toDigits_not_isSpace (n + 1)
    have hlist : (toString (Int.negSucc n)).toList = '-' :: Nat.toDigits 10 (n + 1) := by
      show ("-" ++ (n + 1).repr).toList = _
      rw [String.toList_append, Nat.toList_repr]
      rfl
    exact trim_ne_of_mem (hlist ▸ .tail _ hmem) hc

theorem exists_positional_not_isSpace (style : DecimalStyle) (d : Decimal) :
    ∃ c ∈ style.positional d, Text.isSpace c = false := by
  obtain ⟨c, hmem, hc⟩ := exists_toDigits_not_isSpace d.digits
  unfold DecimalStyle.positional
  dsimp only
  split
  · exact ⟨c, by simp [hmem], hc⟩
  · split
    · exact ⟨'.', by simp, by decide⟩
    · exact ⟨'.', by simp, by decide⟩

theorem trim_floatText_ne (x : Binary64) : Text.trim (Setting.floatText x) ≠ "" := by
  have hpositional :
      ∃ d, Setting.numberStyle.magnitudeText x = Setting.numberStyle.positional d := by
    unfold DecimalStyle.magnitudeText
    split
    · exact ⟨_, rfl⟩
    · exact ⟨_, rfl⟩
  obtain ⟨d, hd⟩ := hpositional
  obtain ⟨c, hmem, hc⟩ := exists_positional_not_isSpace Setting.numberStyle d
  unfold Setting.floatText
  split
  · decide
  · split
    · refine trim_ne_of_mem (c := c) ?_ hc
      simp [DecimalStyle.write, hd, hmem]
    · split <;> decide

theorem trim_spelling_ne {v : String} (h : Text.trim v ≠ "") : Text.trim (spelling v) ≠ "" := by
  by_cases ht : IsTruth v
  · rw [spelling_of_truth ht]
    rcases ht with ht | ht <;> rw [ht] <;> decide
  · cases hi : Setting.int? v with
    | some n => exact spelling_of_whole ht hi ▸ trim_toString_ne n
    | none =>
      rw [spelling_of_not_whole ht hi]
      cases Binary64.ofText? v with
      | some x => exact trim_floatText_ne x
      | none => exact h

end Environment

/-! ## Counts -/

/-- What the numeral of a number comes to as a count: above `2 ^ 63` it goes through a binary
number. -/
def Environment.rounded (n : Nat) : Nat :=
  if n < twoPow 63 then n else min (2048 * Binary64.divideEven n 2048) (Word.greatest 64)

namespace Setting

theorem wholeText?_toString (n : Nat) : wholeText? (toString n) = some (false, n) := by
  rw [wholeText?, Nat.toString_eq_repr, Nat.toList_repr, Binary64.splitSign_toDigits]
  simp [Binary64.all_isDigit_toDigits, Binary64.numeral_toDigits]

theorem int?_toString (n : Nat) :
    int? (toString n) = if Word.fitsSigned 64 (n : Int) then some (n : Int) else none := by
  rw [int?, wholeText?_toString, Option.bind_eq_bind, Option.bind_some]
  dsimp only
  rw [if_neg Bool.false_ne_true]

theorem fitsSigned_iff (n : Nat) : Word.fitsSigned 64 (n : Int) = true ↔ n < twoPow 63 := by
  have h63 : twoPow (64 - 1) = twoPow 63 := rfl
  simp only [Word.fitsSigned, decide_eq_true_eq, h63]
  omega

theorem countOf_nearest {n : Nat} (hlow : twoPow 63 ≤ n) (hhigh : n < twoPow 64) :
    countOf (Binary64.nearest ⟨n, 0⟩) = Environment.rounded n := by
  have hzero : n ≠ 0 := Nat.ne_of_gt (Nat.lt_of_lt_of_le (by decide) hlow)
  have hdigits : n < tenPow 100 := Nat.lt_trans hhigh (by decide)
  obtain ⟨hfinite, hnan, hround⟩ := Binary64.round_large hlow hhigh
  have hrounded : Environment.rounded n =
      min (2048 * Binary64.divideEven n 2048) (Word.greatest 64) := if_neg (Nat.not_lt.2 hlow)
  rw [hrounded, Binary64.nearest_whole hzero hdigits]
  generalize 2048 * Binary64.divideEven n 2048 = m at hround ⊢
  simp only [countOf, hfinite, hnan, hround, Bool.false_eq_true, if_false, if_true,
    Int.toNat_natCast]

end Setting

namespace Environment

theorem not_isTruth_toString (n : Nat) : ¬ IsTruth (toString n) := by
  obtain ⟨c, cs, hcs, hc⟩ := Binary64.exists_toDigits_eq_cons n
  rw [Binary64.isDigit_eq] at hc
  refine not_isTruth_of_isUncased (Text.isUncased_of_isDigit hc) ?_ (Nat.toList_repr.trans hcs)
  intro h
  simp only [List.mem_cons, List.not_mem_nil, or_false] at h
  rcases h with rfl | rfl <;> exact absurd hc (by decide)

theorem valueOf_toString (name : String) (n : Nat) :
    valueOf name (toString n) =
      if n < twoPow 63 then .int n else .float (Binary64.nearest ⟨n, 0⟩) := by
  obtain ⟨ht, hf⟩ := not_or.1 (not_isTruth_toString n)
  rw [valueOf]
  simp only [ht, hf, if_false, Setting.int?_toString, Binary64.ofText?_toString]
  by_cases hn : n < twoPow 63
  · simp only [if_pos hn, if_pos ((Setting.fitsSigned_iff n).2 hn)]
  · simp only [if_neg hn, if_neg fun h => hn ((Setting.fitsSigned_iff n).1 h)]

theorem count?_valueOf {n : Nat} (h : n < twoPow 64) (name : String) :
    (valueOf name (toString n)).count? = some (rounded n) := by
  rw [valueOf_toString]
  by_cases hn : n < twoPow 63
  · have hfits : Word.fits 64 n = true := decide_eq_true h
    rw [if_pos hn, rounded, if_pos hn]
    simp [Setting.count?, hfits]
  · rw [if_neg hn, Setting.count?, Setting.countOf_nearest (Nat.not_lt.1 hn) h]

theorem fits_rounded {bits n : Nat} (hbits : bits ≤ 64) (h : Word.fits bits n) :
    Word.fits bits (rounded n) := by
  by_cases hn : n < twoPow 63
  · rwa [rounded, if_pos hn]
  · have hall : bits = 64 := by
      by_contra hne
      have hle : twoPow bits ≤ twoPow 63 := Nat.pow_le_pow_right (by decide) (by omega)
      exact hn (Nat.lt_of_lt_of_le (of_decide_eq_true h) hle)
    subst hall
    rw [rounded, if_neg hn]
    exact decide_eq_true (Nat.lt_of_le_of_lt (Nat.min_le_right _ _) (by decide))

theorem unsigned?_valueOf {bits n : Nat} (hbits : bits ≤ 64) (h : Word.fits bits n)
    (name : String) : (valueOf name (toString n)).unsigned? bits = some (rounded n) := by
  have hle : twoPow bits ≤ twoPow 64 := Nat.pow_le_pow_right (by decide) hbits
  rw [Setting.unsigned?, count?_valueOf (Nat.lt_of_lt_of_le (of_decide_eq_true h) hle),
    Option.filter_some, if_pos (fits_rounded hbits h)]

theorem rounded_ne_zero {n : Nat} (h : n ≠ 0) : rounded n ≠ 0 := by
  have h63 : twoPow 63 = 9223372036854775808 := rfl
  have hgreatest : Word.greatest 64 = 18446744073709551615 := rfl
  have hquotient := (Binary64.divideEven_bounds n 2048).1
  unfold rounded
  rw [hgreatest]
  split <;> omega

/-- Of the large numbers those are left alone that are multiples of `2 ^ 11`, and the greatest. -/
theorem rounded_eq_iff {n : Nat} (h : n < twoPow 64) :
    rounded n = n ↔ n < twoPow 63 ∨ 2048 ∣ n ∨ n = Word.greatest 64 := by
  have h64 : twoPow 64 = 18446744073709551616 := rfl
  have hgreatest : Word.greatest 64 = 18446744073709551615 := rfl
  unfold rounded Binary64.divideEven
  rw [hgreatest]
  dsimp only
  split
  · omega
  · split <;> omega

end Environment

end SourceRegistry
