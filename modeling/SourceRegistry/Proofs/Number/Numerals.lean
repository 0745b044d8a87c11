import Mathlib.Data.List.TakeWhile
import SourceRegistry.Number.Nearest

/-!
# Numerals of whole numbers

A whole number is read back from the numeral that it is written as. As a binary number it is kept
up to rounding: between `2 ^ 63` and `2 ^ 64` there are only the multiples of `2 ^ 11` to be rounded
to, `round_large`.
-/

namespace SourceRegistry.Binary64

theorem isDigit_eq (c : Char) : isDigit c = c.isDigit := by
  rw [isDigit, Char.isDigit, Bool.decide_and]
  rfl

theorem isDigit_of_mem {n : Nat} {c : Char} (h : c ∈ Nat.toDigits 10 n) : isDigit c = true :=
  (isDigit_eq c).trans (Nat.isDigit_of_mem_toDigits (by decide) (by decide) h)

theorem all_isDigit_toDigits (n : Nat) : (Nat.toDigits 10 n).all isDigit = true :=
  List.all_eq_true.2 fun _ h => isDigit_of_mem h

theorem numeral_toDigits (n : Nat) : numeral (Nat.toDigits 10 n) = n :=
  Nat.ofDigitChars_toDigits (by decide) (by decide)

/-- A numeral starts with a digit. -/
theorem exists_toDigits_eq_cons (n : Nat) :
    ∃ c cs, Nat.toDigits 10 n = c :: cs ∧ isDigit c = true := by
  obtain ⟨c, cs, hc⟩ := List.exists_cons_of_ne_nil (Nat.toDigits_ne_nil (b := 10) (n := n))
  exact ⟨c, cs, hc, isDigit_of_mem (hc ▸ List.mem_cons_self ..)⟩

theorem splitSign_of_isDigit {c : Char} (h : isDigit c = true) (cs : List Char) :
    splitSign (c :: cs) = (false, c :: cs) := by
  unfold splitSign
  split
  · next he =>
    obtain ⟨rfl, -⟩ := List.cons.inj he
    exact absurd h (by decide)
  · next he =>
    obtain ⟨rfl, -⟩ := List.cons.inj he
    exact absurd h (by decide)
  · rfl

theorem splitSign_toDigits (n : Nat) :
    splitSign (Nat.toDigits 10 n) = (false, Nat.toDigits 10 n) := by
  obtain ⟨c, cs, hcs, hc⟩ := exists_toDigits_eq_cons n
  rw [hcs, splitSign_of_isDigit hc]

theorem unsignedText?_toDigits (n : Nat) : unsignedText? (Nat.toDigits 10 n) = some ⟨n, 0⟩ := by
  have hall : ∀ c ∈ Nat.toDigits 10 n, isDigit c = true := fun _ h => isDigit_of_mem h
  have htake : (Nat.toDigits 10 n).takeWhile isDigit = Nat.toDigits 10 n :=
    List.takeWhile_eq_self_iff.2 hall
  have hdrop : (Nat.toDigits 10 n).dropWhile isDigit = [] := List.dropWhile_eq_nil_iff.2 hall
  have hempty : (Nat.toDigits 10 n).isEmpty = false :=
    List.isEmpty_eq_false_iff.2 Nat.toDigits_ne_nil
  simp [unsignedText?, htake, hdrop, hempty, exponentPart?, numeral_toDigits]

theorem toLower_of_isDigit {c : Char} (h : isDigit c = true) : c.toLower = c := by
  obtain ⟨-, h9⟩ := of_decide_eq_true h
  have h9 : c.val ≤ 57 := h9
  exact dif_neg fun ⟨hA, _⟩ => absurd (UInt32.le_trans hA h9) (by decide)

/-- A text is none of the names that numbers have, if none of them starts as it does. -/
theorem word_ne {c : Char} (hc : c.toLower ∉ ['i', 'n']) (cs : List Char) :
    String.ofList ((c :: cs).map Char.toLower) ∉ infinityNames ∧
      String.ofList ((c :: cs).map Char.toLower) ≠ "nan" := by
  have hne : ∀ word d, word.toList.head? = some d → d ∈ ['i', 'n'] →
      String.ofList ((c :: cs).map Char.toLower) ≠ word := by
    rintro word d hhead hd rfl
    obtain rfl : c.toLower = d := by simpa using hhead
    exact hc hd
  refine ⟨fun h => ?_, hne _ 'n' rfl (by decide)⟩
  simp only [infinityNames, List.mem_cons, List.not_mem_nil, or_false] at h
  rcases h with h | h
  · exact hne _ 'i' rfl (by decide) h
  · exact hne _ 'i' rfl (by decide) h

theorem ofChars?_toDigits (n : Nat) : ofChars? (Nat.toDigits 10 n) = some (nearest ⟨n, 0⟩) := by
  obtain ⟨c, cs, hcs, hc⟩ := exists_toDigits_eq_cons n
  have hlower : c.toLower ∉ ['i', 'n'] := by
    rw [toLower_of_isDigit hc]
    rintro h
    simp only [List.mem_cons, List.not_mem_nil, or_false] at h
    rcases h with rfl | rfl <;> exact absurd hc (by decide)
  obtain ⟨hinf, hnan⟩ := word_ne hlower cs
  rw [← hcs] at hinf hnan
  simp [ofChars?, splitSign_toDigits, hinf, hnan, unsignedText?_toDigits]

theorem ofText?_toString (n : Nat) : ofText? (toString n) = some (nearest ⟨n, 0⟩) := by
  rw [ofText?, Nat.toString_eq_repr, Nat.toList_repr, ofChars?_toDigits]

/-- A number of up to a hundred digits, say, is neither too large nor too small. -/
theorem nearest_whole {n : Nat} (h0 : n ≠ 0) (h : n < tenPow 100) :
    nearest ⟨n, 0⟩ = ofRatio n 1 := by
  have hlen : (Nat.toDigits 10 n).length ≤ 100 :=
    (Nat.length_toDigits_le_iff (by decide) (by decide)).2 h
  have hmag : (⟨n, 0⟩ : Decimal).magnitude = (Nat.toDigits 10 n).length - 1 := by
    simp [Decimal.magnitude]
  rw [nearest, if_neg h0, if_neg (by rw [hmag]; omega), if_neg (by rw [hmag]; omega),
    if_pos (Int.le_refl 0)]
  congr 1
  exact Nat.mul_one n

/-- The nearest whole number is one of the two around the quotient. -/
theorem divideEven_bounds (n d : Nat) : n / d ≤ divideEven n d ∧ divideEven n d ≤ n / d + 1 := by
  unfold divideEven
  dsimp only
  split <;> omega

section Large
variable {n : Nat} (hlow : twoPow 63 ≤ n) (hhigh : n < twoPow 64)
include hlow hhigh

theorem log2_large : n.log2 = 63 :=
  (Nat.log2_eq_iff (Nat.ne_of_gt (Nat.lt_of_lt_of_le (by decide) hlow))).2 ⟨hlow, hhigh⟩

/-- What is kept of a large number: how often `2 ^ 11` goes into it. -/
theorem ofRatio_large :
    ofRatio n 1 = ⟨UInt64.ofNat (1085 * twoPow 52 + divideEven n 2048)⟩ := by
  have hguess : ((Nat.log2 n : Nat) : Int) - ((Nat.log2 1 : Nat) : Int) - 52 = 11 := by
    rw [log2_large hlow hhigh]
    decide
  have hleast : twoPow 52 * 1 * twoPow (Int.toNat 11) ≤ n := hlow
  have hbits : 1085 * twoPow 52 + divideEven n 2048 < infinityBits := by
    have hq := (divideEven_bounds n 2048).2
    have h64 : twoPow 64 = 18446744073709551616 := rfl
    have h52 : twoPow 52 = 4503599627370496 := rfl
    have hinf : infinityBits = 9218868437227405312 := rfl
    omega
  have hexponent : max (11 : Int) (-1074) = 11 := by decide
  have hstep : 1 * twoPow (Int.toNat 11) = 2048 := by decide
  have hplace : (11 + 1074 : Int).toNat = 1085 := by decide
  unfold ofRatio
  simp only [hguess, if_pos (by decide : (0 : Int) ≤ 11), decide_eq_true hleast, if_true,
    hexponent, hstep, hplace, if_pos hbits]

/-- A large number is rounded to a multiple of `2 ^ 11`, and this is what comes back. -/
theorem round_large :
    let x := ofRatio n 1
    x.isFinite = true ∧ x.isNaN = false ∧ x.round = (2048 * divideEven n 2048 : Nat) := by
  have h64 : twoPow 64 = 18446744073709551616 := rfl
  have h63 : twoPow 63 = 9223372036854775808 := rfl
  have h52 : twoPow 52 = 4503599627370496 := rfl
  have h11 : twoPow 11 = 2048 := rfl
  have h12 : twoPow 12 = 4096 := rfl
  obtain ⟨hle, hge⟩ := divideEven_bounds n 2048
  rw [ofRatio_large hlow hhigh]
  generalize divideEven n 2048 = m at hle hge ⊢
  intro x
  have hbits : x.bits.toNat = 1085 * twoPow 52 + m := by
    show (UInt64.ofNat _).toNat = _
    rw [UInt64.toNat_ofNat', h52]
    omega
  have hnegative : x.isNegative = false := by
    simp only [isNegative, hbits, h52, h63, decide_eq_false_iff_not]
    omega
  have hbiased : x.biasedExponent = if m = 2 * twoPow 52 then 1087 else 1086 := by
    simp only [biasedExponent, hbits, h52, h11]
    split <;> omega
  have hfraction : x.fraction = if m = 2 * twoPow 52 then 0 else m - twoPow 52 := by
    simp only [fraction, hbits, h52]
    split <;> omega
  have round_eq : ∀ e : Nat, x.exponent = e → x.significand * twoPow e = 2048 * m →
      x.round = (2048 * m : Nat) := by
    intro e he hm
    have hcast : (e : Int) = .ofNat e := rfl
    rw [round, he, hcast, hnegative]
    exact congrArg Nat.cast hm
  have hpositive : x.biasedExponent ≠ 0 := by
    rw [hbiased]
    split <;> decide
  rw [isFinite, isNaN, hbiased]
  -- the significand may have been rounded up to the next power of two
  by_cases hm : m = 2 * twoPow 52
  · rw [if_pos hm] at hbiased hfraction ⊢
    refine ⟨rfl, rfl, round_eq 12 (by rw [exponent, hbiased]; rfl) ?_⟩
    rw [significand, if_neg hpositive, hfraction, h52, h12]
    omega
  · rw [if_neg hm] at hbiased hfraction ⊢
    refine ⟨rfl, rfl, round_eq 11 (by rw [exponent, hbiased]; rfl) ?_⟩
    rw [significand, if_neg hpositive, hfraction, h52, h11]
    omega

end Large

end SourceRegistry.Binary64
