import Mathlib.Algebra.Group.Nat.Defs
import SourceRegistry.Proofs.Number.Numerals
import SourceRegistry.Proofs.Text.Space
import SourceRegistry.Time.Rfc3339

/-!
# Instants are read back from their texts

The text of an instant is read as the instant, in all years that dates reach and with all
nanoseconds: `decode_text`. A reader takes as many digits as were written, because each number has
its width or is followed by something else.
-/

namespace SourceRegistry.Instant

open Text (isSpace)

structure Valid (t : Instant) : Prop where
  date : t.date.Valid
  hour_lt : t.hour < 24
  minute_lt : t.minute < 60
  second_le : t.second ≤ 60
  nanosecond_lt : t.nanosecond < 1000000000

theorem isDigit_of_mem_padded {width n : Nat} {c : Char} (h : c ∈ padded width n) :
    isDigit c = true := by
  rcases List.mem_append.1 h with h | h
  · rw [List.eq_of_mem_replicate h]
    rfl
  · exact Binary64.isDigit_of_mem h

theorem numeral_padded (width n : Nat) : numeral (padded width n) = n := by
  have hzeros : ∀ k, (List.replicate k '0').foldl (fun n c => 10 * n + (c.toNat - 48)) 0 = 0 := by
    intro k
    induction k with
    | zero => rfl
    | succ k ih =>
      rw [List.replicate_succ, List.foldl_cons]
      exact ih
  rw [numeral, padded, List.foldl_append, hzeros]
  exact Binary64.numeral_toDigits n

theorem length_padded {width n : Nat} (hwidth : 0 < width) (h : n < 10 ^ width) :
    (padded width n).length = width := by
  have hle := (Nat.length_toDigits_le_iff (by decide) hwidth).2 h
  rw [padded, List.length_append, List.length_replicate]
  omega

theorem exists_padded_eq_cons (width n : Nat) :
    ∃ c cs, padded width n = c :: cs ∧ isDigit c = true := by
  have hne : padded width n ≠ [] := List.append_ne_nil_of_right_ne_nil _ Nat.toDigits_ne_nil
  obtain ⟨c, cs, hc⟩ := List.exists_cons_of_ne_nil hne
  exact ⟨c, cs, hc, isDigit_of_mem_padded (hc ▸ List.mem_cons_self)⟩

theorem isSpace_of_isDigit {c : Char} (h : isDigit c = true) : isSpace c = false :=
  Text.isSpace_of_isDigit ((Binary64.isDigit_eq c).symm.trans h)

theorem fitsSigned_iff {bits : Nat} {n : Int} : Word.fitsSigned bits n = true ↔
    -(twoPow (bits - 1) : Int) ≤ n ∧ n < twoPow (bits - 1) := decide_eq_true_iff

/-- Digits that are taken for a number. -/
theorem digits_of_run (width : Option Nat) (cs : List Char) {ds : List Char} (hne : ds ≠ [])
    (hfits : numeral ds < twoPow 63)
    (hrun : width.elim (cs.takeWhile isDigit) (cs.takeWhile isDigit).take = ds) :
    digits width cs = .ok (numeral ds, cs.drop ds.length) := by
  obtain ⟨d, ds, rfl⟩ := List.exists_cons_of_ne_nil hne
  have hcs : cs ≠ [] := by
    rintro rfl
    cases width <;> simp at hrun
  obtain ⟨c, cs, rfl⟩ := List.exists_cons_of_ne_nil hcs
  have hword : Word.fitsSigned 64 (numeral (d :: ds)) = true :=
    fitsSigned_iff.2 ⟨by omega, Int.ofNat_lt.2 hfits⟩
  unfold digits
  cases width with
  | none =>
    dsimp only [Option.elim] at hrun ⊢
    rw [hrun]
    exact if_pos hword
  | some n =>
    dsimp only [Option.elim] at hrun ⊢
    rw [hrun]
    exact if_pos hword

section
variable {width n : Nat}

theorem padded_ne_nil (width n : Nat) : padded width n ≠ [] := by
  obtain ⟨c, cs, hcs, -⟩ := exists_padded_eq_cons width n
  rw [hcs]
  exact List.cons_ne_nil c cs

theorem takeWhile_padded_append (s : List Char) :
    (padded width n ++ s).takeWhile isDigit = padded width n ++ s.takeWhile isDigit :=
  List.takeWhile_append_of_pos fun _ h => isDigit_of_mem_padded h

/-- A number that fills its width is read whatever follows it. -/
theorem digits_padded (hwidth : 0 < width) (h : n < 10 ^ width) (hfits : n < twoPow 63)
    (s : List Char) : digits (some width) (padded width n ++ s) = .ok (n, s) := by
  have hrun : ((padded width n ++ s).takeWhile isDigit).take width = padded width n := by
    rw [takeWhile_padded_append, List.take_left' (length_padded hwidth h)]
  have hread := digits_of_run (some width) _ (padded_ne_nil width n) (by rwa [numeral_padded]) hrun
  rwa [numeral_padded, List.drop_left] at hread

/-- A number is read in front of something else. -/
theorem digits_padded_cons {bound : Option Nat} (hbound : ∀ k ∈ bound, (padded width n).length ≤ k)
    (hfits : n < twoPow 63) {c : Char} (hc : isDigit c = false) (s : List Char) :
    digits bound (padded width n ++ c :: s) = .ok (n, c :: s) := by
  have hrun : (padded width n ++ c :: s).takeWhile isDigit = padded width n := by
    rw [takeWhile_padded_append, List.takeWhile_cons_of_neg (by rw [hc]; exact Bool.false_ne_true),
      List.append_nil]
  have htaken : bound.elim ((padded width n ++ c :: s).takeWhile isDigit)
      ((padded width n ++ c :: s).takeWhile isDigit).take = padded width n := by
    rw [hrun]
    cases bound with
    | none => rfl
    | some k => exact List.take_of_length_le (hbound k rfl)
  have hread := digits_of_run bound _ (padded_ne_nil width n) (by rwa [numeral_padded]) htaken
  rwa [numeral_padded, List.drop_left] at hread

end

theorem skipSpace_cons {c : Char} (hc : isSpace c = false) (s : List Char) :
    skipSpace (c :: s) = c :: s :=
  List.dropWhile_cons_of_neg (by rw [hc]; exact Bool.false_ne_true)

theorem skipSpace_padded (width n : Nat) (s : List Char) :
    skipSpace (padded width n ++ s) = padded width n ++ s := by
  obtain ⟨c, cs, hcs, hc⟩ := exists_padded_eq_cons width n
  rw [hcs, List.cons_append, skipSpace_cons (isSpace_of_isDigit hc)]

theorem mark_cons {c : Char} (hc : isSpace c = false) (s : List Char) :
    mark c (c :: s) = .ok s := by
  rw [mark, skipSpace_cons hc]
  exact if_pos rfl

theorem field_padded {least greatest n : Nat} (hlow : least ≤ n) (hhigh : n ≤ greatest)
    (h : greatest < 100) (s : List Char) :
    field least greatest (padded 2 n ++ s) = .ok (n, s) := by
  have hfits : n < twoPow 63 := Nat.lt_trans (Nat.lt_of_le_of_lt hhigh h) (by decide)
  rw [field, skipSpace_padded, digits_padded (by decide) (Nat.lt_of_le_of_lt hhigh h) hfits]
  exact if_pos ⟨hlow, hhigh⟩

/-- `yearField` with any bound on the year, which is not to be computed in proofs. -/
def boundedYear (fits : Int → Bool) : Reader Int := fun cs => do
  let (y, cs) ← match skipSpace cs with
    | '-' :: cs => do
      let (n, cs) ← digits none cs
      .ok (-(n : Int), cs)
    | '+' :: cs => do
      let (n, cs) ← digits none cs
      .ok ((n : Int), cs)
    | cs => do
      let (n, cs) ← digits (some 4) cs
      .ok ((n : Int), cs)
  if fits y then .ok (y, cs) else .error .outOfRange

theorem yearField_eq : yearField = boundedYear (Word.fitsSigned 32) := rfl

section
variable {fits : Int → Bool} {n : Nat} {s t : List Char}

theorem boundedYear_minus (h : digits none s = .ok (n, t)) (hfits : fits (-(n : Int)) = true) :
    boundedYear fits ('-' :: s) = .ok (-(n : Int), t) := by
  rw [boundedYear, skipSpace_cons (by decide)]
  split
  · next he =>
    obtain rfl := (List.cons.inj he).2
    rw [h]
    exact if_pos hfits
  · next he => exact absurd (List.cons.inj he).1 (by decide)
  · next hminus _ => exact absurd rfl (hminus s)

theorem boundedYear_plus (h : digits none s = .ok (n, t)) (hfits : fits n = true) :
    boundedYear fits ('+' :: s) = .ok ((n : Int), t) := by
  rw [boundedYear, skipSpace_cons (by decide)]
  split
  · next he => exact absurd (List.cons.inj he).1 (by decide)
  · next he =>
    obtain rfl := (List.cons.inj he).2
    rw [h]
    exact if_pos hfits
  · next _ hplus => exact absurd rfl (hplus s)

theorem boundedYear_digit {c : Char} (hc : isDigit c = true)
    (h : digits (some 4) (c :: s) = .ok (n, t)) (hfits : fits n = true) :
    boundedYear fits (c :: s) = .ok ((n : Int), t) := by
  rw [boundedYear, skipSpace_cons (isSpace_of_isDigit hc)]
  split
  · next he =>
    obtain ⟨rfl, -⟩ := List.cons.inj he
    cases hc
  · next he =>
    obtain ⟨rfl, -⟩ := List.cons.inj he
    cases hc
  · rw [h]
    exact if_pos hfits

end

/-- A year has four digits, or a sign and ends in front of a hyphen. -/
theorem yearField_yearChars {year : Int} (hlow : firstYear ≤ year) (hhigh : year ≤ lastYear)
    (s : List Char) : yearField (yearChars year ++ '-' :: s) = .ok (year, '-' :: s) := by
  have h63 : twoPow 63 = 9223372036854775808 := rfl
  have h31 : twoPow (32 - 1) = 2147483648 := rfl
  have hfirst : firstYear = -262143 := rfl
  have hlast : lastYear = 262142 := rfl
  have hword : Word.fitsSigned 32 year = true := fitsSigned_iff.2 (by omega)
  rw [yearField_eq]
  unfold yearChars
  split
  · next h =>
    obtain ⟨n, rfl⟩ := Int.eq_ofNat_of_zero_le h.1
    obtain ⟨c, cs, hcs, hc⟩ := exists_padded_eq_cons 4 n
    have hread : digits (some 4) (padded 4 n ++ '-' :: s) = .ok (n, '-' :: s) :=
      digits_padded (by decide) (by omega) (by omega) _
    rw [hcs, List.cons_append] at hread
    rw [Int.toNat_natCast, hcs, List.cons_append, boundedYear_digit hc hread hword]
  · have hread : digits none (padded 4 year.natAbs ++ '-' :: s) = .ok (year.natAbs, '-' :: s) :=
      digits_padded_cons (by simp) (by omega) rfl s
    split
    · have hyear : -(year.natAbs : Int) = year := by omega
      rw [List.cons_append, boundedYear_minus hread (by rwa [hyear]), hyear]
    · have hyear : (year.natAbs : Int) = year := by omega
      rw [List.cons_append, boundedYear_plus hread (by rwa [hyear]), hyear]

/-- Digits that are left out of a fraction stand for zeros. -/
theorem fraction_padded (width m : Nat) (hpos : 0 < width) (hle : width ≤ 9) (hm : m < 10 ^ width)
    (s : List Char) : fraction ('.' :: (padded width m ++ 'Z' :: s)) =
      .ok (m * tenPow (9 - width), 'Z' :: s) := by
  have hlen := length_padded hpos hm
  have hlt : m < 10 ^ 9 := Nat.lt_of_lt_of_le hm (Nat.pow_le_pow_right (by decide) hle)
  have hread : digits (some 9) (padded width m ++ 'Z' :: s) = .ok (m, 'Z' :: s) :=
    digits_padded_cons (by simpa [hlen] using hle) (Nat.lt_trans hlt (by decide)) rfl s
  have hused : (padded width m ++ 'Z' :: s).length - ('Z' :: s).length = width := by
    rw [List.length_append, Nat.add_sub_cancel, hlen]
  rw [fraction, hread]
  dsimp only [bind, Except.bind]
  rw [hused]
  rfl

/-- A fraction is written with as many digits as it needs. -/
theorem fraction_fractionChars {n : Nat} (h : n < 1000000000) (s : List Char) :
    fraction (fractionChars n ++ 'Z' :: s) = .ok (n, 'Z' :: s) := by
  unfold fractionChars
  split
  · next h0 =>
    subst h0
    rfl
  split
  · next hm =>
    have hread := fraction_padded 3 (n / 1000000) (by decide) (by decide) (by omega) s
    have hn : n / 1000000 * tenPow (9 - 3) = n := Nat.div_mul_cancel (Nat.dvd_of_mod_eq_zero hm)
    rwa [hn] at hread
  split
  · next hm =>
    have hread := fraction_padded 6 (n / 1000) (by decide) (by decide) (by omega) s
    have hn : n / 1000 * tenPow (9 - 6) = n := Nat.div_mul_cancel (Nat.dvd_of_mod_eq_zero hm)
    rwa [hn] at hread
  · have hread := fraction_padded 9 n (by decide) (by decide) (by omega) s
    have hn : n * tenPow (9 - 9) = n := Nat.mul_one n
    rwa [hn] at hread

/-! ## Whole texts -/

theorem addMinutes_zero {t : Instant} (h : t.Valid) : t.addMinutes 0 = t := by
  obtain ⟨date, hour, minute, second, nanosecond⟩ := t
  have hh : hour < 24 := h.hour_lt
  have hm : minute < 60 := h.minute_lt
  have hday : ((60 * hour + minute : Nat) + 0 : Int) / 1440 = 0 := by omega
  have hmod : (((60 * hour + minute : Nat) + 0 : Int) % 1440).toNat = 60 * hour + minute := by omega
  have hhour : (60 * hour + minute) / 60 = hour := by omega
  have hminute : (60 * hour + minute) % 60 = minute := by omega
  simp only [addMinutes, hday, hmod, hhour, hminute]
  rfl

theorem ofLocal_zero {t : Instant} (h : t.Valid) : ofLocal t 0 = .ok t := by
  have hvalid : t.date.isValid = true := Date.isValid_eq_true_iff.2 h.date
  rw [ofLocal, if_pos (by decide)]
  simp only [Int.neg_zero, addMinutes_zero h, hvalid, if_true]

/-- The text of an instant is read as the instant. -/
theorem ofChars_chars {t : Instant} (h : t.Valid) : ofChars t.chars = .ok t := by
  obtain ⟨hyear, hlast, hmonth, htwelve, hday, hdays⟩ := h.date
  have hthirtyOne : t.date.day ≤ 31 := by
    unfold daysInMonth at hdays
    split at hdays <;> split at hdays <;> omega
  have hvalid : t.date.isValid = true := Date.isValid_eq_true_iff.2 h.date
  have hhyphen : ∀ s, mark '-' ('-' :: s) = .ok s := mark_cons (by decide)
  have hcolon : ∀ s, mark ':' (':' :: s) = .ok s := mark_cons (by decide)
  have hseparator : ∀ s, separator ('T' :: s) = .ok s := fun s => rfl
  have hoffset : offset ['Z'] = .ok (0, []) := rfl
  have hend : (skipSpace []).isEmpty = true := rfl
  have hmonths : ∀ s, field 1 12 (padded 2 t.date.month ++ s) = .ok (t.date.month, s) :=
    field_padded hmonth htwelve (by decide)
  have hdays : ∀ s, field 1 31 (padded 2 t.date.day ++ s) = .ok (t.date.day, s) :=
    field_padded hday hthirtyOne (by decide)
  have hhours : ∀ s, field 0 23 (padded 2 t.hour ++ s) = .ok (t.hour, s) :=
    field_padded (Nat.zero_le _) (Nat.le_of_lt_succ h.hour_lt) (by decide)
  have hminutes : ∀ s, field 0 59 (padded 2 t.minute ++ s) = .ok (t.minute, s) :=
    field_padded (Nat.zero_le _) (Nat.le_of_lt_succ h.minute_lt) (by decide)
  have hseconds : ∀ s, field 0 60 (padded 2 t.second ++ s) = .ok (t.second, s) :=
    field_padded (Nat.zero_le _) h.second_le (by decide)
  simp only [chars, List.append_assoc, List.cons_append, ofChars,
    yearField_yearChars hyear hlast, hhyphen, hcolon, hseparator, hmonths, hdays, hhours, hminutes,
    hseconds, fraction_fractionChars h.nanosecond_lt, hoffset, hend, hvalid, ofLocal_zero h, bind,
    Except.bind, Bool.not_true, Bool.false_eq_true, if_false, if_true]

theorem decode_text {t : Instant} (h : t.Valid) : decode t.text = .ok t := by
  rw [decode, text, String.toList_ofList, ofChars_chars h]
  rfl

end SourceRegistry.Instant
