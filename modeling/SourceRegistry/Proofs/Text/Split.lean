import Mathlib.Algebra.GroupWithZero.Nat
import SourceRegistry.Text.Space

/-!
# Texts cut at single characters

Cutting loses nothing: the pieces joined by the character are the text again, so that a text is
known by its pieces.
-/

namespace SourceRegistry.Text

theorem splitChars_eq_splitOn (c : Char) (cs : List Char) : splitChars c cs = cs.splitOn c := by
  induction cs with
  | nil => rfl
  | cons d cs ih =>
    rw [splitChars, List.splitOn_cons_eq_if_modifyHead, ih]
    by_cases h : d = c
    · simp [h]
    · rw [if_neg h, if_neg (by simpa using h)]
      cases hs : cs.splitOn c with
      | nil => exact absurd hs (List.splitOn_ne_nil c cs)
      | cons piece pieces => rfl

theorem splitChars_append_cons (c : Char) (l r : List Char) :
    splitChars c (l ++ c :: r) = splitChars c l ++ splitChars c r := by
  simp only [splitChars_eq_splitOn, List.splitOn_append_cons_self]

theorem splitChars_of_not_mem {c : Char} {cs : List Char} (h : c ∉ cs) :
    splitChars c cs = [cs] := by
  rw [splitChars_eq_splitOn, List.splitOn_eq_singleton h]

theorem splitChars_injective (c : Char) : Function.Injective (splitChars c) := by
  intro l r h
  rw [splitChars_eq_splitOn, splitChars_eq_splitOn] at h
  calc
    l = [c].intercalate (l.splitOn c) := (List.intercalate_splitOn c).symm
    _ = [c].intercalate (r.splitOn c) := by rw [h]
    _ = r := List.intercalate_splitOn c

theorem not_mem_of_mem_splitChars {c : Char} {cs piece : List Char}
    (h : piece ∈ splitChars c cs) : c ∉ piece := by
  induction cs generalizing piece with
  | nil => simp_all [splitChars]
  | cons d cs ih =>
    rw [splitChars] at h
    by_cases hd : d = c
    · rw [if_pos hd, List.mem_cons] at h
      rcases h with rfl | h
      · simp
      · exact ih h
    · rw [if_neg hd] at h
      split at h
      · next hs =>
        rw [hs] at ih
        rcases List.mem_cons.1 h with rfl | h
        · simpa [Ne.symm hd] using ih List.mem_cons_self
        · exact ih (List.mem_cons_of_mem _ h)
      · rw [List.mem_singleton.1 h]
        simpa using Ne.symm hd

theorem length_splitChars (c : Char) (cs : List Char) :
    (splitChars c cs).length = cs.count c + 1 := by
  induction cs with
  | nil => rfl
  | cons d cs ih =>
    rw [splitChars_eq_splitOn] at ih ⊢
    rw [List.splitOn_cons_eq_if_modifyHead, List.count_cons]
    by_cases h : d = c
    · simp [h, ih]
    · simp [h, ih]

/-- Cutting at one character leaves all copies of another. -/
theorem count_splitChars {c d : Char} (h : d ≠ c) (cs : List Char) :
    ((splitChars c cs).map (List.count d)).sum = cs.count d := by
  induction cs with
  | nil => rfl
  | cons e cs ih =>
    rw [splitChars]
    split
    · next he => simp [ih, he, h.symm]
    · split
      · next hs =>
        rw [hs] at ih
        simp only [List.map_cons, List.sum_cons, List.count_cons] at ih ⊢
        omega
      · next hs =>
        have := length_splitChars c cs
        rw [hs] at this
        cases this

end SourceRegistry.Text
