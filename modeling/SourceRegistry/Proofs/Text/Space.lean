import Mathlib.Data.List.DropRight
import SourceRegistry.Text.Space

/-!
# Trimmed texts

Trimming a text twice trims it once, and makes no text longer. Nothing is left of a text iff it is
white space throughout.
-/

namespace SourceRegistry.Text

theorem isSpace_of_isDigit {c : Char} (h : c.isDigit = true) : isSpace c = false := by
  have hc : 48 ≤ c.toNat ∧ c.toNat ≤ 57 := Char.isDigit_iff_toNat.1 h
  refine Bool.eq_false_iff.2 fun hspace => ?_
  obtain ⟨r, hr, hle, hge⟩ := inRanges_eq_true_iff.1 hspace
  simp only [spaceRanges, List.mem_cons, List.not_mem_nil, or_false] at hr
  rcases hr with rfl | rfl | rfl | rfl | rfl | rfl | rfl | rfl | rfl | rfl <;>
    dsimp only at hle hge <;> omega

/-- What is left of a trimmed text begins as the text did behind its leading white space. -/
theorem trimStartChars_trimChars (cs : List Char) :
    trimStartChars (trimChars cs) = trimChars cs := by
  unfold trimStartChars
  rw [List.dropWhile_eq_self_iff]
  intro hl hc
  obtain ⟨rest, hr⟩ : trimChars cs <+: cs.dropWhile isSpace := List.rdropWhile_prefix isSpace _
  have hne : cs.dropWhile isSpace ≠ [] := by
    intro h
    rw [h, List.append_eq_nil_iff] at hr
    simp [hr.1] at hl
  have hhead : (cs.dropWhile isSpace).head hne = (trimChars cs)[0] := by
    simp only [← hr, List.head_append_of_ne_nil (List.ne_nil_of_length_pos hl),
      List.head_eq_getElem]
  rw [← hhead] at hc
  exact Bool.false_ne_true ((List.head_dropWhile_not isSpace hne).symm.trans hc)

theorem trimChars_trimChars (cs : List Char) : trimChars (trimChars cs) = trimChars cs := by
  rw [trimChars, trimStartChars_trimChars]
  exact List.rdropWhile_idempotent isSpace _

@[simp] theorem trim_trim (s : String) : trim (trim s) = trim s := by
  rw [trim, toList_trim, trimChars_trimChars, trim]

theorem length_trim_le (s : String) : (trim s).length ≤ s.length := by
  have hstart : (trimChars s.toList).length ≤ (trimStartChars s.toList).length :=
    (List.rdropWhile_prefix isSpace _).length_le
  have hend : (trimStartChars s.toList).length ≤ s.toList.length :=
    (List.dropWhile_suffix isSpace).length_le
  rw [← String.length_toList, ← String.length_toList, toList_trim]
  exact hstart.trans hend

/-- There is nothing to trim where there is no white space. -/
theorem trim_of_not_isSpace {s : String} (h : ∀ c ∈ s.toList, isSpace c = false) : trim s = s := by
  have hd : ∀ {cs : List Char}, (∀ c ∈ cs, isSpace c = false) → cs.dropWhile isSpace = cs := by
    intro cs hcs
    cases cs with
    | nil => rfl
    | cons c cs => rw [List.dropWhile_cons_of_neg (by simp [hcs c List.mem_cons_self])]
  refine String.toList_injective ?_
  rw [toList_trim, trimChars, trimStartChars, hd h, trimEndChars,
    hd fun c hc => h c (List.mem_reverse.1 hc), List.reverse_reverse]

/-- Nothing is left of a text cut at both ends iff all of it can be cut off. -/
theorem rdropWhile_dropWhile_eq_nil_iff {p : Char → Bool} {cs : List Char} :
    (cs.dropWhile p).rdropWhile p = [] ↔ ∀ c ∈ cs, p c = true := by
  rw [List.rdropWhile_eq_nil_iff]
  constructor
  · intro h
    have hd : cs.dropWhile p = [] := by
      by_contra hne
      have hhead := List.head_dropWhile_not p hne
      rw [h _ (List.head_mem hne)] at hhead
      cases hhead
    exact List.dropWhile_eq_nil_iff.1 hd
  · exact fun h c hc => h c ((List.dropWhile_suffix _).subset hc)

theorem trim_eq_empty_iff {s : String} : trim s = "" ↔ ∀ c ∈ s.toList, isSpace c = true := by
  rw [← String.toList_eq_nil_iff, toList_trim]
  exact rdropWhile_dropWhile_eq_nil_iff

/-- A text is trimmed iff neither end of it is white space. -/
theorem trim_eq_self_iff {s : String} : trim s = s ↔
    (∀ c ∈ s.toList.head?, isSpace c = false) ∧ ∀ c ∈ s.toList.getLast?, isSpace c = false := by
  have hstart : trimStartChars s.toList = s.toList ↔
      ∀ c ∈ s.toList.head?, isSpace c = false := by
    unfold trimStartChars
    cases s.toList with
    | nil => simp
    | cons c cs => simp [List.dropWhile_eq_self_iff]
  have hend : trimEndChars s.toList = s.toList ↔
      ∀ c ∈ s.toList.getLast?, isSpace c = false := by
    refine List.rdropWhile_eq_self_iff.trans ⟨fun h c hc => ?_, fun h hl => ?_⟩
    · obtain ⟨hl, rfl⟩ := List.mem_getLast?_eq_getLast hc
      exact Bool.eq_false_iff.2 (h hl)
    · exact Bool.eq_false_iff.1 (h _ (List.getLast?_eq_some_getLast hl))
  rw [← hstart, ← hend, ← String.toList_inj, toList_trim]
  constructor
  · intro h
    have hs : trimStartChars s.toList = s.toList := by
      rw [← h, trimStartChars_trimChars]
    rw [trimChars, hs] at h
    exact ⟨hs, h⟩
  · rintro ⟨hs, he⟩
    rw [trimChars, hs, he]

/-- White space around a text makes no difference to what is left of it. -/
theorem trim_padded {before after : String} (hb : ∀ c ∈ before.toList, isSpace c = true)
    (ha : ∀ c ∈ after.toList, isSpace c = true) (s : String) :
    trim (before ++ s ++ after) = trim s := by
  have hend : ∀ cs : List Char,
      (cs ++ after.toList).rdropWhile isSpace = cs.rdropWhile isSpace := by
    intro cs
    rw [List.rdropWhile, List.reverse_append, List.dropWhile_append_of_pos]
    · rfl
    · exact fun c hc => ha c (List.mem_reverse.1 hc)
  refine String.toList_injective ?_
  rw [toList_trim, toList_trim, String.toList_append, String.toList_append, List.append_assoc,
    trimChars, trimStartChars, List.dropWhile_append_of_pos hb, List.dropWhile_append]
  split
  · next h =>
    -- nothing but white space
    rw [List.isEmpty_iff] at h
    rw [trimChars, trimStartChars, h, List.dropWhile_eq_nil_iff.2 ha]
  · exact hend _

theorem toList_trimEndOf (c : Char) (s : String) :
    (trimEndOf c s).toList = s.toList.rdropWhile (· == c) := String.toList_ofList

theorem trimEndOf_prefix (c : Char) (s : String) : (trimEndOf c s).toList <+: s.toList := by
  rw [toList_trimEndOf]
  exact List.rdropWhile_prefix _ _

theorem getLast?_trimEndOf (c : Char) (s : String) : (trimEndOf c s).toList.getLast? ≠ some c := by
  rw [toList_trimEndOf]
  intro h
  have hne : s.toList.rdropWhile (· == c) ≠ [] := fun he => by
    rw [he] at h
    cases h
  rw [List.getLast?_eq_some_getLast hne] at h
  exact List.rdropWhile_last_not _ _ hne (by simpa using h)

/-- Cut at both ends, a text is empty if it has no other character. -/
theorem trimEndOf_trimStartOf_eq_empty_iff {c : Char} {s : String} :
    trimEndOf c (trimStartOf c s) = "" ↔ ∀ d ∈ s.toList, d = c := by
  rw [← String.toList_eq_nil_iff, toList_trimEndOf, trimStartOf, String.toList_ofList,
    rdropWhile_dropWhile_eq_nil_iff]
  simp

end SourceRegistry.Text
