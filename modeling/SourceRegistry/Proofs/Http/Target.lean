import Mathlib.Data.List.TakeWhile
import SourceRegistry.Http.Target

/-!
# Targets that begin with a slash

Such a target is a path up to the first character that cannot stand in one.
-/

namespace SourceRegistry.Http.Target

variable {cs : List Char} {s : String} {t : Target}

theorem ofChars?_slash (cs : List Char) :
    ofChars? ('/' :: cs) =
      (ofPathChars? ('/' :: cs)).map fun (path, query) => ⟨none, none, path, query⟩ := rfl

theorem path_of_ofPathChars? {path : String} {query : Option String}
    (h : ofPathChars? cs = some (path, query)) : path.toList = cs.takeWhile isPathChar := by
  have hp : path = String.ofList (cs.takeWhile isPathChar) := by
    simp only [ofPathChars?] at h
    split at h
    · cases h; rfl
    · cases h; rfl
    · split at h
      · cases h; rfl
      · cases h; rfl
      · cases h
    · cases h
  rw [hp, String.toList_ofList]

theorem path_of_ofString? (h : ofString? s = some t) (hs : s.toList.head? = some '/') :
    t.path.toList = s.toList.takeWhile isPathChar := by
  obtain ⟨cs, hcs⟩ := List.head?_eq_some_iff.1 hs
  obtain ⟨-, h⟩ := Option.ite_none_right_eq_some.1 h
  rw [hcs, ofChars?_slash, Option.map_eq_some_iff] at h
  obtain ⟨⟨path, query⟩, hp, rfl⟩ := h
  rw [hcs]
  exact path_of_ofPathChars? hp

theorem ofString?_of_isPathChar (hs : s.toList.head? = some '/') (hl : s.utf8ByteSize ≤ maxLength)
    (h : ∀ c ∈ s.toList, isPathChar c) : ofString? s = some ⟨none, none, s, none⟩ := by
  obtain ⟨cs, hcs⟩ := List.head?_eq_some_iff.1 hs
  have hp : ofPathChars? s.toList = some (s, none) := by
    rw [ofPathChars?, List.dropWhile_eq_nil_iff.2 h, List.takeWhile_eq_self_iff.2 h,
      String.ofList_toList]
  rw [ofString?, if_pos hl, hcs, ofChars?_slash, ← hcs, hp]
  rfl

end SourceRegistry.Http.Target
