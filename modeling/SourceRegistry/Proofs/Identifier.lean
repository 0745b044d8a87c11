import Mathlib.Algebra.GroupWithZero.Nat
import SourceRegistry.Identifier
import SourceRegistry.Json.Printer
import SourceRegistry.Proofs.Http.Percent
import SourceRegistry.Proofs.Text.Space

/-!
# Identifiers are read back from their texts

The written form of a UUID is one of the forms that are read, and it stands for itself in paths
and in JSON: it has no white space, no slash, no percent sign and nothing to escape.
-/

namespace SourceRegistry

theorem length_of_mapM {α β : Type} {f : α → Option β} {l : List α} {l' : List β}
    (h : l.mapM f = some l') : l'.length = l.length := by
  induction l generalizing l' with
  | nil =>
    cases h
    rfl
  | cons x l ih =>
    simp only [List.mapM_cons, bind, pure, Option.bind_eq_some_iff, Option.some_inj] at h
    obtain ⟨y, -, ys, hys, rfl⟩ := h
    rw [List.length_cons, ih hys, List.length_cons]

namespace Uuid

section
variable {ns : List Nat} {l : List Char}

theorem dehyphenate?_hyphenated (h : l.length = ns.sum) :
    dehyphenate? ns (hyphenated (groups ns l)) = some l := by
  induction ns generalizing l with
  | nil =>
    rw [List.sum_nil, List.length_eq_zero_iff] at h
    rw [h]
    rfl
  | cons n ns ih =>
    cases ns with
    | nil =>
      have hl : l.length = n := h
      have ht : l.take n = l := List.take_of_length_le (Nat.le_of_eq hl)
      rw [groups, groups, hyphenated, ht, dehyphenate?, if_pos hl]
    | cons m ns =>
      rw [List.sum_cons] at h
      have hn : (l.take n).length = n := by rw [List.length_take]; omega
      have hrest := ih (l := l.drop n) (by rw [List.length_drop]; omega)
      have hh : hyphenated (groups (n :: m :: ns) l) =
          l.take n ++ '-' :: hyphenated (groups (m :: ns) (l.drop n)) := rfl
      rw [hh, dehyphenate?, List.drop_left' hn]
      · simp only [hrest, List.take_left' hn, Option.map_some, List.take_append_drop]
      · exact List.cons_ne_nil m ns

theorem length_hyphenated (h : l.length = ns.sum) :
    (hyphenated (groups ns l)).length = l.length + (ns.length - 1) := by
  induction ns generalizing l with
  | nil => simp_all [groups, hyphenated]
  | cons n ns ih =>
    cases ns with
    | nil =>
      have ht : l.take n = l := List.take_of_length_le (Nat.le_of_eq h)
      rw [groups, groups, hyphenated, ht]
      rfl
    | cons m ns =>
      rw [List.sum_cons] at h
      have hrest := ih (l := l.drop n) (by rw [List.length_drop]; omega)
      have hh : hyphenated (groups (n :: m :: ns) l) =
          l.take n ++ '-' :: hyphenated (groups (m :: ns) (l.drop n)) := rfl
      rw [hh, List.length_append, List.length_cons, hrest, List.length_take, List.length_drop]
      simp only [List.length_cons]
      omega

theorem mem_of_mem_hyphenated {c : Char} (h : c ∈ hyphenated (groups ns l)) :
    c = '-' ∨ c ∈ l := by
  induction ns generalizing l with
  | nil => cases h
  | cons n ns ih =>
    cases ns with
    | nil => exact .inr (List.mem_of_mem_take h)
    | cons m ns =>
      rcases List.mem_append.1 h with ht | hr
      · exact .inr (List.mem_of_mem_take ht)
      · rcases List.mem_cons.1 hr with rfl | hr
        · exact .inl rfl
        · exact (ih hr).imp_right List.mem_of_mem_drop

end

/-- What holds of the hyphen and of the digits holds of all that is written. -/
theorem forall_mem_chars {p : Char → Prop} (hyphen : p '-') (digit : ∀ d, p (digitChar d))
    (u : Uuid) : ∀ c ∈ u.chars, p c := by
  intro c hc
  rcases mem_of_mem_hyphenated hc with rfl | hd
  · exact hyphen
  · obtain ⟨d, -, rfl⟩ := List.mem_map.1 hd
    exact digit d

theorem length_chars (u : Uuid) : u.chars.length = 36 := by
  have hl : (u.digits.map digitChar).length = 32 := by rw [List.length_map, u.length_digits]
  rw [chars, length_hyphenated (by rw [hl]; decide), hl]
  decide

theorem length_of_ofDigits? {cs : List Char} {u : Uuid} (h : ofDigits? cs = some u) :
    cs.length = 32 := by
  rw [ofDigits?, Option.bind_eq_some_iff] at h
  obtain ⟨ds, hm, hd⟩ := h
  by_cases hl : ds.length = 32
  · exact (length_of_mapM hm).symm.trans hl
  · rw [dif_neg hl] at hd
    cases hd

theorem ofDigits?_map_digitChar (u : Uuid) : ofDigits? (u.digits.map digitChar) = some u := by
  have hd : ∀ d, digit? (digitChar d) = some d := by decide
  have hm : (u.digits.map digitChar).mapM digit? = some u.digits := by
    rw [List.mapM_map, show digit? ∘ digitChar = some from funext hd]
    exact (List.mapM_pure (f := id)).trans (congrArg _ (List.map_id _))
  rw [ofDigits?, hm, Option.bind_some, dif_pos u.length_digits]

theorem ofChars?_chars (u : Uuid) : ofChars? u.chars = some u := by
  have hd : ofDigits? u.chars = none := by
    cases h : ofDigits? u.chars with
    | none => rfl
    | some v => exact absurd (length_of_ofDigits? h) (by rw [length_chars]; decide)
  have hh : ofHyphenated? u.chars = some u := by
    have hl : (u.digits.map digitChar).length = groupLengths.sum := by
      rw [List.length_map, u.length_digits]
      decide
    rw [ofHyphenated?, chars, dehyphenate?_hyphenated hl, Option.bind_some,
      ofDigits?_map_digitChar]
  rw [ofChars?, hd, hh]
  rfl

theorem toList_text (u : Uuid) : u.text.toList = u.chars := String.toList_ofList

theorem trim_text (u : Uuid) : Text.trim u.text = u.text := by
  refine Text.trim_of_not_isSpace ?_
  rw [toList_text]
  exact u.forall_mem_chars (by decide) (by decide)

theorem chars_injective : Function.Injective chars := fun u v h =>
  Option.some.inj ((ofChars?_chars u).symm.trans ((congrArg _ h).trans (ofChars?_chars v)))

theorem decode?_text (u : Uuid) : Http.Percent.decode? u.text = some u.text := by
  refine Http.Percent.decode?_of_plain ?_ ?_
  · rw [toList_text]
    exact fun h => u.forall_mem_chars (p := (· ≠ '%')) (by decide) (by decide) _ h rfl
  · rw [toList_text]
    exact u.forall_mem_chars (by decide) (by decide)

theorem slash_not_mem_text (u : Uuid) : '/' ∉ u.text.toList := by
  rw [toList_text]
  exact fun h => u.forall_mem_chars (p := (· ≠ '/')) (by decide) (by decide) _ h rfl

theorem stringChars_text (u : Uuid) :
    Json.stringChars u.text = '\x22' :: u.chars ++ ['\x22'] := by
  have he : u.chars.flatMap Json.escapeChar = u.chars := by
    have hc : ∀ c ∈ u.chars, Json.escapeChar c = [c] :=
      u.forall_mem_chars (by decide) (by decide)
    exact (List.flatMap_congr hc).trans (List.flatMap_singleton' _)
  rw [Json.stringChars, toList_text, he]

end Uuid

theorem DataSourceId.ofString?_text (id : DataSourceId) : ofString? id.text = some id := by
  rw [ofString?, text, Uuid.trim_text, Uuid.ofString?, Uuid.toList_text, Uuid.ofChars?_chars]
  rfl

end SourceRegistry
