import SourceRegistry.Json.Printer
import SourceRegistry.Proofs.Identifier
import SourceRegistry.Api.Representation

/-!
# Written arrays and representations

An array is written as its items with commas between them, and the text of a data source tells
its identifier.
-/

namespace SourceRegistry

namespace Json

theorem separated_eq_intercalate (l : List (List Char)) : separated l = [','].intercalate l := by
  induction l with
  | nil => rfl
  | cons one rest ih =>
    cases rest with
    | nil => rw [separated, List.intercalate_singleton]
    | cons two rest =>
      rw [separated, ih, List.intercalate_cons_cons, List.append_assoc]
      · rfl
      · exact List.cons_ne_nil two rest

theorem itemChars_eq_map (items : List Json) : itemChars items = items.map chars := by
  induction items with
  | nil => rfl
  | cons item rest ih => rw [itemChars, ih, List.map_cons]

theorem text_array (items : List Json) :
    (array items).text = "[" ++ ",".intercalate (items.map text) ++ "]" := by
  refine String.toList_injective ?_
  rw [text, String.toList_ofList, chars, separated_eq_intercalate, itemChars_eq_map,
    String.toList_append, String.toList_append, String.toList_intercalate, List.map_map]
  have hm : items.map (String.toList ∘ text) = items.map chars :=
    List.map_congr_left fun item _ => String.toList_ofList
  rw [hm]
  rfl

/-- What the text of an object begins with. -/
theorem chars_object (name : String) (value : Json) (m : String × Json)
    (rest : List (String × Json)) :
    chars (object ((name, value) :: m :: rest)) =
      '{' :: (memberChars name (chars value) ++ ',' :: separated (membersChars (m :: rest)))
        ++ ['}'] := by
  rw [chars, membersChars, separated]
  exact List.cons_ne_nil _ _

end Json

namespace Representation

/-- Where the identifier stands in the text of a data source. -/
theorem chars_id (s : Summary) :
    ((ofSummary s).toJson.chars.drop 7).take 36 = s.id.uuid.chars := by
  have hmember : Json.memberChars "id" (Json.stringChars s.id.text) =
      ['\x22', 'i', 'd', '\x22', ':', '\x22'] ++ s.id.uuid.chars ++ ['\x22'] := by
    rw [Json.memberChars, DataSourceId.text, Uuid.stringChars_text]
    rfl
  have hobject : (ofSummary s).toJson = .object (("id", .string s.id.text) ::
      ("createdAt", .string s.createdAt.text) ::
      [("workspaceId", .string s.workspace.text), ("name", .string s.name),
        ("pluginSrc", .string s.pluginSrc), ("health", .bool s.health)]) := rfl
  rw [hobject, Json.chars_object, Json.chars, hmember]
  simp [s.id.uuid.length_chars]

theorem id_of_text {s t : Summary} (h : (ofSummary s).toJson.text = (ofSummary t).toJson.text) :
    s.id = t.id := by
  have hc : (ofSummary s).toJson.chars = (ofSummary t).toJson.chars := String.ofList_injective h
  have hu : s.id.uuid = t.id.uuid := Uuid.chars_injective (by rw [← chars_id, ← chars_id, hc])
  cases hs : s.id
  cases ht : t.id
  rw [hs, ht] at hu
  exact congrArg _ hu

end Representation

end SourceRegistry
