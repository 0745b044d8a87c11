import SourceRegistry.Fixture
import SourceRegistry.Proofs.RoundTrip.Flat

/-!
# Texts that are read back

What is written of a data source, of its representation and of an error is read back as the same
value, and so is every object that says the same. The texts of representations and errors are flat
objects, whose names are known.
-/

namespace SourceRegistry

open Json (Decoder Denotes Entry Fits IsBlanks IsForeign IsObject Restates)
open Text (Symbol)

/-- The brackets that may be open in a member of an object that is all of a text. -/
def innerDepth : Nat := Json.depthLimit - 1

/-- A value is read back from its text, and from every object that says the same. -/
structure ReadBack {α : Type} (d : Decoder α) (other : Entry → Prop) (j : Json) (a : α) : Prop where
  text : d.parse j.text = .ok a
  restated : ∃ ms, j = .object ms ∧ ∀ es x before after, Restates innerDepth other ms es →
    IsObject es x → IsBlanks before → IsBlanks after → d.run (before ++ (x ++ after)) = .ok a

/-- The text is an object of these names, whose values are strings and truth values. -/
structure IsFlat (names : List String) (j : Json) : Prop where
  plain : ∃ es, IsObject es (Text.symbols j.text) ∧
    ∀ e ∈ es, (∃ t, e.IsText t) ∨ ∃ b, e.IsTruth b
  names : ∀ es, IsObject es (Text.symbols j.text) → es.map (·.name) = names

section
variable {ms : List (String × Json)}

/-- What is read from all objects that say the same is read back from the text. -/
theorem ReadBack.of_restated {α : Type} {d : Decoder α} {other : Entry → Prop} {a : α}
    (hms : ∀ m ∈ ms, Fits innerDepth m.2)
    (h : ∀ {es x}, IsObject es x → Restates innerDepth other ms es → ∀ {gap}, IsBlanks gap →
      ∀ r, d Json.depthLimit (gap ++ (x ++ r)) = .ok (a, r)) : ReadBack d other (.object ms) a := by
  have hrun : ∀ es x before after, Restates innerDepth other ms es → IsObject es x →
      IsBlanks before → IsBlanks after → d.run (before ++ (x ++ after)) = .ok a :=
    fun es x before after hes hx => Decoder.run_eq_ok (h hx hes)
  have hdenotes := fun m hm => (hms m hm).denotes
  have hperm : (ms.map Json.writtenEntry).Perm (ms.map Json.writtenEntry ++ []) := by
    rw [List.append_nil]
  refine ⟨?_, ms, rfl, hrun⟩
  have htext := hrun _ _ [] [] (.of_written hperm hdenotes (List.forall_mem_nil _))
    (Json.isObject_chars fun m hm => (hdenotes m hm).isValue) (List.forall_mem_nil _)
    (List.forall_mem_nil _)
  rwa [List.nil_append, List.append_nil, ← Decoder.parse_text] at htext

/-- What is read back is read from its members in any order, with others among them. -/
theorem ReadBack.parse_perm {α : Type} {d : Decoder α} {other : Entry → Prop} {a : α}
    (h : ReadBack d other (.object ms) a) {l extra : List (String × Json)}
    (hl : l.Perm (ms ++ extra)) (hms : ∀ m ∈ ms, Fits innerDepth m.2)
    (hextra : ∀ m ∈ extra, Fits innerDepth m.2 ∧ other (Json.writtenEntry m)) :
    d.parse (Json.object l).text = .ok a := by
  obtain ⟨ms', hms', hread⟩ := h.restated
  obtain rfl := Json.object.inj hms'
  have hvalue : ∀ m ∈ l, Json.IsValue (m.2.chars.map .char) := by
    intro m hm
    rcases List.mem_append.1 (hl.mem_iff.1 hm) with hm | hm
    · exact (hms m hm).denotes.isValue
    · exact (hextra m hm).1.denotes.isValue
  have hperm := hl.map Json.writtenEntry
  rw [List.map_append] at hperm
  have hrun := hread _ _ [] [] (.of_written hperm (fun m hm => (hms m hm).denotes)
    (List.forall_mem_map.2 fun m hm => (hextra m hm).2)) (Json.isObject_chars hvalue)
    (List.forall_mem_nil _) (List.forall_mem_nil _)
  rwa [List.nil_append, List.append_nil, ← Decoder.parse_text] at hrun

def IsPlain (j : Json) : Prop := (∃ t, j = .string t) ∨ ∃ b, j = .bool b

theorem IsPlain.fits {j : Json} (h : IsPlain j) (depth : Nat) : Fits depth j := by
  rcases h with ⟨t, rfl⟩ | ⟨b, rfl⟩
  · exact .string t
  · exact .bool b

/-- Objects of strings and truth values are written flat. -/
theorem isFlat_object (h : ∀ m ∈ ms, IsPlain m.2) : IsFlat (ms.map (·.1)) (.object ms) := by
  have hx : IsObject (ms.map Json.writtenEntry) (Text.symbols (Json.object ms).text) := by
    rw [Text.symbols, Json.text, String.toList_ofList]
    exact Json.isObject_chars fun m hm => ((h m hm).fits 0).denotes.isValue
  refine ⟨⟨_, hx, List.forall_mem_map.2 ?_⟩, fun es hes => ?_⟩
  · rintro ⟨name, j⟩ hm
    rcases h _ hm with ⟨t, rfl⟩ | ⟨b, rfl⟩
    · exact .inl ⟨t, Entry.isText_written name t⟩
    · exact .inr ⟨b, Entry.isTruth_written name b⟩
  · rw [hes.names_eq hx, List.map_map]
    rfl

end

namespace DataSource

theorem fits_members {d : DataSource} (h : Fits innerDepth d.data) :
    ∀ m ∈ d.members, Fits innerDepth m.2 := by
  simp only [members, List.forall_mem_cons]
  exact ⟨.string _, .string _, .string _, .string _, .bool _, h, .string _, List.forall_mem_nil _⟩

theorem readBack {d : DataSource} (hd : d.createdAt.Valid) (hdata : Fits innerDepth d.data) :
    ReadBack form.decoder (IsForeign memberNames) d.toJson d :=
  .of_restated (fits_members hdata) fun hx h _ hgap r => decoder_restated hd hx h hgap r

end DataSource

namespace ErrorBody

theorem isPlain_of_mem {e : ErrorBody} {m : String × Json} (hm : m ∈ e.members) : IsPlain m.2 := by
  revert m
  cases h : e.requestId <;> simp [members, h, IsPlain]

theorem readBack (e : ErrorBody) : ReadBack form.decoder (IsForeign memberNames) e.toJson e :=
  .of_restated (fun _ hm => (isPlain_of_mem hm).fits _) fun hx h _ hgap r =>
    decoder_restated hx h hgap r

/-- The request is named iff there is one. -/
theorem isFlat (e : ErrorBody) :
    IsFlat (["error", "message"] ++ if e.requestId.isSome then ["requestId"] else []) e.toJson := by
  have hflat : IsFlat (e.members.map (·.1)) e.toJson := isFlat_object fun _ hm => isPlain_of_mem hm
  convert hflat using 1
  cases h : e.requestId <;> simp [members, h]

end ErrorBody

namespace Representation

theorem isPlain_of_mem {r : Representation} {m : String × Json} (hm : m ∈ r.members) :
    IsPlain m.2 := by
  revert m
  simp [members, EntityBase.members, IsPlain]

theorem readBack {r : Representation} (hr : r.base.createdAt.Valid) :
    ReadBack decoder (CanKeep innerDepth) r.toJson r :=
  .of_restated (fun _ hm => (isPlain_of_mem hm).fits _) fun hx h _ hgap s =>
    decoder_restated hr hx h hgap s

theorem isFlat (r : Representation) : IsFlat memberNames r.toJson :=
  isFlat_object fun _ hm => isPlain_of_mem hm

end Representation

/-- Data sources, errors and representations are read back from their texts, whatever order their
members stand in and whatever other members stand among them. Representations and errors are flat
objects. -/
theorem records_readBack :
    (∀ d : DataSource, d.createdAt.Valid → Fits innerDepth d.data →
        ReadBack DataSource.form.decoder (IsForeign DataSource.memberNames) d.toJson d) ∧
      (∀ r : Representation, r.base.createdAt.Valid →
        ReadBack Representation.decoder (Representation.CanKeep innerDepth) r.toJson r) ∧
      (∀ e : ErrorBody,
        ReadBack ErrorBody.form.decoder (IsForeign ErrorBody.memberNames) e.toJson e) ∧
      (∀ r : Representation, IsFlat Representation.memberNames r.toJson) ∧
      ∀ e : ErrorBody, IsFlat
        (["error", "message"] ++ if e.requestId.isSome then ["requestId"] else []) e.toJson :=
  ⟨fun _ hd hdata => DataSource.readBack hd hdata, fun _ hr => Representation.readBack hr,
    ErrorBody.readBack, Representation.isFlat, ErrorBody.isFlat⟩

def sampleSource : DataSource where
  id := (Fixture.stamp 7).id
  workspace := ⟨.nil⟩
  name := "S\x22d"
  pluginSrc := "prometheus"
  health := true
  data := .object [("limit", .number (.whole (-5))), ("url", .string Fixture.url)]
  createdAt := ⟨⟨2024, 2, 29⟩, 23, 59, 59, 120000000⟩

def sampleRepresentation : Representation := .ofSummary sampleSource.summary

theorem records_readBack_sample :
    sampleSource.createdAt.Valid ∧ Fits innerDepth sampleSource.data ∧
      (∃ ms, sampleSource.toJson = .object ms ∧ DataSource.form.decoder.parse
        (Json.object (ms ++ [("owner", Json.null)]).reverse).text = .ok sampleSource) ∧
      (∃ ms, sampleRepresentation.toJson = .object ms ∧ Representation.decoder.parse
        (Json.object (ms ++ [("owner", Json.null)]).reverse).text = .ok sampleRepresentation) ∧
      IsFlat Representation.memberNames sampleRepresentation.toJson ∧
      ErrorBody.form.decoder.parse (ErrorBody.toJson ⟨"NOT_FOUND", "gone", none⟩).text =
        .ok ⟨"NOT_FOUND", "gone", none⟩ ∧
      IsFlat ["error", "message", "requestId"] (ErrorBody.toJson ⟨"NOT_FOUND", "gone", "r"⟩) := by
  have hvalid : sampleSource.createdAt.Valid :=
    ⟨⟨by decide, by decide, by decide, by decide, by decide, by decide⟩, by decide, by decide,
      by decide, by decide⟩
  have hdata : Fits innerDepth sampleSource.data := by
    refine .object (List.pairwise_pair.2 (by decide)) ?_
    simp only [List.forall_mem_cons]
    exact ⟨.number (by decide) (by decide), .string _, List.forall_mem_nil _⟩
  have hnull : Fits innerDepth .null := .null
  refine ⟨hvalid, hdata, ⟨_, rfl, ?_⟩, ⟨_, rfl, ?_⟩, records_readBack.2.2.2.1 _,
    (records_readBack.2.2.1 _).text, records_readBack.2.2.2.2 ⟨"NOT_FOUND", "gone", "r"⟩⟩
  · exact (records_readBack.1 sampleSource hvalid hdata).parse_perm (List.reverse_perm _)
      (DataSource.fits_members hdata) (List.forall_mem_singleton.2
        ⟨hnull, by simp [IsForeign, DataSource.memberNames, Json.writtenEntry]⟩)
  · exact (records_readBack.2.1 sampleRepresentation hvalid).parse_perm (List.reverse_perm _)
      (fun _ hm => (Representation.isPlain_of_mem hm).fits _)
      (List.forall_mem_singleton.2
        ⟨hnull, by simp [IsForeign, Representation.memberNames, Json.writtenEntry], _,
          hnull.denotes⟩)

/-- An error with a member whose name is half of a character. -/
def halfNamed : String :=
  "\x7b\x22error\x22:\x22E\x22,\x22message\x22:\x22m\x22,\x22\\ud800\x22:0\x7d"

theorem isValue_halfNamed : Json.IsValue (Text.symbols halfNamed) := by
  have hnil : IsBlanks [] := List.forall_mem_nil _
  have htext : ∀ {name t}, (Json.writtenEntry (name, .string t)).IsEntry :=
    Json.isEntry_writtenEntry (Json.denotes_stringChars 0 _).isValue
  have hzero : Json.IsNumber [.char '0'] := .parts .zero .none .none
  have hhalf : Json.IsString (Text.symbols "\\ud800\x22") := .code (by decide) .close
  have hpart : Json.Part.IsPart .object ⟨Text.symbols "\x22\\ud800\x22:", [.char '0'], []⟩ :=
    ⟨.member hnil hhalf hnil hnil, .positive hzero, hnil⟩
  have hparts : ∀ p ∈ [(Json.writtenEntry ("error", .string "E")).part,
      (Json.writtenEntry ("message", .string "m")).part,
      ⟨Text.symbols "\x22\\ud800\x22:", [.char '0'], []⟩], Json.Part.IsPart .object p := by
    simp only [List.forall_mem_cons]
    exact ⟨htext.isPart, htext.isPart, hpart, List.forall_mem_nil _⟩
  exact .of_isPart hparts hnil

def smallRepresentation : Representation := ⟨⟨"i", sampleSource.createdAt⟩, "w", "n", "p", true⟩

def greatEntry : Entry :=
  ⟨"size", (Json.writtenEntry ("size", .null)).part.lead, Text.symbols "1e999", []⟩

theorem isEntry_greatEntry : greatEntry.IsEntry := by
  have hnull : (Json.writtenEntry ("size", .null)).IsEntry :=
    Json.isEntry_writtenEntry (Fits.null : Fits 0 .null).denotes.isValue
  have hone : Json.IsWhole [.char '1'] := .digits (by decide) (by decide) (List.forall_mem_nil _)
  have hexponent : Json.IsExponent (.char 'e' :: ([] ++ [.char '9', .char '9', .char '9'])) :=
    .some (by decide) (by decide) (show ∀ c ∈ _, (Json.digit? c).isSome by decide) (by decide)
  have hgreat : Json.IsNumber (Text.symbols "1e999") := .parts hone .none hexponent
  exact ⟨hnull.lead, .positive hgreat, List.forall_mem_nil _⟩

def withGreat : String :=
  "\x7b\x22id\x22:\x22i\x22,\x22createdAt\x22:\x222024-02-29T23:59:59.120Z\x22," ++
    "\x22workspaceId\x22:\x22w\x22,\x22name\x22:\x22n\x22,\x22pluginSrc\x22:\x22p\x22," ++
    "\x22health\x22:true,\x22size\x22:1e999\x7d"

/-- A member whose name is half of a character is refused with the whole error, and one whose value
is too great to be kept with the whole representation. -/
theorem not_readBack_half :
    (Json.IsValue (Text.symbols halfNamed) ∧
        ∀ e, ErrorBody.form.decoder.parse halfNamed ≠ .ok e) ∧
      (∃ es, IsObject es (Text.symbols withGreat) ∧
        Restates innerDepth (IsForeign Representation.memberNames) smallRepresentation.members es) ∧
      ∀ r, Representation.decoder.parse withGreat ≠ .ok r := by
  have hplain : ∀ m ∈ smallRepresentation.members, Denotes innerDepth (m.2.chars.map .char) m.2 :=
    fun _ hm => ((Representation.isPlain_of_mem hm).fits _).denotes
  have hforeign : IsForeign Representation.memberNames greatEntry := by
    simp [IsForeign, Representation.memberNames, greatEntry]
  let es := smallRepresentation.members.map Json.writtenEntry ++ [greatEntry]
  refine ⟨⟨isValue_halfNamed, Json.ne_ok_of_toBool (by decide +kernel)⟩, ⟨es, ?_, ?_⟩,
    Json.ne_ok_of_toBool (by decide +kernel)⟩
  · have hes : ∀ e ∈ es, e.IsEntry :=
      List.forall_mem_append.2 ⟨List.forall_mem_map.2 fun m hm =>
        Json.isEntry_writtenEntry (hplain m hm).isValue,
        List.forall_mem_singleton.2 isEntry_greatEntry⟩
    have htext : Text.symbols withGreat = .char '\x7b' ::
        Json.partsText true (es.map (·.part)) ([] ++ [.char '\x7d']) := by decide +kernel
    exact htext ▸ .mk hes (List.forall_mem_nil _)
  · exact .of_written (.refl _) hplain (List.forall_mem_singleton.2 hforeign)

end SourceRegistry
