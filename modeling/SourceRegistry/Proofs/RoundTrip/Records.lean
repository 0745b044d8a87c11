import SourceRegistry.Api.Representation
import SourceRegistry.DataSource.Codec
import SourceRegistry.Proofs.Identifier
import SourceRegistry.Proofs.Json.Restated
import SourceRegistry.Proofs.Time.Rfc3339

/-!
# Records are read back

A data source and the body of an error are read back from every object that has their members,
whatever order these stand in, however they are spelled and whatever other members stand among
them.
-/

namespace SourceRegistry

open Json (Entry RecordField Denotes IsObject IsBlanks IsValue IsForeign Restates Yields)
open Text (Symbol)

/-- A member whose value is a string that stands for something else. -/
def Json.Entry.IsParsed {α : Type} (parse : String → Except String α) (e : Entry) (a : α) : Prop :=
  ∃ t, e.IsText t ∧ parse t = .ok a

namespace Json.Restates

variable {depth : Nat} {other : Entry → Prop} {ms : List (String × Json)} {es : List Entry}
  {name : String}

theorem exists_text (h : Restates depth other ms es) {t : String} (hm : (name, .string t) ∈ ms) :
    ∃ e ∈ es, e.name = name ∧ e.IsText t :=
  let ⟨e, he, hname, ht⟩ := h.exists_mem hm
  ⟨e, he, hname, ht.string_at 0⟩

theorem exists_truth (h : Restates depth other ms es) {b : Bool} (hm : (name, .bool b) ∈ ms) :
    ∃ e ∈ es, e.name = name ∧ e.IsTruth b :=
  let ⟨e, he, hname, hb⟩ := h.exists_mem hm
  ⟨e, he, hname, hb.bool_at 0⟩

theorem exists_parsed (h : Restates depth other ms es) {t : String} (hm : (name, .string t) ∈ ms)
    {α : Type} {parse : String → Except String α} {a : α} (ha : parse t = .ok a) :
    ∃ e ∈ es, e.name = name ∧ e.IsParsed parse a :=
  let ⟨e, he, hname, ht⟩ := h.exists_text hm
  ⟨e, he, hname, t, ht, ha⟩

end Json.Restates

theorem Uuid.decode_text (u : Uuid) : decode u.text = .ok u := by
  rw [decode, ofString?, toList_text, ofChars?_chars]

theorem WorkspaceId.decoder_yields {depth : Nat} {x : List Symbol} (h : IsValue x) :
    Yields (decoder depth) x fun w => ∃ t, Denotes 0 x (.string t) ∧ Uuid.decode t = .ok w.uuid :=
  ((Json.Decoder.parsed_yields _ Uuid.decode h).map mk).congr fun w =>
    ⟨fun ⟨_, ha, hw⟩ => hw ▸ ha, fun ha => ⟨w.uuid, ha, rfl⟩⟩

theorem DataSourceId.decoder_yields {depth : Nat} {x : List Symbol} (h : IsValue x) :
    Yields (decoder depth) x fun i => ∃ t, Denotes 0 x (.string t) ∧ Uuid.decode t = .ok i.uuid :=
  ((Json.Decoder.parsed_yields _ Uuid.decode h).map mk).congr fun i =>
    ⟨fun ⟨_, ha, hi⟩ => hi ▸ ha, fun ha => ⟨i.uuid, ha, rfl⟩⟩

namespace DataSource

def memberNames : List String :=
  ["id", "workspace_id", "name", "plugin_src", "health", "data", "created_at"]

def members (d : DataSource) : List (String × Json) :=
  [("id", .string d.id.text), ("workspace_id", .string d.workspace.text),
    ("name", .string d.name), ("plugin_src", .string d.pluginSrc), ("health", .bool d.health),
    ("data", d.data), ("created_at", .string d.createdAt.text)]

def fields (depth : Nat) : List (RecordField DataSourceParts) :=
  [⟨⟨DataSourceId, "id", (·.id), fun x p => { p with id := x },
      fun e i => e.IsParsed Uuid.decode i.uuid⟩, DataSourceId.decoder⟩,
   ⟨⟨WorkspaceId, "workspace_id", (·.workspace), fun x p => { p with workspace := x },
      fun e w => e.IsParsed Uuid.decode w.uuid⟩, WorkspaceId.decoder⟩,
   ⟨⟨String, "name", (·.name), fun x p => { p with name := x }, Entry.IsText⟩, .string⟩,
   ⟨⟨String, "plugin_src", (·.pluginSrc), fun x p => { p with pluginSrc := x },
      Entry.IsText⟩, .string⟩,
   ⟨⟨Bool, "health", (·.health), fun x p => { p with health := x }, Entry.IsTruth⟩, .bool⟩,
   ⟨⟨Json, "data", (·.data), fun x p => { p with data := x },
      fun e => Denotes depth e.part.value⟩, .any⟩,
   ⟨⟨Instant, "created_at", (·.createdAt), fun x p => { p with createdAt := x },
      Entry.IsParsed Instant.decode⟩, Instant.decoder⟩]

variable {depth : Nat}

theorem form_members : form.members = (fields depth).map (RecordField.member false) := rfl

theorem lawful : Slot.Lawful (RecordField.slots (fields depth)) Slot.Unchanged where
  distinct := by simp [RecordField.slots, fields]
  get_set := by simp [RecordField.slots, fields]
  frame := by simp [RecordField.slots, fields]
  pass s _ _ _ _ h := h.get_eq s

theorem readable {e : Entry} (h : e.IsEntry)
    (hdata : e.name = "data" → ∃ j, Denotes depth e.part.value j) :
    RecordField.Readable (fields depth) depth e := by
  simp only [RecordField.Readable, fields, List.forall_mem_cons]
  exact ⟨fun _ => DataSourceId.decoder_yields h.value, fun _ => WorkspaceId.decoder_yields h.value,
    fun _ => Json.Decoder.string_yields h.value, fun _ => Json.Decoder.string_yields h.value,
    fun _ => Json.Decoder.bool_yields h.value,
    fun hname => let ⟨_, hj⟩ := hdata hname; hj.yields,
    fun _ => Json.Decoder.parsed_yields _ _ h.value, List.forall_mem_nil _⟩

/-- A data source is read from every object that has its members. -/
theorem decoder_restated {d : DataSource} (hd : d.createdAt.Valid) {es : List Entry}
    {x : List Symbol} (hx : IsObject es x) (h : Restates depth (IsForeign memberNames) d.members es)
    {gap : List Symbol} (hgap : IsBlanks gap) (r : List Symbol) :
    form.decoder (depth + 1) (gap ++ (x ++ r)) = .ok (d, r) := by
  have hother : ∀ e, IsForeign memberNames e → e.name ∉ memberNames := fun _ h => h
  have hread : ∀ e ∈ es, RecordField.Readable (fields depth) depth e := fun e he =>
    readable (hx.isEntry e he) fun hname => by
      obtain ⟨j, -, hj⟩ := h.exists_written hother he (hname ▸ by decide)
      exact ⟨j, hj⟩
  have htwice : Slot.NoneTwice (RecordField.slots (fields depth)) (·.name) es :=
    h.noneTwice hother (show memberNames.Nodup by decide)
      (by simp [RecordField.slots, fields, memberNames])
  let target : DataSourceParts :=
    ⟨⟨d.name, d.pluginSrc, d.health, d.data⟩, d.id, d.workspace, d.createdAt⟩
  refine Json.RecordForm.decoder_eq_ok form_members lawful hx hread htwice
    (by simp [fields, form]) target ?_ ?_ rfl hgap r
  · simp only [fields, List.forall_mem_cons]
    exact ⟨h.exists_parsed (t := d.id.text) (by simp [members]) (Uuid.decode_text _),
      h.exists_parsed (t := d.workspace.text) (by simp [members]) (Uuid.decode_text _),
      h.exists_text (by simp [members]), h.exists_text (by simp [members]),
      h.exists_truth (by simp [members]), h.exists_mem (by simp [members]),
      h.exists_parsed (by simp [members]) (Instant.decode_text hd), List.forall_mem_nil _⟩
  · rintro ⟨⟨_, _, _, _⟩, _, _, _⟩ hq
    simp only [fields, List.forall_mem_cons] at hq
    obtain ⟨rfl, rfl, rfl, rfl, rfl, rfl, rfl, -⟩ := hq
    rfl

end DataSource

namespace ErrorBody

def memberNames : List String := ["error", "message", "requestId"]

/-- The request may be missing, but what is written of it is a string. -/
def requestIdField : RecordField Parts :=
  ⟨⟨Option String, "requestId", (·.requestId), fun x p => { p with requestId := some x },
    fun e o => ∃ t, e.IsText t ∧ o = some t⟩, .nullable .string⟩

def fields : List (RecordField Parts) :=
  [⟨⟨String, "error", (·.code), fun x p => { p with code := x }, Entry.IsText⟩, .string⟩,
   ⟨⟨String, "message", (·.message), fun x p => { p with message := x }, Entry.IsText⟩, .string⟩,
   requestIdField]

theorem form_members : form.members = fields.map (RecordField.member false) := rfl

theorem lawful : Slot.Lawful (RecordField.slots fields) Slot.Unchanged where
  distinct := by decide
  get_set := by simp [RecordField.slots, fields, requestIdField]
  frame := by simp [RecordField.slots, fields, requestIdField]
  pass s _ _ _ _ h := h.get_eq s

theorem requestId_yields {depth : Nat} {x : List Symbol} {t : String}
    (h : Denotes 0 x (.string t)) : Yields (Json.Decoder.string.nullable depth) x fun o =>
      ∃ t, Denotes 0 x (.string t) ∧ o = some t := by
  have hvalue := h.isValue
  cases h with
  | string h =>
    have hquote : Symbol.char '\x22' ∉ Json.enders := by decide
    have hnull : Symbol.char '\x22' ≠ .char 'n' := by decide
    exact Json.Decoder.nullable_yields hquote hnull (Json.Decoder.string_yields hvalue)

theorem readable {depth : Nat} {e : Entry} (h : e.IsEntry)
    (hid : e.name = "requestId" → ∃ t, e.IsText t) : RecordField.Readable fields depth e := by
  simp only [RecordField.Readable, fields, List.forall_mem_cons]
  exact ⟨fun _ => Json.Decoder.string_yields h.value, fun _ => Json.Decoder.string_yields h.value,
    fun hname => let ⟨_, ht⟩ := hid hname; requestId_yields ht, List.forall_mem_nil _⟩

/-- The members of an error; the last one is missing if there is no request to name. -/
def members (e : ErrorBody) : List (String × Json) :=
  [("error", .string e.code), ("message", .string e.message)]
    ++ (e.requestId.map fun r => ("requestId", Json.string r)).toList

theorem mem_members {e : ErrorBody} {j : Json} :
    ("requestId", j) ∈ e.members ↔ ∃ r, e.requestId = some r ∧ j = .string r := by
  cases h : e.requestId <;> simp [members, h]

theorem holds_requestId {e : ErrorBody} {depth : Nat} {es : List Entry}
    (h : Restates depth (IsForeign memberNames) e.members es) :
    requestIdField.toSlot.Holds (·.name) es (e.requestId.map some) := by
  cases hr : e.requestId with
  | none => exact h.not_mem (fun _ h => h) (by decide) (by simp [members, hr, requestIdField])
  | some r =>
    obtain ⟨e', he, hname, ht⟩ := h.exists_text (mem_members.2 ⟨r, hr, rfl⟩)
    exact ⟨e', he, hname, r, ht, rfl⟩

/-- An error is read from every object that has its members. -/
theorem decoder_restated {e : ErrorBody} {depth : Nat} {es : List Entry} {x : List Symbol}
    (hx : IsObject es x) (h : Restates depth (IsForeign memberNames) e.members es)
    {gap : List Symbol} (hgap : IsBlanks gap) (r : List Symbol) :
    form.decoder (depth + 1) (gap ++ (x ++ r)) = .ok (e, r) := by
  have hother : ∀ e, IsForeign memberNames e → e.name ∉ memberNames := fun _ h => h
  have hread : ∀ e ∈ es, RecordField.Readable fields depth e := fun e' he =>
    readable (hx.isEntry e' he) fun hname => by
      obtain ⟨j, hm, hj⟩ := h.exists_written hother he (hname ▸ by decide)
      rw [hname] at hm
      obtain ⟨r, -, rfl⟩ := mem_members.1 hm
      exact ⟨r, hj.string_at 0⟩
  have hnodup : (e.members.map (·.1)).Nodup := by
    cases hid : e.requestId <;> simp [members, hid]
  have htwice : Slot.NoneTwice (RecordField.slots fields) (·.name) es :=
    h.noneTwice hother hnodup (by simp [RecordField.slots, fields, requestIdField, memberNames])
  let target : Parts := ⟨e.code, e.message, e.requestId.map some⟩
  have hfinish : form.finish target = .ok e := by
    obtain ⟨code, message, requestId⟩ := e
    cases requestId <;> rfl
  refine Json.RecordForm.decoder_eq_ok form_members lawful hx hread htwice
    (by simp [fields, requestIdField, form]) target ?_ ?_ hfinish hgap r
  · simp only [fields, List.forall_mem_cons]
    exact ⟨h.exists_text (by simp [members]), h.exists_text (by simp [members]),
      holds_requestId h, List.forall_mem_nil _⟩
  · rintro ⟨_, _, _⟩ hq
    simp only [fields, List.forall_mem_cons] at hq
    obtain ⟨rfl, rfl, rfl, -⟩ := hq
    rfl

end ErrorBody

end SourceRegistry
