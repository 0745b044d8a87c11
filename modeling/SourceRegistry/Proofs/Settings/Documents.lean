import SourceRegistry.Proofs.Json.Fields
import SourceRegistry.Proofs.Json.Written
import SourceRegistry.Settings.Codec

/-!
# Settings from objects

An object is read as settings iff each of its members that has the name of a setting has a value of
the right kind, and then the settings are the given ones and the defaults of all others. Members
with other names are passed over, wherever they stand and whatever their values are. This goes for
the telemetry settings inside as well. `documents` says so, and that settings are read back from
their own text.
-/

namespace SourceRegistry

open Json (Entry RecordField Denotes IsObject IsBlanks Yields writtenEntry)
open Text (Symbol)

/-- A setting is what the member of its name means, or its default if there is no such member. -/
def Given {α : Type} (es : List Entry) (name : String) (means : Entry → α → Prop) (default a : α) :
    Prop :=
  (∃ e ∈ es, e.name = name ∧ means e a) ∨ (∀ e ∈ es, e.name ≠ name) ∧ a = default

section
variable {σ : Type} {fields : List (RecordField σ)} {es : List Entry} {p q : σ} {depth : Nat}

def WellTyped (fields : List (RecordField σ)) (e : Entry) : Prop :=
  ∀ f ∈ fields, e.name = f.name → ∃ a, f.means e a

variable (hl : Slot.Lawful (RecordField.slots fields) Slot.Unchanged)
  (htwice : Slot.NoneTwice (RecordField.slots fields) (·.name) es)
include hl htwice

/-- What a slot holds in the end is what has been given. -/
theorem given_iff (hread : ∀ e ∈ es, RecordField.Readable fields depth e)
    (hes : Along (Slot.Step (RecordField.slots fields) (·.name) Slot.Unchanged) es p q)
    {f : RecordField σ} (hf : f ∈ fields) (hp : f.get p = none) (default a : f.Value) :
    Given es f.name f.means default a ↔ (f.get q).getD default = a := by
  have hslot : f.toSlot ∈ RecordField.slots fields := List.mem_map_of_mem hf
  have hq := Slot.holds_of_along hl hslot hes hp
  have heq : ∀ o, f.toSlot.Holds (·.name) es o → f.get q = o := fun _ ho => hq.eq htwice hslot
    (fun e he hname a b => (hread e he f hf hname).eq) ho
  constructor
  · rintro (⟨e, he, hname, ha⟩ | ⟨hno, rfl⟩)
    · rw [heq (some a) ⟨e, he, hname, ha⟩]
      rfl
    · rw [heq none hno]
      rfl
  · intro ha
    cases hget : f.get q with
    | none =>
      rw [hget] at hq ha
      exact .inr ⟨hq, ha.symm⟩
    | some b =>
      rw [hget] at hq ha
      obtain ⟨e, he, hname, hb⟩ := hq
      exact .inl ⟨e, he, hname, ha ▸ hb⟩

/-- Members are read to the end iff all of them have values of the right kinds. -/
theorem exists_along_iff (hp : ∀ f ∈ fields, f.get p = none) :
    (∃ q, Along (Slot.Step (RecordField.slots fields) (·.name) Slot.Unchanged) es p q) ↔
      ∀ e ∈ es, WellTyped fields e := by
  constructor
  · rintro ⟨q, hq⟩ e he f hf hname
    exact Slot.means_of_along hq hl e he f.toSlot (List.mem_map_of_mem hf) hname
  · intro h
    refine Slot.exists_along hl (fun e _ p => ⟨p, rfl⟩) htwice fun e he s hs hname => ?_
    obtain ⟨f, hf, rfl⟩ := List.mem_map.1 hs
    exact ⟨hp f hf, h e he f hf hname⟩

omit hl htwice in
theorem Given.written {ms : List (String × Json)} {name : String} {j : Json} {α : Type}
    {means : Entry → α → Prop} {default a : α} (h : (name, j) ∈ ms)
    (hmeans : means (writtenEntry (name, j)) a) :
    Given (ms.map writtenEntry) name means default a :=
  .inl ⟨_, List.mem_map_of_mem h, rfl, hmeans⟩

omit hl in
theorem Given.exists_means {f : RecordField σ} (hf : f ∈ fields) {default a : f.Value}
    (h : Given es f.name f.means default a) :
    ∀ e ∈ es, e.name = f.name → ∃ a, f.means e a := by
  intro e he hname
  rcases h with ⟨e', he', hname', ha⟩ | ⟨hno, -⟩
  · have hslot : f.toSlot ∈ RecordField.slots fields := List.mem_map_of_mem hf
    rcases eq_or_of_pairwise htwice he he' with rfl | hne | hne
    · exact ⟨a, ha⟩
    · exact absurd hname' (hne _ hslot hname)
    · exact absurd hname (hne _ hslot hname')
  · exact absurd hname (hno e he)

/-- An object describes something iff all its members have values of the right kinds. -/
theorem exists_describes_iff {α : Type} {ofParts : σ → α} {describes : α → Prop}
    (hp : ∀ f ∈ fields, f.get p = none)
    (hdescribes : ∀ q, Along (Slot.Step (RecordField.slots fields) (·.name) Slot.Unchanged) es p q →
      ∀ a, describes a ↔ ofParts q = a)
    (hwell : ∀ a, describes a → ∀ e ∈ es, WellTyped fields e) :
    (∃ a, describes a) ↔ ∀ e ∈ es, WellTyped fields e := by
  constructor
  · rintro ⟨a, ha⟩
    exact hwell a ha
  · intro h
    obtain ⟨q, hq⟩ := (exists_along_iff hl htwice hp).2 h
    exact ⟨_, (hdescribes q hq _).2 rfl⟩

omit hl htwice in
/-- A member that a record has is of the right kind only if its value means something. -/
theorem WellTyped.exists_means {α : Type} {form : Json.RecordForm σ α} {e : Entry}
    (h : WellTyped fields e) (hmembers : form.members = fields.map (RecordField.member true))
    (hname : e.name ∈ form.members.map (·.name)) : ∃ f ∈ fields, ∃ a, f.means e a := by
  rw [hmembers] at hname
  obtain ⟨_, hm, hname⟩ := List.mem_map.1 hname
  obtain ⟨f, hf, rfl⟩ := List.mem_map.1 hm
  exact ⟨f, hf, h f hf hname.symm⟩

section
variable {α : Type} {form : Json.RecordForm σ α} {ofParts : σ → α} {x gap : List Symbol}
  (hmembers : form.members = fields.map (RecordField.member true))
  (hstart : ∀ f ∈ fields, f.get form.start = none)
  (hfinish : ∀ q, form.finish q = .ok (ofParts q)) (hx : IsObject es x)
  (hread : ∀ e ∈ es, RecordField.Readable fields depth e) (hgap : IsBlanks gap)
include hmembers hstart hfinish hx hread hgap

/-- If defaults stand in for what is not given, an object is read as what it describes. -/
theorem decoder_eq_ok_iff_describes {describes : α → Prop}
    (hdescribes : ∀ q, Along (Slot.Step (RecordField.slots fields) (·.name) Slot.Unchanged) es
      form.start q → ∀ a, describes a ↔ ofParts q = a)
    (hwell : ∀ a, describes a → ∀ e ∈ es, WellTyped fields e) (a : α) (r s : List Symbol) :
    form.decoder (depth + 1) (gap ++ (x ++ r)) = .ok (a, s) ↔ describes a ∧ s = r := by
  rw [form.decoder_eq_ok_iff hmembers hl hx hread hgap]
  simp only [hfinish, Except.ok.injEq]
  refine and_congr_left fun _ => ⟨?_, fun ha => ?_⟩
  · rintro ⟨q, hq, ha⟩
    exact (hdescribes q hq a).2 ha
  · obtain ⟨q, hq⟩ := (exists_along_iff hl htwice hstart).2 (hwell a ha)
    exact ⟨q, hq, (hdescribes q hq a).1 ha⟩

end

end

/-! ## Telemetry -/

namespace Telemetry

structure Describes (es : List Entry) (t : Telemetry) : Prop where
  serviceName : Given es "service_name" Entry.IsText "compass" t.serviceName
  jsonLogging : Given es "json_logging" Entry.IsTruth false t.jsonLogging
  logLevel : Given es "log_level" Entry.IsText "info" t.logLevel

def fields : List (RecordField TelemetryParts) :=
  [⟨⟨String, "service_name", (·.serviceName), fun x p => { p with serviceName := x },
      Entry.IsText⟩, .string⟩,
   ⟨⟨Bool, "json_logging", (·.jsonLogging), fun x p => { p with jsonLogging := x },
      Entry.IsTruth⟩, .bool⟩,
   ⟨⟨String, "log_level", (·.logLevel), fun x p => { p with logLevel := x },
      Entry.IsText⟩, .string⟩]

def slots : List (Slot Entry TelemetryParts) := RecordField.slots fields

theorem form_members : form.members = fields.map (RecordField.member true) := rfl

theorem lawful : Slot.Lawful slots Slot.Unchanged where
  distinct := by decide
  get_set := by simp [slots, RecordField.slots, fields]
  frame := by simp [slots, RecordField.slots, fields]
  pass s _ _ _ _ h := h.get_eq s

theorem readable {depth : Nat} {e : Entry} (h : e.IsEntry) :
    RecordField.Readable fields depth e := by
  simp only [RecordField.Readable, fields, List.forall_mem_cons]
  exact ⟨fun _ => Json.Decoder.string_yields h.value, fun _ => Json.Decoder.bool_yields h.value,
    fun _ => Json.Decoder.string_yields h.value, List.forall_mem_nil _⟩

variable {es : List Entry} {x : List Symbol}

theorem describes_iff (hes : ∀ e ∈ es, e.IsEntry) (htwice : Slot.NoneTwice slots (·.name) es)
    {q : TelemetryParts} (hq : Along (Slot.Step slots (·.name) Slot.Unchanged) es {} q)
    (t : Telemetry) : Describes es t ↔ ofParts q = t := by
  have hgiven : ∀ f ∈ fields, f.get {} = none → ∀ default a,
      Given es f.name f.means default a ↔ (f.get q).getD default = a := fun f hf =>
    given_iff lawful htwice
      (fun e he => (readable (hes e he) : RecordField.Readable fields 0 e)) hq hf
  simp only [fields, List.forall_mem_cons, forall_const] at hgiven
  obtain ⟨hs, hj, hl, -⟩ := hgiven
  obtain ⟨a, b, c⟩ := t
  simp only [ofParts, mk.injEq, ← hs, ← hj, ← hl]
  exact ⟨fun ⟨h₁, h₂, h₃⟩ => ⟨h₁, h₂, h₃⟩, fun ⟨h₁, h₂, h₃⟩ => ⟨h₁, h₂, h₃⟩⟩

theorem Describes.wellTyped (htwice : Slot.NoneTwice slots (·.name) es) {t : Telemetry}
    (h : Describes es t) : ∀ e ∈ es, WellTyped fields e := by
  have hmeans : ∀ f ∈ fields, (∃ default a, Given es f.name f.means default a) → ∀ e ∈ es,
      e.name = f.name → ∃ a, f.means e a := fun f hf ⟨_, _, h⟩ => h.exists_means htwice hf
  intro e he f hf
  refine hmeans f hf ?_ e he
  revert f
  simp only [fields, List.forall_mem_cons]
  exact ⟨⟨_, _, h.serviceName⟩, ⟨_, _, h.jsonLogging⟩, ⟨_, _, h.logLevel⟩, List.forall_mem_nil _⟩

/-- The value of a member is one for the setting of its name, if there is such a setting. -/
structure Suits (e : Entry) : Prop where
  text : e.name ∈ ["service_name", "log_level"] → ∃ t, e.IsText t
  truth : e.name = "json_logging" → ∃ b, e.IsTruth b

theorem suits_iff {e : Entry} : Suits e ↔ WellTyped fields e := by
  simp only [WellTyped, fields, List.forall_mem_cons]
  constructor
  · rintro ⟨ht, hb⟩
    exact ⟨fun h => ht (by simp [h]), hb, fun h => ht (by simp [h]), List.forall_mem_nil _⟩
  · rintro ⟨hs, hb, hl, -⟩
    refine ⟨fun h => ?_, hb⟩
    rcases List.mem_cons.1 h with h | h
    · exact hs h
    · exact hl (List.mem_singleton.1 h)

/-- No setting can be `null`. -/
theorem Suits.ne_null {e : Entry} (h : Suits e) (hname : e.name ∈ form.members.map (·.name)) :
    e.part.value ≠ Entry.nullText := by
  intro hnull
  have hno : ∀ f ∈ fields, ∀ a, ¬ f.means e a := by
    simp only [fields, List.forall_mem_cons]
    exact ⟨fun _ => Entry.not_denotes_null hnull nofun,
      fun _ => Entry.not_denotes_null hnull nofun,
      fun _ => Entry.not_denotes_null hnull nofun, List.forall_mem_nil _⟩
  obtain ⟨f, hf, a, ha⟩ := (suits_iff.1 h).exists_means form_members hname
  exact hno f hf a ha

theorem exists_describes_iff (hes : ∀ e ∈ es, e.IsEntry)
    (htwice : Slot.NoneTwice slots (·.name) es) :
    (∃ t, Describes es t) ↔ ∀ e ∈ es, Suits e := by
  simp only [suits_iff]
  exact SourceRegistry.exists_describes_iff lawful htwice (by simp [fields])
    (fun _ hq => describes_iff hes htwice hq) fun _ h => h.wellTyped htwice

/-- An object is read as the settings that it describes. -/
theorem decoder_eq_ok_iff (hx : IsObject es x) (htwice : Slot.NoneTwice slots (·.name) es)
    {depth : Nat} {gap : List Symbol} (hgap : IsBlanks gap) (t : Telemetry) (r s : List Symbol) :
    form.decoder (depth + 1) (gap ++ (x ++ r)) = .ok (t, s) ↔ Describes es t ∧ s = r :=
  decoder_eq_ok_iff_describes lawful htwice form_members (by simp [fields, form])
    (fun _ => rfl) hx (fun e he => readable (hx.isEntry e he)) hgap
    (fun _ hq => describes_iff hx.isEntry htwice hq) (fun _ h => h.wellTyped htwice) t r s

end Telemetry

/-! ## Settings -/

def Json.Entry.IsTelemetry (e : Entry) (t : Telemetry) : Prop :=
  ∃ es, IsObject es e.part.value ∧ Slot.NoneTwice Telemetry.slots (·.name) es ∧
    Telemetry.Describes es t

namespace Settings

structure Describes (es : List Entry) (c : Settings) : Prop where
  host : Given es "host" Entry.IsText "0.0.0.0" c.host
  port : Given es "port" (Entry.IsCount 16) 8080 c.port
  basePath : Given es "api_base_path" Entry.IsText "/api" c.basePath
  version : Given es "api_version" Entry.IsText "v1" c.version
  allowedOrigins : Given es "cors_allowed_origins" Entry.IsTexts ["*"] c.allowedOrigins
  maxBodySize : Given es "max_body_size" (Entry.IsCount 64) 2097152 c.maxBodySize
  timeoutSeconds : Given es "request_timeout_seconds" (Entry.IsCount 64) 30 c.timeoutSeconds
  swagger : Given es "enable_swagger" Entry.IsTruth true c.swagger
  telemetry : Given es "telemetry" Entry.IsTelemetry {} c.telemetry

def fields : List (RecordField SettingsParts) :=
  [⟨⟨String, "host", (·.host), fun x p => { p with host := x }, Entry.IsText⟩, .string⟩,
   ⟨⟨Nat, "port", (·.port), fun x p => { p with port := x }, Entry.IsCount 16⟩,
      .unsigned "u16" 16⟩,
   ⟨⟨String, "api_base_path", (·.basePath), fun x p => { p with basePath := x },
      Entry.IsText⟩, .string⟩,
   ⟨⟨String, "api_version", (·.version), fun x p => { p with version := x },
      Entry.IsText⟩, .string⟩,
   ⟨⟨List String, "cors_allowed_origins", (·.allowedOrigins),
      fun x p => { p with allowedOrigins := x }, Entry.IsTexts⟩, .list .string⟩,
   ⟨⟨Nat, "max_body_size", (·.maxBodySize), fun x p => { p with maxBodySize := x },
      Entry.IsCount 64⟩, .unsigned "usize" 64⟩,
   ⟨⟨Nat, "request_timeout_seconds", (·.timeoutSeconds),
      fun x p => { p with timeoutSeconds := x }, Entry.IsCount 64⟩, .unsigned "u64" 64⟩,
   ⟨⟨Bool, "enable_swagger", (·.swagger), fun x p => { p with swagger := x },
      Entry.IsTruth⟩, .bool⟩,
   ⟨⟨Telemetry, "telemetry", (·.telemetry), fun x p => { p with telemetry := x },
      Entry.IsTelemetry⟩, Telemetry.form.decoder⟩]

def slots : List (Slot Entry SettingsParts) := RecordField.slots fields

theorem form_members : form.members = fields.map (RecordField.member true) := rfl

theorem lawful : Slot.Lawful slots Slot.Unchanged where
  distinct := by decide
  get_set := by simp [slots, RecordField.slots, fields]
  frame := by simp [slots, RecordField.slots, fields]
  pass s _ _ _ _ h := h.get_eq s

/-- The value of a member is an object of which telemetry settings can be read, or `null`. -/
def PlainTelemetry (e : Entry) : Prop :=
  e.part.value = Entry.nullText ∨
    ∃ es, IsObject es e.part.value ∧ Slot.NoneTwice Telemetry.slots (·.name) es

/-- The settings inside are the same, however the text is taken apart. -/
theorem isTelemetry_iff {e : Entry} {es : List Entry} (hx : IsObject es e.part.value)
    (htwice : Slot.NoneTwice Telemetry.slots (·.name) es) {t : Telemetry} :
    e.IsTelemetry t ↔ Telemetry.Describes es t := by
  have hnil : IsBlanks [] := List.forall_mem_nil _
  refine ⟨?_, fun h => ⟨es, hx, htwice, h⟩⟩
  rintro ⟨es', hx', htwice', h⟩
  have hread : Telemetry.form.decoder 1 ([] ++ (e.part.value ++ [])) = .ok (t, []) :=
    (Telemetry.decoder_eq_ok_iff hx' htwice' hnil t [] []).2 ⟨h, rfl⟩
  exact ((Telemetry.decoder_eq_ok_iff hx htwice hnil t [] []).1 hread).1

theorem isTelemetry_yields {e : Entry} (h : PlainTelemetry e) {depth : Nat} :
    Yields (Telemetry.form.decoder (depth + 1)) e.part.value e.IsTelemetry := by
  intro gap r hgap hr t s
  rcases h with hnull | ⟨es, hx, htwice⟩
  · rw [hnull]
    refine ⟨fun h => absurd h (Telemetry.form.decoder_null hgap r _), ?_⟩
    rintro ⟨⟨es, hx, -⟩, -⟩
    exact absurd hnull hx.ne_null
  · rw [Telemetry.decoder_eq_ok_iff hx htwice hgap, isTelemetry_iff hx htwice]

theorem readable {depth : Nat} {e : Entry} (h : e.IsEntry)
    (ht : e.name = "telemetry" → PlainTelemetry e) : RecordField.Readable fields (depth + 1) e := by
  simp only [RecordField.Readable, fields, List.forall_mem_cons]
  exact ⟨fun _ => Json.Decoder.string_yields h.value,
    fun _ => Json.Decoder.unsigned_yields _ h.value,
    fun _ => Json.Decoder.string_yields h.value, fun _ => Json.Decoder.string_yields h.value,
    fun _ => Json.Decoder.strings_yields h.value,
    fun _ => Json.Decoder.unsigned_yields _ h.value,
    fun _ => Json.Decoder.unsigned_yields _ h.value, fun _ => Json.Decoder.bool_yields h.value,
    fun hname => isTelemetry_yields (ht hname), List.forall_mem_nil _⟩

variable {es : List Entry} {x : List Symbol}

theorem describes_iff (hread : ∀ e ∈ es, RecordField.Readable fields 1 e)
    (htwice : Slot.NoneTwice slots (·.name) es) {q : SettingsParts}
    (hq : Along (Slot.Step slots (·.name) Slot.Unchanged) es {} q) (c : Settings) :
    Describes es c ↔ ofParts q = c := by
  have hgiven : ∀ f ∈ fields, f.get {} = none → ∀ default a,
      Given es f.name f.means default a ↔ (f.get q).getD default = a := fun f hf =>
    given_iff lawful htwice hread hq hf
  simp only [fields, List.forall_mem_cons, forall_const] at hgiven
  obtain ⟨h₁, h₂, h₃, h₄, h₅, h₆, h₇, h₈, h₉, -⟩ := hgiven
  obtain ⟨c₁, c₂, c₃, c₄, c₅, c₆, c₇, c₈, c₉⟩ := c
  simp only [ofParts, mk.injEq, ← h₁, ← h₂, ← h₃, ← h₄, ← h₅, ← h₆, ← h₇, ← h₈, ← h₉]
  exact ⟨fun ⟨g₁, g₂, g₃, g₄, g₅, g₆, g₇, g₈, g₉⟩ => ⟨g₁, g₂, g₃, g₄, g₅, g₆, g₇, g₈, g₉⟩,
    fun ⟨g₁, g₂, g₃, g₄, g₅, g₆, g₇, g₈, g₉⟩ => ⟨g₁, g₂, g₃, g₄, g₅, g₆, g₇, g₈, g₉⟩⟩

theorem Describes.wellTyped (htwice : Slot.NoneTwice slots (·.name) es) {c : Settings}
    (h : Describes es c) : ∀ e ∈ es, WellTyped fields e := by
  have hmeans : ∀ f ∈ fields, (∃ default a, Given es f.name f.means default a) → ∀ e ∈ es,
      e.name = f.name → ∃ a, f.means e a := fun f hf ⟨_, _, h⟩ => h.exists_means htwice hf
  intro e he f hf
  refine hmeans f hf ?_ e he
  revert f
  simp only [fields, List.forall_mem_cons]
  exact ⟨⟨_, _, h.host⟩, ⟨_, _, h.port⟩, ⟨_, _, h.basePath⟩, ⟨_, _, h.version⟩,
    ⟨_, _, h.allowedOrigins⟩, ⟨_, _, h.maxBodySize⟩, ⟨_, _, h.timeoutSeconds⟩, ⟨_, _, h.swagger⟩,
    ⟨_, _, h.telemetry⟩, List.forall_mem_nil _⟩

/-- An object is read as the settings that it describes. -/
theorem decoder_eq_ok_iff (hx : IsObject es x) (htwice : Slot.NoneTwice slots (·.name) es)
    (ht : ∀ e ∈ es, e.name = "telemetry" → PlainTelemetry e) {depth : Nat} {gap : List Symbol}
    (hgap : IsBlanks gap) (c : Settings) (r s : List Symbol) :
    form.decoder (depth + 2) (gap ++ (x ++ r)) = .ok (c, s) ↔ Describes es c ∧ s = r :=
  decoder_eq_ok_iff_describes lawful htwice form_members (by simp [fields, form])
    (fun _ => rfl) hx (fun e he => readable (hx.isEntry e he) (ht e he)) hgap
    (fun _ hq => describes_iff (fun e he => readable (hx.isEntry e he) (ht e he)) htwice hq)
    (fun _ h => h.wellTyped htwice) c r s

/-! ## Documents -/

structure Sized (c : Settings) : Prop where
  port : Word.fits 16 c.port
  maxBodySize : Word.fits 64 c.maxBodySize
  timeoutSeconds : Word.fits 64 c.timeoutSeconds

structure Suits (e : Entry) : Prop where
  text : e.name ∈ ["host", "api_base_path", "api_version"] → ∃ t, e.IsText t
  port : e.name = "port" → ∃ n, e.IsCount 16 n
  count : e.name ∈ ["max_body_size", "request_timeout_seconds"] → ∃ n, e.IsCount 64 n
  texts : e.name = "cors_allowed_origins" → ∃ l, e.IsTexts l
  truth : e.name = "enable_swagger" → ∃ b, e.IsTruth b
  telemetry : e.name = "telemetry" → ∃ es, IsObject es e.part.value ∧
    Slot.NoneTwice Telemetry.slots (·.name) es ∧ ∀ e' ∈ es, Telemetry.Suits e'

theorem exists_isTelemetry_iff {e : Entry} :
    (∃ t, e.IsTelemetry t) ↔ ∃ es, IsObject es e.part.value ∧
      Slot.NoneTwice Telemetry.slots (·.name) es ∧ ∀ e' ∈ es, Telemetry.Suits e' := by
  constructor
  · rintro ⟨t, es, hx, htwice, ht⟩
    exact ⟨es, hx, htwice, (Telemetry.exists_describes_iff hx.isEntry htwice).1 ⟨t, ht⟩⟩
  · rintro ⟨es, hx, htwice, hes⟩
    obtain ⟨t, ht⟩ := (Telemetry.exists_describes_iff hx.isEntry htwice).2 hes
    exact ⟨t, es, hx, htwice, ht⟩

theorem suits_iff {e : Entry} : Suits e ↔ WellTyped fields e := by
  simp only [WellTyped, fields, List.forall_mem_cons]
  constructor
  · rintro ⟨ht, hp, hc, hl, hb, ho⟩
    exact ⟨fun h => ht (by simp [h]), hp, fun h => ht (by simp [h]), fun h => ht (by simp [h]), hl,
      fun h => hc (by simp [h]), fun h => hc (by simp [h]), hb,
      fun h => exists_isTelemetry_iff.2 (ho h), List.forall_mem_nil _⟩
  · rintro ⟨hhost, hport, hpath, hversion, horigins, hsize, htime, hswagger, htelemetry, -⟩
    refine ⟨fun h => ?_, hport, fun h => ?_, horigins, hswagger,
      fun h => exists_isTelemetry_iff.1 (htelemetry h)⟩
    · simp only [List.mem_cons, List.not_mem_nil, or_false] at h
      rcases h with h | h | h
      · exact hhost h
      · exact hpath h
      · exact hversion h
    · simp only [List.mem_cons, List.not_mem_nil, or_false] at h
      rcases h with h | h
      · exact hsize h
      · exact htime h

/-- No setting can be `null`. -/
theorem Suits.ne_null {e : Entry} (h : Suits e) (hname : e.name ∈ form.members.map (·.name)) :
    e.part.value ≠ Entry.nullText := by
  intro hnull
  have hno : ∀ f ∈ fields, ∀ a, ¬ f.means e a := by
    simp only [fields, List.forall_mem_cons]
    refine ⟨fun _ => Entry.not_denotes_null hnull nofun,
      fun _ h => absurd h.1 (Entry.not_denotes_null hnull nofun),
      fun _ => Entry.not_denotes_null hnull nofun, fun _ => Entry.not_denotes_null hnull nofun,
      fun _ => Entry.not_denotes_null hnull nofun,
      fun _ h => absurd h.1 (Entry.not_denotes_null hnull nofun),
      fun _ h => absurd h.1 (Entry.not_denotes_null hnull nofun),
      fun _ => Entry.not_denotes_null hnull nofun, ?_, List.forall_mem_nil _⟩
    rintro _ ⟨es, hx, -⟩
    exact hx.ne_null hnull
  obtain ⟨f, hf, a, ha⟩ := (suits_iff.1 h).exists_means form_members hname
  exact hno f hf a ha

theorem exists_describes_iff (hx : IsObject es x) (htwice : Slot.NoneTwice slots (·.name) es)
    (ht : ∀ e ∈ es, e.name = "telemetry" → PlainTelemetry e) :
    (∃ c, Describes es c) ↔ ∀ e ∈ es, Suits e := by
  simp only [suits_iff]
  exact SourceRegistry.exists_describes_iff lawful htwice (by simp [fields])
    (fun _ hq => describes_iff (fun e he => readable (hx.isEntry e he) (ht e he)) htwice hq)
    fun _ h => h.wellTyped htwice

structure ReadFrom (es : List Entry) (s : List Symbol) : Prop where
  given : ∀ c, form.decoder.run s = .ok c ↔ Describes es c
  accepted : (∃ c, form.decoder.run s = .ok c) ↔ ∀ e ∈ es, Suits e
  null : ∀ e ∈ es, e.name ∈ form.members.map (·.name) → e.part.value = Entry.nullText →
    ∀ c, form.decoder.run s ≠ .ok c
  nullInside : ∀ e ∈ es, e.name = "telemetry" → ∀ es', IsObject es' e.part.value →
    Slot.NoneTwice Telemetry.slots (·.name) es' →
    ∀ e' ∈ es', e'.name ∈ Telemetry.form.members.map (·.name) → e'.part.value = Entry.nullText →
      ∀ c, form.decoder.run s ≠ .ok c

theorem readFrom {before after : List Symbol} (hx : IsObject es x)
    (htwice : Slot.NoneTwice slots (·.name) es)
    (ht : ∀ e ∈ es, e.name = "telemetry" → PlainTelemetry e) (hbefore : IsBlanks before)
    (hafter : IsBlanks after) : ReadFrom es (before ++ (x ++ after)) := by
  have hgiven : ∀ c, form.decoder.run (before ++ (x ++ after)) = .ok c ↔ Describes es c :=
    Json.Decoder.run_eq_ok_iff (fun hgap => decoder_eq_ok_iff hx htwice ht hgap) hbefore hafter
  have haccepted : (∃ c, form.decoder.run (before ++ (x ++ after)) = .ok c) ↔
      ∀ e ∈ es, Suits e := by
    simp only [hgiven]
    exact exists_describes_iff hx htwice ht
  refine ⟨hgiven, haccepted, ?_, ?_⟩
  · intro e he hname hnull c hc
    exact (haccepted.1 ⟨c, hc⟩ e he).ne_null hname hnull
  · intro e he hname es' hx' htwice' e' he' hname' hnull c hc
    obtain ⟨t, ht⟩ := exists_isTelemetry_iff.2 ((haccepted.1 ⟨c, hc⟩ e he).telemetry hname)
    have hsuits := (Telemetry.exists_describes_iff hx'.isEntry htwice').1
      ⟨t, (isTelemetry_iff hx' htwice').1 ht⟩
    exact (hsuits e' he').ne_null hname' hnull

theorem isTelemetry_written (name : String) (t : Telemetry) :
    (writtenEntry (name, t.toJson)).IsTelemetry t := by
  have hx : IsObject _ (t.toJson.chars.map .char) := Json.isObject_chars (by
    simp only [List.forall_mem_cons]
    exact ⟨(Entry.isText_written "" _).isValue, (Entry.isTruth_written "" _).isValue,
      (Entry.isText_written "" _).isValue, List.forall_mem_nil _⟩)
  refine ⟨_, hx, Slot.noneTwice_of_nodup _ ?_, ?_, ?_, ?_⟩
  · show ["service_name", "json_logging", "log_level"].Nodup
    decide
  · exact .written (by simp) (Entry.isText_written _ _)
  · exact .written (by simp) (Entry.isTruth_written _ _)
  · exact .written (by simp) (Entry.isText_written _ _)

theorem Sized.counts {c : Settings} (h : c.Sized) (name : String) :
    (writtenEntry (name, .ofNat c.port)).IsCount 16 c.port ∧
      (writtenEntry (name, .ofNat c.maxBodySize)).IsCount 64 c.maxBodySize ∧
      (writtenEntry (name, .ofNat c.timeoutSeconds)).IsCount 64 c.timeoutSeconds :=
  ⟨Entry.isCount_written name (by decide) h.port,
    Entry.isCount_written name (by decide) h.maxBodySize,
    Entry.isCount_written name (by decide) h.timeoutSeconds⟩

/-- The text of settings is an object that describes them. -/
theorem exists_isObject_toJson {c : Settings} (h : c.Sized) :
    ∃ es, IsObject es (c.toJson.chars.map .char) ∧ Slot.NoneTwice slots (·.name) es ∧
      (∀ e ∈ es, e.name = "telemetry" → PlainTelemetry e) ∧ Describes es c := by
  have hcounts := fun name => h.counts name
  have htelemetry := fun name => isTelemetry_written name c.telemetry
  have hplain : ∀ name, PlainTelemetry (writtenEntry (name, c.telemetry.toJson)) := fun name =>
    let ⟨es, hx, htwice, _⟩ := htelemetry name
    .inr ⟨es, hx, htwice⟩
  refine ⟨_, Json.isObject_chars ?_, Slot.noneTwice_of_nodup _ ?_, ?_,
    .written (by simp) (Entry.isText_written _ _), .written (by simp) (hcounts _).1,
    .written (by simp) (Entry.isText_written _ _), .written (by simp) (Entry.isText_written _ _),
    .written (by simp) (Entry.isTexts_written _ _), .written (by simp) (hcounts _).2.1,
    .written (by simp) (hcounts _).2.2, .written (by simp) (Entry.isTruth_written _ _),
    .written (by simp) (htelemetry _)⟩
  · obtain ⟨es, hx, -⟩ := htelemetry ""
    simp only [List.forall_mem_cons]
    exact ⟨(Entry.isText_written "" _).isValue, (hcounts "").1.1.isValue,
      (Entry.isText_written "" _).isValue, (Entry.isText_written "" _).isValue,
      (Entry.isTexts_written "" _).isValue, (hcounts "").2.1.1.isValue,
      (hcounts "").2.2.1.isValue, (Entry.isTruth_written "" _).isValue, hx.isValue,
      List.forall_mem_nil _⟩
  · show ["host", "port", "api_base_path", "api_version", "cors_allowed_origins", "max_body_size",
      "request_timeout_seconds", "enable_swagger", "telemetry"].Nodup
    decide
  · intro e he hname
    obtain ⟨m, hm, rfl⟩ := List.mem_map.1 he
    have hm : m = ("telemetry", c.telemetry.toJson) := by
      have hname : m.1 = "telemetry" := hname
      simp only [List.mem_cons, List.not_mem_nil, or_false] at hm
      rcases hm with rfl | rfl | rfl | rfl | rfl | rfl | rfl | rfl | rfl
      all_goals first | rfl | simp at hname
    exact hm ▸ hplain _

/-- Settings are read back from their own text. -/
theorem parse_text {c : Settings} (h : c.Sized) : form.decoder.parse c.toJson.text = .ok c := by
  obtain ⟨es, hx, htwice, ht, hc⟩ := exists_isObject_toJson h
  have hread := readFrom hx htwice ht (List.forall_mem_nil _) (List.forall_mem_nil _)
  have hrun := (hread.given c).2 hc
  rwa [List.nil_append, List.append_nil, ← Json.Decoder.parse_text] at hrun

/-- Settings are read back from their own text, and every object is read as the settings that it
describes, if there are any. -/
theorem documents :
    (∀ c : Settings, c.Sized → form.decoder.parse c.toJson.text = .ok c) ∧
      ∀ es x before after, IsObject es x → Slot.NoneTwice slots (·.name) es →
        (∀ e ∈ es, e.name = "telemetry" → PlainTelemetry e) → IsBlanks before → IsBlanks after →
        ReadFrom es (before ++ (x ++ after)) :=
  ⟨fun _ h => parse_text h, fun _ _ _ _ hx htwice ht hbefore hafter =>
    readFrom hx htwice ht hbefore hafter⟩

/-- Members of a document that gives a port and a level, and something that is no setting. -/
def partialMembers : List (String × Json) :=
  [("owner", .null), ("telemetry", .object [("log_level", .string "debug")]), ("port", .ofNat 9000)]

theorem documents_partial :
    let es := partialMembers.map writtenEntry
    let x := (Json.object partialMembers).chars.map Symbol.char
    Sized {} ∧ form.decoder.parse (toJson {}).text = .ok {} ∧ IsObject es x ∧
      Slot.NoneTwice slots (·.name) es ∧ (∀ e ∈ es, e.name = "telemetry" → PlainTelemetry e) ∧
      IsBlanks [.char ' '] ∧ ReadFrom es ([.char ' '] ++ (x ++ [.char '\n'])) ∧
      form.decoder.run ([.char ' '] ++ (x ++ [.char '\n'])) =
        .ok { port := 9000, telemetry := { logLevel := "debug" } } := by
  have hlevel := Entry.isText_written "log_level" "debug"
  have hinside : IsObject ([("log_level", .string "debug")].map writtenEntry)
      ((Json.object [("log_level", .string "debug")]).chars.map .char) :=
    Json.isObject_chars (List.forall_mem_singleton.2 hlevel.isValue)
  have hport := Entry.isCount_written "port" (by decide) (show Word.fits 16 9000 = true by decide)
  have hx : IsObject (partialMembers.map writtenEntry)
      ((Json.object partialMembers).chars.map .char) := Json.isObject_chars (by
    simp only [partialMembers, List.forall_mem_cons]
    exact ⟨(Json.Fits.null : Json.Fits 0 .null).denotes.isValue, hinside.isValue, hport.1.isValue,
      List.forall_mem_nil _⟩)
  have hsized : Sized {} := ⟨by decide, by decide, by decide⟩
  have htwice : Slot.NoneTwice slots (·.name) (partialMembers.map writtenEntry) :=
    Slot.noneTwice_of_nodup slots (by decide)
  have hplain : ∀ e ∈ partialMembers.map writtenEntry, e.name = "telemetry" →
      PlainTelemetry e := by
    simp only [partialMembers, List.forall_mem_map, List.forall_mem_cons]
    refine ⟨fun h => absurd h (by decide), fun _ => .inr ⟨_, hinside, ?_⟩,
      fun h => absurd h (by decide), List.forall_mem_nil _⟩
    exact Slot.noneTwice_of_nodup _ (by decide)
  have hspace : IsBlanks [.char ' '] := List.forall_mem_singleton.2 (by decide)
  have hline : IsBlanks [.char '\n'] := List.forall_mem_singleton.2 (by decide)
  exact ⟨hsized, documents.1 {} hsized, hx, htwice, hplain, hspace,
    documents.2 _ _ _ _ hx htwice hplain hspace hline, by decide +kernel⟩

/-- A member whose name is half of a character is refused with the whole object, and so is a zero
with a minus in front of it. -/
theorem not_documents_half :
    (Json.IsValue (Text.symbols "\x7b\x22\\ud800\x22:0\x7d") ∧
        ∀ c, form.decoder.parse "\x7b\x22\\ud800\x22:0\x7d" ≠ .ok c) ∧
      (Json.IsValue (Text.symbols "\x7b\x22port\x22:-0\x7d") ∧
        ∀ c, form.decoder.parse "\x7b\x22port\x22:-0\x7d" ≠ .ok c) := by
  have hnil : IsBlanks [] := List.forall_mem_nil _
  have hzero : Json.IsNumber [.char '0'] := .parts .zero .none .none
  have hhalf : Json.IsString (Text.symbols "\\ud800\x22") := .code (by decide) .close
  have hport := Json.spells_escaped ['p', 'o', 'r', 't']
  have hmember : Json.Part.IsPart .object ⟨Text.symbols "\x22\\ud800\x22:", [.char '0'], []⟩ :=
    ⟨.member hnil hhalf hnil hnil, .positive hzero, hnil⟩
  have hentry : Json.Part.IsPart .object
      ⟨Text.symbols "\x22port\x22:", [.char '-', .char '0'], []⟩ :=
    ⟨.member hnil hport.isString hnil hnil, .negative hzero, hnil⟩
  exact ⟨⟨.of_isPart (List.forall_mem_singleton.2 hmember) hnil,
      Json.ne_ok_of_toBool (by decide +kernel)⟩,
    ⟨.of_isPart (List.forall_mem_singleton.2 hentry) hnil,
      Json.ne_ok_of_toBool (by decide +kernel)⟩⟩

end Settings

end SourceRegistry
