import SourceRegistry.DataSource.Codec
import SourceRegistry.ServiceError

/-!
# Validation reports

A report collects what is wrong with the fields of a request, so that a client learns everything
at once. Fields are in ascending order and the messages of a field in the order in which they
came.
-/

namespace SourceRegistry

/-- The messages of each field. -/
structure FieldErrors where
  entries : List (String × List String)
  ascending : Members.Ascending entries
  deriving Repr

namespace FieldErrors

def empty : FieldErrors := ⟨[], .nil⟩

/-- Appends messages to those of a field. -/
def append (errors : FieldErrors) (field : String) (messages : List String) : FieldErrors :=
  ⟨Members.alter field (fun old => old.getD [] ++ messages) errors.entries,
    Members.ascending_alter errors.ascending⟩

def merge (errors other : FieldErrors) : FieldErrors :=
  other.entries.foldl (fun acc e => acc.append e.1 e.2) errors

/-- The errors of given fields; the last messages given for a field count. -/
def ofList (l : List (String × List String)) : FieldErrors :=
  l.foldl (fun acc e => ⟨Members.put e.1 e.2 acc.entries, Members.ascending_alter acc.ascending⟩)
    empty

/-- All messages with the names of their fields. -/
def lines (errors : FieldErrors) : List String :=
  errors.entries.flatMap fun (field, messages) => messages.map fun m => field ++ ": " ++ m

def toJson (errors : FieldErrors) : Json :=
  .object (errors.entries.map fun (field, messages) => (field, .ofStrings messages))

end FieldErrors

structure Report where
  valid : Bool
  errors : FieldErrors
  deriving Repr

namespace Report

def success : Report := ⟨true, .empty⟩

/-- A report of which nothing is known, not even that it is valid. -/
def blank : Report := ⟨false, .empty⟩

def add (r : Report) (field message : String) : Report :=
  ⟨false, r.errors.append field [message]⟩

def merge (r other : Report) : Report :=
  ⟨r.valid && other.valid, r.errors.merge other.errors⟩

/-- All messages in one error, unless the report is valid. -/
def toError (r : Report) : Option ServiceError :=
  if r.valid then none
  else some ⟨.validationFailed, "; ".intercalate r.errors.lines⟩

def ensureValid (r : Report) : Except ServiceError Unit :=
  match r.toError with
  | some e => .error e
  | none => .ok ()

/-- A text must not be blank and, without the white space around it, not longer than `max`. -/
def requiredText (value field : String) (max : Nat) : Report :=
  let trimmed := Text.trim value
  if trimmed = "" then success.add field "must not be blank"
  else if max < trimmed.length then
    success.add field ("must be at most " ++ toString max ++ " characters")
  else success

def toJson (r : Report) : Json :=
  .object [("valid", .bool r.valid), ("field_errors", r.errors.toJson)]

/-- The members of a report that have been read. -/
structure Parts where
  valid : Option Bool := none
  errors : Option FieldErrors := none

open Json in
def form : RecordForm Parts Report where
  title := "struct ValidationResult"
  members :=
    [⟨"valid", (·.valid.isSome), Decoder.bool.setting fun x p => { p with valid := x }, false⟩,
     ⟨"field_errors", (·.errors.isSome),
      (Decoder.map (.list .string)).setting
        fun x p => { p with errors := some (.ofList x) }, false⟩]
  start := {}
  finish p := do .ok ⟨← given "valid" p.valid, ← given "field_errors" p.errors⟩

end Report

/-- Everything that is wrong with a draft. -/
def Draft.report (d : Draft) : Report :=
  let fields := (Report.success.merge (.requiredText d.name "name" maxNameLength)).merge
    (.requiredText d.pluginSrc "pluginSrc" maxPluginSrcLength)
  if isConnectionData d.data then fields else fields.add "data" "must be a JSON object"

end SourceRegistry
