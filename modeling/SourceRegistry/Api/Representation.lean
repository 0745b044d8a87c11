import SourceRegistry.DataSource.Summary
import SourceRegistry.Json.Decoder
import SourceRegistry.Time.Rfc3339

/-!
# Bodies of responses

The objects that clients receive, with the order of their members, and how they are read back.
A data source is one flat object: the identifier and the time that every entity has, and the
members of its own beside them.
-/

namespace SourceRegistry

open Json (Decoder RecordForm Mismatch given)

structure ErrorBody where
  code : String
  message : String
  requestId : Option String
  deriving DecidableEq, Repr

namespace ErrorBody

def toJson (e : ErrorBody) : Json :=
  .object ([("error", .string e.code), ("message", .string e.message)]
    ++ (e.requestId.map fun r => ("requestId", Json.string r)).toList)

def line (e : ErrorBody) : String := e.code ++ ": " ++ e.message

/-- The members of an error that have been read. -/
structure Parts where
  code : Option String := none
  message : Option String := none
  requestId : Option (Option String) := none

def form : RecordForm Parts ErrorBody where
  title := "struct ErrorResponse"
  members :=
    [⟨"error", (·.code.isSome), Decoder.string.setting fun x p => { p with code := x }, false⟩,
     ⟨"message", (·.message.isSome),
      Decoder.string.setting fun x p => { p with message := x }, false⟩,
     ⟨"requestId", (·.requestId.isSome),
      (Decoder.nullable .string).setting fun x p => { p with requestId := some x }, false⟩]
  start := {}
  finish p := do
    .ok ⟨← given "error" p.code, ← given "message" p.message, p.requestId.getD none⟩

end ErrorBody

structure Health where
  status : String
  version : String
  deriving DecidableEq, Repr

namespace Health

def toJson (h : Health) : Json :=
  .object [("status", .string h.status), ("version", .string h.version)]

/-- The members of a health report that have been read. -/
structure Parts where
  status : Option String := none
  version : Option String := none

def form : RecordForm Parts Health where
  title := "struct HealthResponse"
  members :=
    [⟨"status", (·.status.isSome), Decoder.string.setting fun x p => { p with status := x }, false⟩,
     ⟨"version", (·.version.isSome),
      Decoder.string.setting fun x p => { p with version := x }, false⟩]
  start := {}
  finish p := do .ok ⟨← given "status" p.status, ← given "version" p.version⟩

end Health

/-- Whether the service can answer, and whether its data sources can be read. -/
structure Readiness where
  ready : Bool
  dataSources : Bool
  deriving DecidableEq, Repr

namespace Readiness

def toJson (r : Readiness) : Json :=
  .object [("ready", .bool r.ready), ("checks", .object [("data_sources", .bool r.dataSources)])]

def checksForm : RecordForm (Option Bool) Bool where
  title := "struct ReadinessChecks"
  members := [⟨"data_sources", (·.isSome), Decoder.bool.setting fun x _ => some x, false⟩]
  start := none
  finish := given "data_sources"

/-- The members of a readiness report that have been read. -/
structure Parts where
  ready : Option Bool := none
  dataSources : Option Bool := none

def form : RecordForm Parts Readiness where
  title := "struct ReadinessResponse"
  members :=
    [⟨"ready", (·.ready.isSome), Decoder.bool.setting fun x p => { p with ready := x }, false⟩,
     ⟨"checks", (·.dataSources.isSome),
      checksForm.decoder.setting fun x p => { p with dataSources := x }, false⟩]
  start := {}
  finish p := do .ok ⟨← given "ready" p.ready, ← given "checks" p.dataSources⟩

end Readiness

/-- What all entities have. -/
structure EntityBase where
  id : String
  createdAt : Instant
  deriving DecidableEq, Repr

namespace EntityBase

def members (b : EntityBase) : List (String × Json) :=
  [("id", .string b.id), ("createdAt", .string b.createdAt.text)]

def toJson (b : EntityBase) : Json := .object b.members

/-- The members of an entity that have been read. -/
structure Parts where
  id : Option String := none
  createdAt : Option Instant := none

def finish (p : Parts) : Except Mismatch EntityBase := do
  .ok ⟨← given "id" p.id, ← given "createdAt" p.createdAt⟩

def form : RecordForm Parts EntityBase where
  title := "struct BaseEntityRepresentation"
  members :=
    [⟨"id", (·.id.isSome), Decoder.string.setting fun x p => { p with id := x }, false⟩,
     ⟨"createdAt", (·.createdAt.isSome),
      Instant.decoder.setting fun x p => { p with createdAt := x }, false⟩]
  start := {}
  finish := finish

/-- The string that a value is. -/
def stringValue (expected : String) : Json → Except Mismatch String
  | .string s => .ok s
  | .null => .error (.type .null expected)
  | .bool b => .error (.type (.bool b) expected)
  | .number n => .error (.type (.number n) expected)
  | .array _ => .error (.type .sequence expected)
  | .object _ => .error (.type .map expected)

/-- Takes a member into account if it is one of an entity. -/
def addMember (p : Parts) (name : String) (value : Json) : Except Mismatch Parts := do
  if name = "id" then
    if p.id.isSome then .error (.duplicate name)
    else .ok { p with id := ← stringValue "a string" value }
  else if name = "createdAt" then
    if p.createdAt.isSome then .error (.duplicate name)
    else
      let s ← stringValue "an RFC 3339 formatted date and time string" value
      .ok { p with createdAt := ← (Instant.decode s).mapError .refused }
  else .ok p

/-- The entity whose members stand among others, in the order in which they were written. -/
def ofMembers (ms : List (String × Json)) : Except Mismatch EntityBase := do
  finish (← ms.foldlM (fun p m => addMember p m.1 m.2) {})

end EntityBase

/-- A data source as clients see it. -/
structure Representation where
  base : EntityBase
  workspace : String
  name : String
  pluginSrc : String
  health : Bool
  deriving DecidableEq, Repr

namespace Representation

def ofSummary (s : Summary) : Representation :=
  ⟨⟨s.id.text, s.createdAt⟩, s.workspace.text, s.name, s.pluginSrc, s.health⟩

def toJson (r : Representation) : Json :=
  .object (r.base.members ++ [("workspaceId", .string r.workspace), ("name", .string r.name),
    ("pluginSrc", .string r.pluginSrc), ("health", .bool r.health)])

/-- The members of a representation that have been read, and those that are not its own. -/
structure Parts where
  workspace : Option String := none
  name : Option String := none
  pluginSrc : Option String := none
  health : Option Bool := none
  others : List (String × Json) := []

def ownMembers : List (Json.Member Parts) :=
  [⟨"workspaceId", (·.workspace.isSome),
    Decoder.string.setting fun x p => { p with workspace := x }, false⟩,
   ⟨"name", (·.name.isSome), Decoder.string.setting fun x p => { p with name := x }, false⟩,
   ⟨"pluginSrc", (·.pluginSrc.isSome),
    Decoder.string.setting fun x p => { p with pluginSrc := x }, false⟩,
   ⟨"health", (·.health.isSome), Decoder.bool.setting fun x p => { p with health := x }, false⟩]

def finish (p : Parts) : Except Mismatch Representation := do
  let workspace ← given "workspaceId" p.workspace
  let name ← given "name" p.name
  let pluginSrc ← given "pluginSrc" p.pluginSrc
  let health ← given "health" p.health
  .ok ⟨← EntityBase.ofMembers p.others, workspace, name, pluginSrc, health⟩

def form : RecordForm Parts Representation :=
  ⟨"struct DataSourceRepresentation", ownMembers, {}, finish⟩

/-- Reads one member, its own or another. -/
def member (depth : Nat) (name : String) (p : Parts) : Json.Reader Parts := fun s => do
  if ownMembers.any (·.name == name) then form.member depth name p s
  else
    let (v, s) ← Json.memberValue name (Json.value depth) s
    .ok ({ p with others := p.others ++ [(name, v)] }, s)

/-- A flat object cannot be given as a list of its members. -/
def decoder : Decoder Representation := fun depth s => do
  match ← Json.peek s with
  | (.object, s) =>
    Decoder.nested depth s fun depth => do
      let (p, s) ← Json.members (member depth) {} s
      form.complete p (← Json.endMembers s)
  | (o, s) => Json.refuse form.title o s

end Representation

end SourceRegistry
