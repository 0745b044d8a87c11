import SourceRegistry.Settings.Codec
import SourceRegistry.Settings.Scalar

/-!
# Settings from a tree

The settings as a tree, and back: every setting that is in a tree must be of its type, and those
that are not keep their defaults.
-/

namespace SourceRegistry

/-- A part of a tree: missing, or taken for what is needed. -/
def part? (tree : Setting) (name : String) (take : Setting → Option α) : Option (Option α) :=
  match tree.entry? name with
  | none => some none
  | some s => (take s).map some

/-- An item of a list: missing, or taken for what is needed. -/
def itemPart? (items : List Setting) (i : Nat) (take : Setting → Option α) : Option (Option α) :=
  match items[i]? with
  | none => some none
  | some s => (take s).map some

namespace Telemetry

def toTree (t : Telemetry) : Setting :=
  .table [("json_logging", .bool t.jsonLogging), ("log_level", .text t.logLevel),
    ("service_name", .text t.serviceName)]

/-- Telemetry settings are a table, or a list of its values. -/
def ofTree? : Setting → Option Telemetry
  | .table es => do
    let tree : Setting := .table es
    some (ofParts ⟨← part? tree "service_name" (·.text?), ← part? tree "json_logging" (·.bool?),
      ← part? tree "log_level" (·.text?)⟩)
  | .list l => do
    some (ofParts ⟨← itemPart? l 0 (·.text?), ← itemPart? l 1 (·.bool?), ← itemPart? l 2 (·.text?)⟩)
  | _ => none

end Telemetry

namespace Settings

def toTree (s : Settings) : Setting :=
  .table [("api_base_path", .text s.basePath), ("api_version", .text s.version),
    ("cors_allowed_origins", .list (s.allowedOrigins.map .text)),
    ("enable_swagger", .bool s.swagger), ("host", .text s.host),
    ("max_body_size", .int s.maxBodySize), ("port", .int s.port),
    ("request_timeout_seconds", .int s.timeoutSeconds),
    ("telemetry", s.telemetry.toTree)]

def ofTree? (tree : Setting) : Option Settings := do
  some (ofParts
    { host := ← part? tree "host" (·.text?)
      port := ← part? tree "port" (·.unsigned? 16)
      basePath := ← part? tree "api_base_path" (·.text?)
      version := ← part? tree "api_version" (·.text?)
      allowedOrigins := ← part? tree "cors_allowed_origins" (·.texts?)
      maxBodySize := ← part? tree "max_body_size" (·.unsigned? 64)
      timeoutSeconds := ← part? tree "request_timeout_seconds" (·.unsigned? 64)
      swagger := ← part? tree "enable_swagger" (·.bool?)
      telemetry := ← part? tree "telemetry" Telemetry.ofTree? })

end Settings

end SourceRegistry
