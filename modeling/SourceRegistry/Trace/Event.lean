import SourceRegistry.Api.Error
import SourceRegistry.Http.Status

/-!
# Events

What the service reports while it works. An `Event` is a cause with its data; its level, its
message, its fields and the part of the service that it comes from follow from the cause. Events
of a use case happen inside a `Span`.
-/

namespace SourceRegistry.Trace

inductive Level where
  | trace
  | debug
  | info
  | warn
  | error
  deriving DecidableEq, Repr

namespace Level

def name : Level → String
  | .trace => "TRACE"
  | .debug => "DEBUG"
  | .info => "INFO"
  | .warn => "WARN"
  | .error => "ERROR"

/-- How much attention a level asks for. -/
def rank : Level → Nat
  | .trace => 0
  | .debug => 1
  | .info => 2
  | .warn => 3
  | .error => 4

end Level

/-- How the events of a request name it. -/
structure RequestLabel where
  id : String
  method : String
  uri : String
  deriving DecidableEq, Repr

inductive Event where
  | tracingStarted (service : String)
  | building (service : String) (path : String)
  | arrived (request : RequestLabel)
  | answered (request : RequestLabel) (status : Nat)
  | refused (error : ApiError)
  | panicked (details : String)
  | noRoute (uri : String)
  | listed (count : Nat)
  | created (id : DataSourceId) (pluginSrc : String)
  | deleted (id : DataSourceId)
  deriving DecidableEq, Repr

/-- The value of a field: a number, a text as it is, or a text in quotes. -/
inductive FieldValue where
  | number (n : Nat)
  | plain (s : String)
  | quoted (s : String)
  deriving DecidableEq, Repr

namespace RequestLabel

def fields (r : RequestLabel) : List (String × FieldValue) :=
  [("request_id", .plain r.id), ("method", .plain r.method), ("uri", .plain r.uri)]

end RequestLabel

namespace Event

def level : Event → Level
  | .tracingStarted _ | .building _ _ | .arrived _ | .created _ _ | .deleted _ => .info
  | .answered _ status => if Http.Status.isServerError status then .warn else .info
  | .refused e => if e.isServerError then .error else .warn
  | .panicked _ => .error
  | .noRoute _ => .warn
  | .listed _ => .debug

def message : Event → String
  | .tracingStarted _ => "Tracing initialized"
  | .building _ _ => "Building application"
  | .arrived _ => "Incoming request"
  | .answered _ status =>
    if Http.Status.isServerError status then "Request failed" else "Request completed"
  | .refused e => if e.isServerError then "Request failed" else "Request rejected"
  | .panicked _ => "Handler panicked"
  | .noRoute _ => "No route matched"
  | .listed _ => "Listed data sources"
  | .created _ _ => "Data source created"
  | .deleted _ => "Data source deleted"

def fields : Event → List (String × FieldValue)
  | .tracingStarted service => [("service", .plain service)]
  | .building service path => [("service", .plain service), ("prefix", .plain path)]
  | .arrived r => r.fields
  | .answered r status => r.fields ++ [("status", .plain (Http.Status.text status))]
  | .refused e =>
    [("status", .number e.status), ("error_code", .quoted e.code), ("error", .plain e.message)]
  | .panicked details => [("details", .plain details)]
  | .noRoute uri => [("uri", .plain uri)]
  | .listed count => [("count", .number count)]
  | .created id pluginSrc =>
    [("data_source_id", .plain id.text), ("plugin_src", .plain pluginSrc)]
  | .deleted id => [("data_source_id", .plain id.text)]

/-- The names of what an event tells: its message, its fields, and for an answer how long it
took. -/
def fieldNames (e : Event) : List String :=
  "message" :: e.fields.map (·.1) ++ (if e matches .answered _ _ then ["duration_ms"] else [])

/-- The part of the service that reports services of data sources. -/
def serviceTarget : String := "compass_application::services::datasource"

def target : Event → String
  | .tracingStarted _ => "compass_common::telemetry"
  | .building _ _ => "compass_api_rest::app"
  | .arrived _ | .answered _ _ => "compass_api_rest::middleware::logging"
  | .refused _ => "compass_api_rest::error"
  | .panicked _ | .noRoute _ => "compass_api_rest::middleware::error_handler"
  | .listed _ | .created _ _ | .deleted _ => serviceTarget

end Event

/-- A use case at work: what it does, for which request and workspace, and on which data source. -/
structure Span where
  operation : String
  correlation : String
  workspace : WorkspaceId
  subject : Option DataSourceId
  deriving DecidableEq, Repr

namespace Span

def fields (s : Span) : List (String × String) :=
  [("correlation_id", s.correlation), ("workspace_id", s.workspace.text)]
    ++ (s.subject.map fun id => ("id", id.description)).toList

end Span

/-- One entry of a trace: an event and the span around it, or the end of a span. -/
inductive Entry where
  | event (e : Event) (span : Option Span)
  | closed (span : Span)
  deriving DecidableEq, Repr

end SourceRegistry.Trace
