import SourceRegistry.Json.Basic
import SourceRegistry.Text.Quoted
import SourceRegistry.Trace.Filter

/-!
# Rendered traces

What a filter leaves of a trace, in one of two forms: an object for each event, or a line of text
for each event and for the end of each span. Every request runs in a span of its own, which is
reported in detail only.
-/

namespace SourceRegistry.Trace

/-- The span around a request. -/
def RequestLabel.scope (r : RequestLabel) : Scope where
  name := "request"
  target := "tower_http::trace::make_span"
  level := .debug
  fields := [("method", r.method), ("uri", r.uri), ("version", "HTTP/1.1")]

def Span.scope (s : Span) : Scope := ⟨s.operation, Event.serviceTarget, .info, s.fields⟩

namespace FieldValue

def toJson : FieldValue → Json
  | .number n => .ofNat n
  | .plain s | .quoted s => .string s

def text : FieldValue → String
  | .number n => toString n
  | .plain s => s
  | .quoted s => Text.quoted s

end FieldValue

namespace Event

/-- The message and the fields. -/
def fieldsJson (e : Event) : Json :=
  .object (("message", .string e.message) :: e.fields.map fun f => (f.1, f.2.toJson))

/-- The members of the object of an event, in ascending order. -/
def memberNames (inSpan : Bool) : List String :=
  ["fields", "filename", "level", "line_number"] ++ (if inSpan then ["span", "spans"] else [])
    ++ ["target", "threadId", "timestamp"]

/-- The message and the fields in one line. -/
def line (e : Event) : String :=
  ", ".intercalate (e.message :: e.fields.map fun f => f.1 ++ ": " ++ f.2.text)

end Event

/-- One reported entry: an event, with the word whether a span is shown around it, or the end of
a span. -/
inductive Reported where
  | event (e : Event) (inSpan : Bool)
  | closed
  deriving DecidableEq, Repr

/-- What a filter leaves of a trace, of which `request` is under way. -/
def reportedIn (f : Filter) (request : Option RequestLabel) : List Entry → List Reported
  | [] => []
  | .event e span :: rest =>
    let request := match e with
      | .arrived r => some r
      | _ => request
    let s := f.enterAll ((request.map (·.scope)).toList ++ (span.map (·.scope)).toList)
    let rest := reportedIn f (if e matches .answered _ _ then none else request) rest
    if f.allows e s then .event e (!s.shown.isEmpty) :: rest else rest
  | .closed span :: rest =>
    let rest := reportedIn f request rest
    if f.shows (f.enterAll (request.map (·.scope)).toList) span.scope then .closed :: rest else rest

/-- What a filter leaves of a trace. -/
def reported (f : Filter) (entries : List Entry) : List Reported := reportedIn f none entries

end SourceRegistry.Trace
