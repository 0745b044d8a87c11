import SourceRegistry.Api.Handlers
import SourceRegistry.Http.Coding
import SourceRegistry.Http.Cors

/-!
# Layers

What is wrapped around every handler: a deadline, compression, the grant for other origins, a
net for panics, the report of the request, and its identifier. Each layer is a function of its
own on the result of those inside of it.
-/

namespace SourceRegistry

open Http (Request Response)

/-- A response with the state behind it and what was reported. -/
structure Served (σ : Type) where
  response : Response
  state : σ
  trace : List Trace.Entry

namespace Layer

/-- How far ahead a deadline is, in seconds: thirty years if the clock cannot count to it. -/
def ahead (seconds : Nat) : Nat :=
  if Word.fits 63 seconds then seconds else 30 * 365 * 24 * 60 * 60

/-- A handler that is still at work when the deadline comes is stopped before it acts. -/
def deadline (seconds : Nat) (before : σ) (h : Handled σ) : Handled σ :=
  let limit := ahead seconds * 1000
  if limit ≤ h.delay then ⟨limit, .ok { status := 408 }, before, []⟩ else h

/-- The shortest body that is worth compressing, in bytes. -/
def compressionLimit : Nat := 32

def isCompressible (r : Response) : Bool := compressionLimit ≤ r.body.utf8ByteSize

/-- Marks a response as coded if it is worth it. Its body stays text here. -/
def compress (request : Request) (r : Response) : Response :=
  if isCompressible r then
    let r := r.append "vary" "accept-encoding"
    match Http.Coding.preferred request with
    | .identity => r
    | .gzip => r.append "content-encoding" "gzip"
  else r

def addHeaders (headers : List Http.Header) (r : Response) : Response :=
  { r with headers := r.headers ++ headers }

/-- What the origin of a request is granted, as headers. -/
def grantHeaders (s : Settings) (request : Request) : List Http.Header :=
  (Http.Cors.grant s.allowedOrigins (request.header? "origin")).headers ++ [Http.Cors.vary]

/-- Whether a request only asks which requests are allowed. -/
def isPreflight (request : Request) : Bool := request.method = "OPTIONS"

def catchPanic (h : Handled σ) : Served σ :=
  match h.ending with
  | .ok r => ⟨r, h.state, h.trace⟩
  | .error p => ⟨Reply.panic, h.state, h.trace ++ [.event (.panicked p.details) none]⟩

def label (a : Arrival) : Trace.RequestLabel :=
  ⟨a.requestId, a.request.method, a.request.target.text⟩

/-- Puts a report before and one behind all others. -/
def report (label : Trace.RequestLabel) (v : Served σ) : Served σ :=
  { v with
    trace := .event (.arrived label) none :: v.trace
      ++ [.event (.answered label v.response.status) none] }

def identify (requestId : String) (v : Served σ) : Served σ :=
  { v with response := v.response.replace Extract.requestIdHeader requestId }

/-- What the inner layers make of a handler. -/
def inner (app : App σ) (a : Arrival) (handle : σ → Handled σ) (s : σ) : Handled σ :=
  let grant := addHeaders (grantHeaders app.settings a.request)
  if isPreflight a.request then App.reply s (grant Http.Cors.preflight)
  else
    let h := deadline app.settings.timeoutSeconds s (handle s)
    { h with ending := h.ending.map fun r => grant (compress a.request r) }

def all (app : App σ) (a : Arrival) (handle : σ → Handled σ) (s : σ) : Served σ :=
  identify a.requestId (report (label a) (catchPanic (inner app a handle s)))

end Layer

end SourceRegistry
