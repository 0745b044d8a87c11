import SourceRegistry.Api.Document
import SourceRegistry.Api.Extract
import SourceRegistry.Api.Representation
import SourceRegistry.Api.Site

/-!
# Handlers

What happens at a site. A handler takes what it needs from the request, runs a use case if that
is all there, and replies; or it panics with the use case.
-/

namespace SourceRegistry

open Http (Request Response)

/-- A service: its settings and the use cases behind it. -/
structure App (σ : Type) where
  settings : Settings
  useCases : UseCases σ

/-- A request with what is given to it on arrival: a request identifier in case it has none, a
stamp in case it creates a data source, and the order in which its lengths are told in case they
are wrong. -/
structure Arrival where
  request : Request
  freshId : String
  stamp : Stamp
  lengthOrder : LengthOrder := .asDeclared

/-- The identifier of a request: its own or the given one. -/
def Arrival.requestId (a : Arrival) : String := (Extract.requestId? a.request).getD a.freshId

/-- How the handling of a request ended, after how many milliseconds, in which state, and what
was reported. -/
structure Handled (σ : Type) where
  delay : Nat := 0
  ending : Except Panic Response
  state : σ
  trace : List Trace.Entry := []

namespace Reply

def json (status : Nat) (j : Json) : Response :=
  { status, headers := [("content-type", "application/json")], body := j.text }

def plain (status : Nat) (text : String) : Response :=
  { status, headers := [("content-type", "text/plain; charset=utf-8")], body := text }

def error (e : ApiError) : Response :=
  json e.status (ErrorBody.toJson ⟨e.code, e.clientMessage, none⟩)

def representation (status : Nat) (s : Summary) : Response :=
  json status (Representation.ofSummary s).toJson

/-- The reply to a successful operation. -/
def success : (op : Operation) → op.Answer → Response
  | .list, l => json 200 (.array (l.map fun s => (Representation.ofSummary s).toJson))
  | .find _, s => representation 200 s
  | .delete _, () => { status := 204 }
  | .create _, s => representation 201 s

/-- The reply at a path where there is nothing. -/
def noRoute (path : String) (requestId : Option String) : Response :=
  json 404 (ErrorBody.toJson ⟨"NOT_FOUND", "No route for " ++ path, requestId⟩)

def panic : Response :=
  json 500 (ErrorBody.toJson ⟨"INTERNAL_ERROR", ApiError.maskedMessage, none⟩)

def redirect (location : String) : Response :=
  { status := 303, headers := [("location", location)] }

def page (title : String) : Response :=
  { status := 200
    headers := [("content-type", "text/html")]
    body := "<!DOCTYPE html><html><head><title>" ++ title
      ++ "</title></head><body><div id=\x22swagger-ui\x22></div></body></html>" }

end Reply

namespace App

def reply (s : σ) (r : Response) : Handled σ := { ending := .ok r, state := s }

def refuse (e : ApiError) (s : σ) : Handled σ :=
  { ending := .ok (Reply.error e), state := s, trace := [.event (.refused e) none] }

/-- Runs a use case and replies with its answer. -/
def perform (app : App σ) (ctx : Context) (stamp : Stamp) (op : Operation) (s : σ) : Handled σ :=
  let o := app.useCases.perform ctx stamp op s
  let handled (ending : Except Panic Response) (more : List Trace.Entry) : Handled σ :=
    ⟨app.useCases.delay, ending, o.state, o.trace ++ more⟩
  match o.ending with
  | .panicked p => handled (.error p) []
  | .returned (.ok answer) => handled (.ok (Reply.success op answer)) []
  | .returned (.error e) =>
    handled (.ok (Reply.error (.service e))) [.event (.refused (.service e)) none]

/-- The operation that a request to the collection asks for. -/
def collectionOperation (app : App σ) (a : Arrival) : Except ApiError Operation := do
  if a.request.method = "POST" then
    let request ← Extract.createRequest a.lengthOrder app.settings.maxBodySize a.request
    .ok (.create request.toDraft)
  else .ok .list

/-- The operation that a request to an item asks for. -/
def itemOperation (a : Arrival) (raw : String) : Except ApiError Operation := do
  let id ← Extract.sourceId raw
  .ok (if a.request.method = "DELETE" then .delete id else .find id)

def collection (app : App σ) (a : Arrival) (s : σ) : Handled σ :=
  match Extract.context a.request a.requestId with
  | .error e => refuse e s
  | .ok ctx =>
    match app.collectionOperation a with
    | .error e => refuse e s
    | .ok op => app.perform ctx a.stamp op s

def item (app : App σ) (a : Arrival) (parameters : List (String × String)) (s : σ) : Handled σ :=
  match Extract.context a.request a.requestId with
  | .error e => refuse e s
  | .ok ctx =>
    match Extract.pathText parameters with
    | .error f => reply s (Reply.plain f.status f.message)
    | .ok raw =>
      match itemOperation a raw with
      | .error e => refuse e s
      | .ok op => app.perform ctx a.stamp op s

def health : Health := ⟨"healthy", "0.1.0"⟩

/-- The context in which readiness is probed. -/
def probe : Context := ⟨.nil, "readiness-probe"⟩

/-- The service is ready if the data sources of the nil workspace can be listed. -/
def ready (app : App σ) (a : Arrival) (s : σ) : Handled σ :=
  let o := app.useCases.perform probe a.stamp .list s
  let ending : Except Panic Response :=
    match o.ending with
    | .panicked p => .error p
    | .returned answer => .ok (Reply.json 200 (Readiness.toJson ⟨answer.isOk, answer.isOk⟩))
  ⟨app.useCases.delay, ending, o.state, o.trace⟩

/-- What happens at a site with a method that it answers. -/
def handleAt (app : App σ) (site : Site) (parameters : List (String × String)) (a : Arrival)
    (s : σ) : Handled σ :=
  match site with
  | .health => reply s (Reply.json 200 health.toJson)
  | .ready => app.ready a s
  | .collection => app.collection a s
  | .item => app.item a parameters s
  | .document => reply s (Reply.json 200 (Document.toJson app.settings))
  | .pagesRoot => reply s (Reply.redirect "/swagger-ui/")
  | .pagesIndex => reply s (Reply.page "Swagger UI")
  | .pagesFile => reply s { status := 404 }

/-- What happens where there is no site. -/
def handleNowhere (a : Arrival) (s : σ) : Handled σ :=
  { ending := .ok (Reply.noRoute a.request.target.path (some a.requestId))
    state := s
    trace := [.event (.noRoute a.request.target.text) none] }

end App

end SourceRegistry
