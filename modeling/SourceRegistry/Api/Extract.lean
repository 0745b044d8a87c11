import SourceRegistry.Api.CreateRequest
import SourceRegistry.Api.Error
import SourceRegistry.Http.MediaType
import SourceRegistry.Http.Message
import SourceRegistry.Http.Percent
import SourceRegistry.UseCases.Basic

/-!
# What handlers take from a request

The workspace that a request is about, the identifier in its path, and the body of a request to
create a data source. Each is there and well-formed, or the request is refused.
-/

namespace SourceRegistry.Extract

open Http (Request)

def requestIdHeader : String := "x-request-id"

/-- The identifier that a client gave its request: plain text that is not blank. -/
def requestId? (r : Request) : Option String :=
  match r.header? requestIdHeader with
  | some value =>
    let id := Text.trim value
    if Http.isPlain value && id != "" then some id else none
  | none => none

def workspaceHeader : String := "workspaceid"

def workspace (r : Request) : Except ApiError WorkspaceId :=
  match r.header? workspaceHeader with
  | none => .error (.badRequest "Missing workspaceId header")
  | some raw =>
    if Http.isPlain raw then
      match WorkspaceId.ofString? raw with
      | some w => .ok w
      | none => .error (.badRequest ("Invalid workspaceId: " ++ raw))
    else .error (.badRequest "workspaceId header is not valid text")

/-- The context of a request with the given identifier. -/
def context (r : Request) (requestId : String) : Except ApiError Context :=
  (workspace r).map (⟨·, requestId⟩)

/-- Why the parameters of a path cannot be taken. -/
inductive PathFault where
  | badText (parameter : String)
  | tooMany (found : Nat)
  deriving DecidableEq, Repr

namespace PathFault

def status : PathFault → Nat
  | .badText _ => 400
  | .tooMany _ => 500

def message : PathFault → String
  | .badText parameter => "Invalid URL: Invalid UTF-8 in \x60" ++ parameter ++ "\x60"
  | .tooMany found =>
    "Wrong number of path arguments for \x60Path\x60. Expected 1 but got " ++ toString found
      ++ ". Note that multiple parameters must be extracted with a tuple \x60Path<(_, _)>\x60"
      ++ " or a struct \x60Path<YourParams>\x60"

end PathFault

/-- The texts of encoded parameters, or the name of the first that is none. -/
def decodeAll : List (String × String) → Except PathFault (List String)
  | [] => .ok []
  | (name, raw) :: rest =>
    match Http.Percent.decode? raw with
    | some value => (decodeAll rest).map (value :: ·)
    | none => .error (.badText name)

/-- The only parameter of a path. -/
def pathText (parameters : List (String × String)) : Except PathFault String := do
  match ← decodeAll parameters with
  | [value] => .ok value
  | values => .error (.tooMany values.length)

def sourceId (raw : String) : Except ApiError DataSourceId :=
  match DataSourceId.ofString? raw with
  | some id => .ok id
  | none => .error (.badRequest ("Invalid data source id: " ++ raw))

/-- The longest body that is read where no limit is set, in bytes. -/
def defaultLimit : Nat := 2097152

def announcesJson (r : Request) : Bool :=
  ((r.header? "content-type").map Http.announcesJson).getD false

/-- The text for a body that is not read. -/
def bodyFault (s : List Text.Symbol) (f : Json.Fault) : String :=
  let opening :=
    if f.cause.isMismatch then "Failed to deserialize the JSON body into the target type: "
    else "Failed to parse the request body as JSON: "
  opening ++ f.messageIn s

/-- The value at the front of a body; what follows it is not looked at. -/
def json (d : Json.Decoder α) (limit : Nat) (r : Request) : Except ApiError α :=
  if !announcesJson r then
    .error (.badRequest
      "Invalid JSON: Expected request with \x60Content-Type: application/json\x60")
  else if limit < r.body.length then
    .error (.badRequest "Invalid JSON: Failed to buffer the request body: length limit exceeded")
  else
    let s := Text.Symbol.ofBytes r.body
    match d Json.depthLimit s with
    | .ok (x, _) => .ok x
    | .error f => .error (.badRequest ("Invalid JSON: " ++ bodyFault s f))

/-- One line for each length that is wrong. -/
def lengthMessage (order : LengthOrder) (faults : List LengthFault) : String :=
  "\n".intercalate ((order.faults faults).map fun f => f.line (order.details f))

def createRequest (order : LengthOrder) (limit : Nat) (r : Request) :
    Except ApiError CreateRequest := do
  let request ← json CreateRequest.form.decoder limit r
  match request.lengthFaults with
  | [] => .ok request
  | faults => .error (.validation (lengthMessage order faults))

end SourceRegistry.Extract
