import SourceRegistry.ServiceError

/-!
# Errors of the interface

Every refusal of a request is either a service error, a bad request, or a request that breaks a
length rule. The texts of failures inside the service are kept from clients.
-/

namespace SourceRegistry

inductive ApiError where
  | service (e : ServiceError)
  | badRequest (detail : String)
  | validation (detail : String)
  deriving DecidableEq, Repr

namespace ApiError

def status : ApiError → Nat
  | .service e => e.status
  | .badRequest _ => 400
  | .validation _ => 422

def code : ApiError → String
  | .service e => e.code
  | .badRequest _ => "BAD_REQUEST"
  | .validation _ => "VALIDATION_FAILED"

def message : ApiError → String
  | .service e => e.message
  | .badRequest detail => "Bad request: " ++ detail
  | .validation detail => "Validation error: " ++ detail

/-- What clients read instead of the text of a failure inside the service. -/
def maskedMessage : String := "Error doing the process"

def isMasked (e : ApiError) : Bool := e.status = 500 ∨ e.status = 503

def clientMessage (e : ApiError) : String := if e.isMasked then maskedMessage else e.message

/-- Whether the failure is the server's and not the client's. -/
def isServerError (e : ApiError) : Bool := 500 ≤ e.status ∧ e.status < 600

end ApiError

end SourceRegistry
