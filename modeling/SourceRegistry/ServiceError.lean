import SourceRegistry.DataSource.Error

/-!
# Service errors

What a use case answers when it does not succeed: a kind, which decides the status of the
response and the code for the client, and a detail in words.
-/

namespace SourceRegistry

inductive ServiceError.Kind where
  | notFound
  | invalidInput
  | validationFailed
  | conflict
  | notImplemented
  | internal
  | unavailable
  deriving DecidableEq, Repr

structure ServiceError where
  kind : ServiceError.Kind
  detail : String
  deriving DecidableEq, Repr

namespace ServiceError

namespace Kind

def status : Kind → Nat
  | .notFound => 404
  | .invalidInput => 400
  | .validationFailed => 422
  | .conflict => 409
  | .notImplemented => 501
  | .internal => 500
  | .unavailable => 503

def code : Kind → String
  | .notFound => "NOT_FOUND"
  | .invalidInput => "INVALID_INPUT"
  | .validationFailed => "VALIDATION_FAILED"
  | .conflict => "CONFLICT"
  | .notImplemented => "NOT_IMPLEMENTED"
  | .internal => "INTERNAL_ERROR"
  | .unavailable => "SERVICE_UNAVAILABLE"

def label : Kind → String
  | .notFound => "Resource not found"
  | .invalidInput => "Invalid input"
  | .validationFailed => "Validation failed"
  | .conflict => "Conflict"
  | .notImplemented => "Not implemented"
  | .internal => "Internal error"
  | .unavailable => "Service unavailable"

end Kind

def status (e : ServiceError) : Nat := e.kind.status

def code (e : ServiceError) : String := e.kind.code

def message (e : ServiceError) : String := e.kind.label ++ ": " ++ e.detail

def isServerError (e : ServiceError) : Bool := 500 ≤ e.status

end ServiceError

/-- The kind of service error that a cause counts as. -/
def DataSourceError.kind : DataSourceError → ServiceError.Kind
  | .notFound _ => .notFound
  | .duplicateName _ => .conflict
  | .invalidName _ | .invalidPluginSrc _ | .invalidDefinition _ => .invalidInput

def DataSourceError.toServiceError (e : DataSourceError) : ServiceError := ⟨e.kind, e.message⟩

end SourceRegistry
