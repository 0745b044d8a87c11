import SourceRegistry.Http.Message

/-!
# Shared use across origins

Which web pages may read a response. A list of origins with the entry `*` lets in all of them,
any other list those that it names byte for byte.
-/

namespace SourceRegistry.Http.Cors

/-- What a response grants to the origin that asked. -/
inductive Grant where
  | everyone
  | origin (value : String)
  | nobody
  deriving DecidableEq, Repr

/-- Whom to let in, as it is settled before any request comes. -/
inductive Policy where
  | everyone
  | listed (origins : List String)
  deriving DecidableEq, Repr

namespace Policy

/-- The policy of a list of origins. There is none for a list with `*`, which is no origin. -/
def ofOrigins? (origins : List String) : Option Policy :=
  if "*" ∈ origins then none else some (.listed origins)

/-- The policy of some entries. Those that cannot be sent as a header are passed over. -/
def ofEntries? (entries : List String) : Option Policy :=
  if "*" ∈ entries then some .everyone else ofOrigins? (entries.filter isHeaderValue)

def grant : Policy → Option String → Grant
  | .everyone, _ => .everyone
  | .listed origins, some o => if o ∈ origins then .origin o else .nobody
  | .listed _, none => .nobody

end Policy

/-- What a response to a request from `origin` grants, given the entries of the settings. -/
def grant (allowed : List String) (origin : Option String) : Grant :=
  match Policy.ofEntries? allowed with
  | some policy => policy.grant origin
  | none => .nobody

def Grant.headers : Grant → List Header
  | .everyone => [("access-control-allow-origin", "*")]
  | .origin value => [("access-control-allow-origin", value)]
  | .nobody => []

/-- The header that tells caches what a response depends on. -/
def vary : Header :=
  ("vary", "origin, access-control-request-method, access-control-request-headers")

/-- The answer to the question which requests are allowed. -/
def preflight : Response :=
  { status := 200
    headers := [("access-control-allow-methods", "*"), ("access-control-allow-headers", "*")] }

end SourceRegistry.Http.Cors
