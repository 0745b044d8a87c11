import SourceRegistry.Http.Target
import SourceRegistry.Http.Token
import SourceRegistry.Text.Utf8

/-!
# Messages

Requests with their bodies as bytes, responses with their bodies as text. The names of headers
are in lower case; of several headers with one name the first counts.
-/

namespace SourceRegistry.Http

abbrev Header := String × String

structure Request where
  method : String
  target : Target
  headers : List Header
  body : List UInt8
  deriving DecidableEq, Repr

structure Response where
  status : Nat
  headers : List Header := []
  body : String := ""
  deriving DecidableEq, Repr

namespace Request

/-- The first value of a header. -/
def header? (r : Request) (name : String) : Option String := r.headers.lookup name

/-- All values of a header. -/
def headerValues (r : Request) (name : String) : List String :=
  (r.headers.filter (·.1 == name)).map (·.2)

def headerOf? (h : String × String) : Option Header :=
  if isToken h.1 && isHeaderValue h.2 then some (Text.lowerAscii h.1, h.2) else none

/-- The request of given parts, if each of them can be sent. -/
def ofParts? (method target : String) (headers : List (String × String)) (body : List UInt8) :
    Option Request := do
  if !isToken method then none
  some ⟨method, ← Target.ofString? target, ← headers.mapM headerOf?, body⟩

end Request

namespace Response

def header? (r : Response) (name : String) : Option String := r.headers.lookup name

/-- Adds a header behind the others. -/
def append (r : Response) (name value : String) : Response :=
  { r with headers := r.headers ++ [(name, value)] }

/-- Sets a header to one value, whatever values it had. -/
def replace (r : Response) (name value : String) : Response :=
  { r with headers := r.headers.filter (·.1 != name) ++ [(name, value)] }

/-- The same response without its body. -/
def withoutBody (r : Response) : Response := { r with body := "" }

end Response

end SourceRegistry.Http
