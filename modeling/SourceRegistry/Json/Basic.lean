import SourceRegistry.Members
import SourceRegistry.Number.Binary64

/-!
# JSON values

An object is a list of members. Those of a value that was read are ascending and have one value
for each name; those of a record that is written stand in the record's own order.
-/

namespace SourceRegistry

/-- A number is whole when it was written as an integer that fits sixty-four bits. -/
inductive Json.Number where
  | whole (n : Int)
  | float (x : Binary64)
  deriving DecidableEq, Repr

inductive Json where
  | null
  | bool (b : Bool)
  | number (n : Json.Number)
  | string (s : String)
  | array (items : List Json)
  | object (members : List (String × Json))
  deriving Repr, BEq, Inhabited

namespace Json

/-- The object with the given members in ascending order; the last value of a name counts. -/
def ofMembers (members : List (String × Json)) : Json := .object (Members.ofList members)

def member? (name : String) : Json → Option Json
  | .object members => members.lookup name
  | _ => none

def isObject : Json → Bool
  | .object _ => true
  | _ => false

def isNull : Json → Bool
  | .null => true
  | _ => false

def string? : Json → Option String
  | .string s => some s
  | _ => none

def items? : Json → Option (List Json)
  | .array items => some items
  | _ => none

def ofNat (n : Nat) : Json := .number (.whole n)

def ofStrings (l : List String) : Json := .array (l.map .string)

def ofOption (f : α → Json) : Option α → Json
  | some x => f x
  | none => .null

end Json

end SourceRegistry
