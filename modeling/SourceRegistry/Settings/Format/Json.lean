import SourceRegistry.Json.Reader
import SourceRegistry.Settings.Scalar

/-!
# Settings in JSON

A document is an object. Whole numbers that do not fit a signed word are taken as floats.
-/

namespace SourceRegistry.Setting

def ofNumber : Json.Number → Setting
  | .whole n => if Word.fitsSigned 64 n then .int n else .float (Binary64.nearest ⟨n.toNat, 0⟩)
  | .float x => .float x

mutual

def ofJson : Json → Setting
  | .null => .null
  | .bool b => .bool b
  | .number n => ofNumber n
  | .string s => .text s
  | .array l => .list (ofItems l)
  | .object ms => .table (ofMembers ms)

def ofItems : List Json → List Setting
  | [] => []
  | j :: rest => ofJson j :: ofItems rest

def ofMembers : List (String × Json) → List (String × Setting)
  | [] => []
  | (name, j) :: rest => (name, ofJson j) :: ofMembers rest

end

/-- The entries of a JSON document. -/
def readJson? (s : String) : Option (List (String × Setting)) :=
  match Json.parse s with
  | .ok (.object ms) => some (ofMembers ms)
  | _ => none

end SourceRegistry.Setting
