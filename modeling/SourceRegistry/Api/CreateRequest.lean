import SourceRegistry.DataSource.Basic
import SourceRegistry.Json.Decoder

/-!
# Requests to create a data source

The body of such a request and the rules for its lengths. The rules count every character, also
the white space around a text.
-/

namespace SourceRegistry

open Json (Decoder RecordForm given)

structure CreateRequest where
  name : String
  pluginSrc : String
  health : Bool
  data : Option Json
  deriving Repr

/-- A text whose length is not between the bounds. -/
structure LengthFault where
  field : String
  least : Nat
  greatest : Nat
  value : String
  deriving DecidableEq, Repr

namespace LengthFault

/-- What is told of a fault. -/
inductive Detail where
  | least
  | greatest
  | value
  deriving DecidableEq, Repr

def Detail.all : List Detail := [.least, .greatest, .value]

def detail (f : LengthFault) : Detail → String
  | .least => "\x22min\x22: Number(" ++ toString f.least ++ ")"
  | .greatest => "\x22max\x22: Number(" ++ toString f.greatest ++ ")"
  | .value => "\x22value\x22: String(" ++ Text.quoted f.value ++ ")"

def line (f : LengthFault) (details : List Detail) : String :=
  f.field ++ ": Validation error: length [\x7b" ++ ", ".intercalate (details.map f.detail)
    ++ "\x7d]"

end LengthFault

/-- The order in which faults are told, and the details of each; hash maps leave both open. -/
structure LengthOrder where
  faults : List LengthFault → List LengthFault
  details : LengthFault → List LengthFault.Detail
  faults_perm : ∀ fs, (faults fs).Perm fs
  details_perm : ∀ f, (details f).Perm LengthFault.Detail.all

def LengthOrder.asDeclared : LengthOrder where
  faults := id
  details _ := LengthFault.Detail.all
  faults_perm _ := .refl _
  details_perm _ := .refl _

namespace CreateRequest

def toDraft (r : CreateRequest) : Draft := ⟨r.name, r.pluginSrc, r.health, r.data.getD .null⟩

def lengthFault? (field value : String) (greatest : Nat) : Option LengthFault :=
  if 1 ≤ value.length ∧ value.length ≤ greatest then none else some ⟨field, 1, greatest, value⟩

def lengthFaults (r : CreateRequest) : List LengthFault :=
  (lengthFault? "name" r.name maxNameLength).toList
    ++ (lengthFault? "plugin_src" r.pluginSrc maxPluginSrcLength).toList

/-- The members of a request that have been read. -/
structure Parts where
  name : Option String := none
  pluginSrc : Option String := none
  health : Option Bool := none
  data : Option (Option Json) := none

def form : RecordForm Parts CreateRequest where
  title := "struct CreateDataSourceApiRequest"
  members :=
    [⟨"name", (·.name.isSome), Decoder.string.setting fun x p => { p with name := x }, false⟩,
     ⟨"pluginSrc", (·.pluginSrc.isSome),
      Decoder.string.setting fun x p => { p with pluginSrc := x }, false⟩,
     ⟨"health", (·.health.isSome), Decoder.bool.setting fun x p => { p with health := x }, true⟩,
     ⟨"data", (·.data.isSome),
      (Decoder.nullable .any).setting fun x p => { p with data := some x }, true⟩]
  start := {}
  finish p := do
    .ok ⟨← given "name" p.name, ← given "pluginSrc" p.pluginSrc, p.health.getD false,
      p.data.getD none⟩

end CreateRequest

end SourceRegistry
