import SourceRegistry.Number.Nearest
import SourceRegistry.Settings.Tree

/-!
# Single settings

Sources of settings do not agree on types, so a setting is taken for what is needed where that
makes sense: `on` and `1` for true, a number or `yes` for a count, any single value for a text.
-/

namespace SourceRegistry.Setting

def trueWords : List String := ["true", "on", "yes"]

def falseWords : List String := ["false", "off", "no"]

/-- The digits of a whole number behind an optional sign. -/
def wholeText? (s : String) : Option (Bool × Nat) :=
  let (minus, ds) := Binary64.splitSign s.toList
  if ds ≠ [] ∧ ds.all Binary64.isDigit then some (minus, Binary64.numeral ds) else none

/-- A whole number that fits a signed word of sixty-four bits. -/
def int? (s : String) : Option Int := do
  let (minus, n) ← wholeText? s
  let n : Int := if minus then -(n : Int) else n
  if Word.fitsSigned 64 n then some n else none

/-- A count in a text, in which a plus sign may stand. -/
def countText? (s : String) : Option Nat := do
  let (minus, n) ← wholeText? s
  if !minus && Word.fits 64 n then some n else none

/-- The count nearest to a number: none is below zero or above the greatest. -/
def countOf (x : Binary64) : Nat :=
  if x.isNaN then 0
  else if x.isFinite then min x.round.toNat (Word.greatest 64)
  else if x.isNegative then 0
  else Word.greatest 64

def count? : Setting → Option Nat
  | .bool b => some b.toNat
  | .int n => if 0 ≤ n ∧ Word.fits 64 n.toNat then some n.toNat else none
  | .float x => some (countOf x)
  | .text s =>
    if Text.lower s ∈ trueWords then some 1
    else if Text.lower s ∈ falseWords then some 0
    else countText? s
  | _ => none

/-- A count of some number of bits. -/
def unsigned? (bits : Nat) (s : Setting) : Option Nat :=
  s.count?.filter (Word.fits bits)

def bool? : Setting → Option Bool
  | .bool b => some b
  | .int n => some (n ≠ 0)
  | .float x => some (!x.isZero)
  | .text s =>
    if Text.lower s ∈ "1" :: trueWords then some true
    else if Text.lower s ∈ "0" :: falseWords then some false
    else none
  | _ => none

/-- Numbers in texts have all their digits and no exponent. -/
def numberStyle : DecimalStyle := ⟨none, none, false⟩

def floatText (x : Binary64) : String :=
  if x.isNaN then "NaN"
  else if x.isFinite then numberStyle.write x
  else if x.isNegative then "-inf"
  else "inf"

def text? : Setting → Option String
  | .bool b => some (if b then "true" else "false")
  | .int n => some (toString n)
  | .float x => some (floatText x)
  | .text s => some s
  | _ => none

/-- A list of texts. -/
def texts? : Setting → Option (List String)
  | .list l => l.mapM text?
  | _ => none

end SourceRegistry.Setting
