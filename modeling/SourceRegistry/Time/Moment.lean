import SourceRegistry.Number.Nearest
import SourceRegistry.Time.Date

/-!
# Moments

A moment is a day, a time of day, or a day with a time, to which an offset may belong. `written?`
is the one way to write what a text says: with `T` between day and time, no zeros at the end of a
fraction, of which nine digits count, and `Z` in upper case.
-/

namespace SourceRegistry.Moment

open Binary64 (isDigit numeral)

/-- Reads the front of a text, if it has the right form. -/
abbrev Reader (α : Type) := List Char → Option (α × List Char)

/-- A number of `width` digits. -/
def number (width : Nat) : Reader Nat := fun cs =>
  let ds := cs.take width
  if ds.length = width ∧ ds.all isDigit then some (numeral ds, cs.drop width) else none

/-- A number of two digits behind a mark, up to a greatest one. -/
def part (mark : Char) (greatest : Nat) : Reader Nat
  | c :: cs => (number 2 cs).filter fun r => c = mark && r.1 ≤ greatest
  | [] => none

/-- The characters of a text in front of a rest of it. -/
def before (rest cs : List Char) : List Char := cs.take (cs.length - rest.length)

def day : Reader (List Char) := fun cs => do
  let (year, rest) ← number 4 cs
  let (month, rest) ← part '-' 12 rest
  let (day, rest) ← part '-' 31 rest
  let date : Date := ⟨year, month, day⟩
  if date.isValid then some (before rest cs, rest) else none

/-- The digits of a fraction that count, behind a point. -/
def fraction : Reader (List Char)
  | '.' :: cs =>
    let ds := cs.takeWhile isDigit
    let kept := ((ds.take 9).reverse.dropWhile (· = '0')).reverse
    if ds.isEmpty then none
    else some (if kept.isEmpty then [] else '.' :: kept, cs.drop ds.length)
  | cs => some ([], cs)

/-- A time of day, in which there may be a leap second. -/
def time : Reader (List Char) := fun cs => do
  let (hour, rest) ← number 2 cs
  let (_, rest) ← part ':' 59 rest
  let (_, rest) ← part ':' 60 rest
  if 23 < hour then none
  let clock := before rest cs
  let (digits, rest) ← fraction rest
  some (clock ++ digits, rest)

/-- The offset at the end of a moment; one of zero is ahead. -/
def offset? : List Char → Option (List Char)
  | [] => some []
  | ['Z'] | ['z'] => some ['Z']
  | sign :: cs => do
    let (hours, rest) ← number 2 cs
    let (minutes, rest) ← part ':' 59 rest
    if (sign ≠ '+' ∧ sign ≠ '-') ∨ 23 < hours ∨ rest ≠ [] then none
    some ((if hours + minutes = 0 then '+' else sign) :: cs)

/-- The moment that a text says, as it is written. -/
def written? (cs : List Char) : Option (List Char) :=
  match day cs with
  | some (d, []) => some d
  | some (d, mark :: rest) => do
    let (t, rest) ← time rest
    let offset ← offset? rest
    if mark = 'T' ∨ mark = 't' ∨ mark = ' ' then some (d ++ 'T' :: t ++ offset) else none
  | none =>
    match time cs with
    | some (t, []) => some t
    | _ => none

end SourceRegistry.Moment
