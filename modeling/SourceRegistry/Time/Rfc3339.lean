import SourceRegistry.Json.Decoder
import SourceRegistry.Text.Space
import SourceRegistry.Time.Instant

/-!
# Dates and times as text

An instant is written in UTC, with as few fraction digits as are exact: none, three, six or nine.
It is read with any offset from UTC and with some freedom: white space may stand before each
number, hyphen and colon, numbers may lack leading zeros, and digits of the fraction beyond the
ninth are dropped.
-/

namespace SourceRegistry.Instant

/-- At least `width` digits. -/
def padded (width n : Nat) : List Char :=
  let ds := Nat.toDigits 10 n
  List.replicate (width - ds.length) '0' ++ ds

/-- Years of four digits stand alone, all others have a sign. -/
def yearChars (year : Int) : List Char :=
  if 0 ≤ year ∧ year ≤ 9999 then padded 4 year.toNat
  else (if year < 0 then '-' else '+') :: padded 4 year.natAbs

def fractionChars (nanosecond : Nat) : List Char :=
  if nanosecond = 0 then []
  else if nanosecond % 1000000 = 0 then '.' :: padded 3 (nanosecond / 1000000)
  else if nanosecond % 1000 = 0 then '.' :: padded 6 (nanosecond / 1000)
  else '.' :: padded 9 nanosecond

def chars (t : Instant) : List Char :=
  yearChars t.date.year ++ '-' :: padded 2 t.date.month ++ '-' :: padded 2 t.date.day
    ++ 'T' :: padded 2 t.hour ++ ':' :: padded 2 t.minute ++ ':' :: padded 2 t.second
    ++ fractionChars t.nanosecond ++ ['Z']

def text (t : Instant) : String := String.ofList t.chars

/-- Why a text is no date and time. -/
inductive Fault where
  | outOfRange
  | impossible
  | badCharacter
  | tooShort
  | tooLong
  deriving DecidableEq, Repr

def Fault.text : Fault → String
  | .outOfRange => "input is out of range"
  | .impossible => "no possible date and time matching input"
  | .badCharacter => "input contains invalid characters"
  | .tooShort => "premature end of input"
  | .tooLong => "trailing input"

abbrev Reader (α : Type) := List Char → Except Fault (α × List Char)

def isDigit (c : Char) : Bool := '0' ≤ c ∧ c ≤ '9'

/-- The value of digits. -/
def numeral (ds : List Char) : Nat := ds.foldl (fun n c => 10 * n + (c.toNat - 48)) 0

/-- A number of at least one digit and of at most `width`, if there is a bound. -/
def digits (width : Option Nat) : Reader Nat := fun cs =>
  let run := cs.takeWhile isDigit
  let ds := match width with
    | some n => run.take n
    | none => run
  match cs, ds with
  | [], _ => .error .tooShort
  | _, [] => .error .badCharacter
  | _, _ =>
    if Word.fitsSigned 64 (numeral ds) then .ok (numeral ds, cs.drop ds.length)
    else .error .outOfRange

/-- Drops white space. -/
def skipSpace (cs : List Char) : List Char := Text.trimStartChars cs

/-- A number of up to two digits between bounds, with white space before it. -/
def field (least greatest : Nat) : Reader Nat := fun cs => do
  let (n, cs) ← digits (some 2) (skipSpace cs)
  if least ≤ n ∧ n ≤ greatest then .ok (n, cs) else .error .outOfRange

/-- A year that fits a signed word of thirty-two bits. -/
def yearField : Reader Int := fun cs => do
  let (y, cs) ← match skipSpace cs with
    | '-' :: cs => do
      let (n, cs) ← digits none cs
      .ok (-(n : Int), cs)
    | '+' :: cs => do
      let (n, cs) ← digits none cs
      .ok ((n : Int), cs)
    | cs => do
      let (n, cs) ← digits (some 4) cs
      .ok ((n : Int), cs)
  if Word.fitsSigned 32 y then .ok (y, cs) else .error .outOfRange

/-- The rest behind a character that may have white space before it. -/
def mark (c : Char) (cs : List Char) : Except Fault (List Char) :=
  match skipSpace cs with
  | [] => .error .tooShort
  | d :: cs => if d = c then .ok cs else .error .badCharacter

/-- The rest behind the character between date and time. -/
def separator : List Char → Except Fault (List Char)
  | [] => .error .tooShort
  | c :: cs => if c = 't' ∨ c = 'T' ∨ c = ' ' then .ok cs else .error .badCharacter

/-- The nanoseconds of a fraction, if there is one. -/
def fraction : Reader Nat
  | '.' :: cs => do
    let (n, rest) ← digits (some 9) cs
    .ok (n * tenPow (9 - (cs.length - rest.length)), rest.dropWhile isDigit)
  | cs => .ok (0, cs)

/-- Two digits, told apart from less than two bytes of text. -/
def twoDigits : Reader Nat := fun cs =>
  match cs with
  | a :: b :: rest =>
    if isDigit a ∧ isDigit b then .ok (numeral [a, b], rest) else .error .badCharacter
  | [c] => if c.utf8Size < 2 then .error .tooShort else .error .badCharacter
  | [] => .error .tooShort

/-- The minutes of an offset behind its sign. -/
def offsetMinutes : Reader Nat := fun cs => do
  let (h, cs) ← twoDigits cs
  let (m, cs) ← twoDigits (cs.dropWhile fun c => c = ':' || Text.isSpace c)
  if m < 60 then .ok (60 * h + m, cs) else .error .outOfRange

/-- The minutes by which local time is ahead of UTC. -/
def offset : Reader Int := fun cs =>
  let cs := skipSpace cs
  if (cs.take 3).map Char.toLower = ['u', 't', 'c'] then .ok (0, cs.drop 3)
  else
    match cs with
    | [] => .error .tooShort
    | c :: rest =>
      if c = 'Z' ∨ c = 'z' then .ok (0, rest)
      else if c = '+' then do
        let (n, rest) ← offsetMinutes rest
        .ok ((n : Int), rest)
      else if c = '-' ∨ c = '−' then do
        let (n, rest) ← offsetMinutes rest
        .ok (-(n : Int), rest)
      else .error .badCharacter

/-- The instant of a local time that is `minutes` ahead of UTC. -/
def ofLocal (t : Instant) (minutes : Int) : Except Fault Instant :=
  if minutes.natAbs < 1440 then
    let u := t.addMinutes (-minutes)
    if u.date.isValid then .ok u else .error .impossible
  else .error .outOfRange

def ofChars (cs : List Char) : Except Fault Instant := do
  let (year, cs) ← yearField cs
  let (month, cs) ← field 1 12 (← mark '-' cs)
  let (day, cs) ← field 1 31 (← mark '-' cs)
  let (hour, cs) ← field 0 23 (← separator cs)
  let (minute, cs) ← field 0 59 (← mark ':' cs)
  let (second, cs) ← field 0 60 (← mark ':' cs)
  let (nanosecond, cs) ← fraction cs
  let (minutes, cs) ← offset cs
  if !(skipSpace cs).isEmpty then .error .tooLong
  else
    let date : Date := ⟨year, month, day⟩
    if date.isValid then ofLocal ⟨date, hour, minute, second, nanosecond⟩ minutes
    else .error .outOfRange

def decode (s : String) : Except String Instant := (ofChars s.toList).mapError Fault.text

def decoder : Json.Decoder Instant :=
  .parsed "an RFC 3339 formatted date and time string" decode

end SourceRegistry.Instant
