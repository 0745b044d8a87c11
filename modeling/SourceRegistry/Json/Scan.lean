import SourceRegistry.Json.Fault

/-!
# Words, strings and numbers

The parts of a JSON text that hold no other values. A number keeps as many of its leading digits
as fit sixty-four bits; the others only shift its exponent.
-/

namespace SourceRegistry.Json

open Text (Symbol)

/-- A reader takes the front of a text and leaves the rest. -/
abbrev Reader (α : Type) := List Symbol → Except Fault (α × List Symbol)

/-- A fault at the beginning of `s`. -/
def failAt (cause : Cause) (s : List Symbol) : Except Fault α :=
  .error ⟨cause, Text.byteWidth s, []⟩

/-- A fault one byte behind the beginning of `s`, that of a text that was only looked at. -/
def failPast (cause : Cause) (s : List Symbol) : Except Fault α :=
  .error ⟨cause, Text.byteWidth s - 1, []⟩

def isBlank (c : Symbol) : Bool :=
  c == .char ' ' || c == .char '\n' || c == .char '\t' || c == .char '\r'

def skipBlanks (s : List Symbol) : List Symbol := s.dropWhile isBlank

/-- The rest behind the given characters. -/
def word : List Char → List Symbol → Except Fault (List Symbol)
  | [], s => .ok s
  | _ :: _, [] => failAt .endOfValue []
  | c :: cs, d :: s => if d = .char c then word cs s else failAt .noIdent s

def hexValue? (c : Symbol) : Option Nat := c.char?.bind Text.hexValue?

/-- The character that a letter behind a backslash stands for. -/
def simpleEscape? (c : Symbol) : Option Char :=
  match c with
  | .char '\x22' => some '\x22'
  | .char '\\' => some '\\'
  | .char '/' => some '/'
  | .char 'b' => some '\x08'
  | .char 'f' => some '\x0c'
  | .char 'n' => some '\n'
  | .char 'r' => some '\r'
  | .char 't' => some '\t'
  | _ => none

/-- Whether there is room for the four digits of an escape. -/
def hasFourBytes (s : List Symbol) : Bool := 4 ≤ Text.byteWidth (s.take 4)

/-- Where inside a string the reader stands. -/
inductive StringMode where
  | plain
  | escape
  /-- `left` digits are missing from the number `n`, whose higher half may be known. -/
  | digits (left : Nat) (n : Nat) (high : Option Nat)
  | pairBackslash (high : Nat)
  | pairLetter (high : Nat)
  deriving DecidableEq, Repr

def isHighSurrogate (n : Nat) : Bool := 0xD800 ≤ n ∧ n < 0xDC00

def isLowSurrogate (n : Nat) : Bool := 0xDC00 ≤ n ∧ n < 0xE000

/-- What the four digits of an escape amount to. -/
inductive Escaped where
  | char (c : Char)
  | half (high : Nat)
  | lone
  deriving DecidableEq, Repr

def escaped (n : Nat) : Option Nat → Escaped
  | none =>
    if isLowSurrogate n then .lone else if isHighSurrogate n then .half n else .char (Char.ofNat n)
  | some high =>
    if isLowSurrogate n then .char (Char.ofNat ((high - 0xD800) * 0x400 + (n - 0xDC00) + 0x10000))
    else .lone

/-- Reads the rest of a string behind `before` reversed; `sound` if no byte was astray so far. -/
def stringRest (before : List Char) (sound : Bool) : StringMode → Reader String
  | _, [] => failAt .endOfString []
  | .plain, c :: s =>
    match c with
    | .char '\x22' =>
      if sound then .ok (String.ofList before.reverse, s) else failAt .badCodePoint s
    | .char '\\' => stringRest before sound .escape s
    | .char c =>
      if c.toNat < 0x20 then failAt .controlCharacter s
      else stringRest (c :: before) sound .plain s
    | .stray _ => stringRest before false .plain s
  | .escape, c :: s =>
    match simpleEscape? c with
    | some d => stringRest (d :: before) sound .plain s
    | none =>
      if c = .char 'u' then
        if hasFourBytes s then stringRest before sound (.digits 4 0 none) s
        else failAt .endOfString []
      else failAt .badEscape s
  | .digits left n high, c :: s =>
    match hexValue? c with
    | none => failAt .badEscape s
    | some d =>
      if 1 < left then stringRest before sound (.digits (left - 1) (16 * n + d) high) s
      else match escaped (16 * n + d) high with
        | .char d => stringRest (d :: before) sound .plain s
        | .half high => stringRest before sound (.pairBackslash high) s
        | .lone => failAt .loneSurrogate s
  | .pairBackslash high, c :: s =>
    if c = .char '\\' then stringRest before sound (.pairLetter high) s
    else failAt .shortSurrogate s
  | .pairLetter high, c :: s =>
    if c = .char 'u' then
      if hasFourBytes s then stringRest before sound (.digits 4 0 (some high)) s
      else failAt .endOfString []
    else failAt .shortSurrogate s

/-- Reads a string behind its opening quote. -/
def stringBody : Reader String := stringRest [] true .plain

def digit? (c : Symbol) : Option Nat :=
  c.char?.bind fun c => if '0' ≤ c ∧ c ≤ '9' then some (c.toNat - 48) else none

/-- The digits at the front of a text. -/
def digitRun : Reader (List Nat)
  | [] => .ok ([], [])
  | c :: s =>
    match digit? c with
    | none => .ok ([], c :: s)
    | some d => do
      let (ds, rest) ← digitRun s
      .ok (d :: ds, rest)

def wordLimit : Nat := twoPow 64

/-- Appends digits to a number as long as it stays below the limit, and gives those left over. -/
def absorb : Nat → List Nat → Nat × List Nat
  | n, [] => (n, [])
  | n, d :: ds => if 10 * n + d < wordLimit then absorb (10 * n + d) ds else (n, d :: ds)

/-- Divides by a power of ten in steps that a float can hold. -/
def scaleDown (f : Float) (k : Nat) : Float :=
  if k ≤ 308 then f / Float.ofScientific 1 false k
  else if f == 0 then f
  else scaleDown (f / 1e308) (k - 308)
termination_by k

/-- The float `± n · 10 ^ e`, none if it is too large. -/
def scaled? (negative : Bool) (n : Nat) (e : Int) : Option Binary64 :=
  let f := Float.ofNat n
  let magnitude : Option Float :=
    match e with
    | .ofNat k =>
      if k ≤ 308 then
        let f := f * Float.ofScientific 1 false k
        if f.isInf then none else some f
      else if n = 0 then some f else none
    | .negSucc k => some (scaleDown f (k + 1))
  magnitude.map fun f => .ofFloat (if negative then -f else f)

/-- The number `± n · 10 ^ e` in front of the rest `s`. -/
def floatOf (negative : Bool) (n : Nat) (e : Int) (s : List Symbol) :
    Except Fault (Number × List Symbol) :=
  match scaled? negative n e with
  | some x => .ok (.float x, s)
  | none => failAt .numberOutOfRange s

/-- The sign in front of an exponent, true for minus. -/
def exponentSign (s : List Symbol) : Bool × List Symbol :=
  match s with
  | .char '+' :: s => (false, s)
  | .char '-' :: s => (true, s)
  | s => (false, s)

/-- The greatest exponent that is looked at; all beyond it count as infinite. -/
def exponentLimit : Nat := twoPow 31

/-- Reads an exponent behind its letter and applies it to `± n · 10 ^ e`. -/
def exponentPart (negative : Bool) (n : Nat) (e : Int) (s : List Symbol) :
    Except Fault (Number × List Symbol) := do
  let (minus, s) := exponentSign s
  let (ds, rest) ← digitRun s
  match s, ds with
  | [], _ => failAt .endOfValue []
  | _ :: s, [] => failAt .badNumber s
  | _, _ =>
    let k := ds.foldl (fun k d => 10 * k + d) 0
    if k < exponentLimit then floatOf negative n (if minus then e - k else e + k) rest
    else if n ≠ 0 ∧ !minus then failAt .numberOutOfRange rest
    else floatOf negative 0 0 rest

/-- Whether a text starts with the letter of an exponent. -/
def exponentLetter? : List Symbol → Option (List Symbol)
  | .char 'e' :: s => some s
  | .char 'E' :: s => some s
  | _ => none

/-- Applies an exponent if there is one. -/
def withExponent (negative : Bool) (n : Nat) (e : Int) (s : List Symbol) :
    Except Fault (Number × List Symbol) :=
  match exponentLetter? s with
  | some rest => exponentPart negative n e rest
  | none => floatOf negative n e s

/-- Reads the digits behind the point. -/
def fractionPart (negative : Bool) (n : Nat) (e : Int) (s : List Symbol) :
    Except Fault (Number × List Symbol) := do
  let (ds, rest) ← digitRun s
  if ds.isEmpty then
    failPast (if rest.isEmpty then .endOfValue else .badNumber) rest
  else
    let (n, left) := absorb n ds
    withExponent negative n (e - (ds.length - left.length : Nat)) rest

/-- A whole number as it is kept: as a float if its negation does not fit, or if it is `-0`. -/
def wholeNumber (negative : Bool) (n : Nat) : Number :=
  if negative then
    if n = 0 ∨ twoPow 63 < n then .float (.ofFloat (-(Float.ofNat n))) else .whole (-(n : Int))
  else .whole n

/-- Reads what stands behind the whole digits of a number. -/
def numberTail (negative : Bool) (n : Nat) (dropped : Nat) (s : List Symbol) :
    Except Fault (Number × List Symbol) :=
  match s with
  | .char '.' :: s => fractionPart negative n dropped s
  | s =>
    match exponentLetter? s with
    | some rest => exponentPart negative n dropped rest
    | none =>
      if dropped = 0 then .ok (wholeNumber negative n, s) else floatOf negative n dropped s

/-- Reads a number behind its sign. -/
def numberBody (negative : Bool) : Reader Number
  | [] => failAt .endOfValue []
  | c :: s =>
    match digit? c with
    | none => failAt .badNumber s
    | some 0 =>
      if (s.head?.bind digit?).isSome then failPast .badNumber s else numberTail negative 0 0 s
    | some d => do
      let (ds, rest) ← digitRun s
      let (n, left) := absorb d ds
      numberTail negative n left.length rest

end SourceRegistry.Json
