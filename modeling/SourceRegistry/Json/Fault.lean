import SourceRegistry.Json.Printer
import SourceRegistry.Text.Quoted
import SourceRegistry.Text.Utf8

/-!
# Why a JSON text is refused

A `Fault` is a cause, a place in the text and a path through the value under construction. A
cause is either a departure from the grammar, an end that came too early, or data of the wrong
form.
-/

namespace SourceRegistry.Json

/-- What stood where something else was expected. -/
inductive Found where
  | null
  | bool (b : Bool)
  | number (n : Number)
  | string (s : String)
  | sequence
  | map
  deriving DecidableEq, Repr

/-- Data that is not of the expected form. -/
inductive Mismatch where
  | type (found : Found) (expected : String)
  | value (found : Found) (expected : String)
  | length (n : Nat) (expected : String)
  | missing (field : String)
  | duplicate (field : String)
  | refused (reason : String)
  deriving DecidableEq, Repr

inductive Cause where
  | endOfValue
  | endOfList
  | endOfObject
  | endOfString
  | noValue
  | noIdent
  | noListComma
  | noObjectComma
  | noColon
  | keyNotString
  | trailingComma
  | trailingCharacters
  | badNumber
  | numberOutOfRange
  | badEscape
  | controlCharacter
  | shortSurrogate
  | loneSurrogate
  | badCodePoint
  | tooDeep
  | mismatch (m : Mismatch)
  deriving DecidableEq, Repr

/-- One step from a value to a part of it. -/
inductive Step where
  | item (i : Nat)
  | member (name : String)
  | unknown
  deriving DecidableEq, Repr

structure Fault where
  cause : Cause
  /-- The bytes behind the place of the fault. -/
  left : Nat
  path : List Step
  deriving DecidableEq, Repr

def Found.text : Found → String
  | .null => "null"
  | .bool true => "boolean \x60true\x60"
  | .bool false => "boolean \x60false\x60"
  | .number (.whole n) => "integer \x60" ++ toString n ++ "\x60"
  | .number (.float x) => "floating point \x60" ++ numberStyle.write x ++ "\x60"
  | .string s => "string " ++ Text.quoted s
  | .sequence => "sequence"
  | .map => "map"

def Mismatch.text : Mismatch → String
  | .type found expected => "invalid type: " ++ found.text ++ ", expected " ++ expected
  | .value found expected => "invalid value: " ++ found.text ++ ", expected " ++ expected
  | .length n expected => "invalid length " ++ toString n ++ ", expected " ++ expected
  | .missing field => "missing field \x60" ++ field ++ "\x60"
  | .duplicate field => "duplicate field \x60" ++ field ++ "\x60"
  | .refused reason => reason

def Cause.text : Cause → String
  | .endOfValue => "EOF while parsing a value"
  | .endOfList => "EOF while parsing a list"
  | .endOfObject => "EOF while parsing an object"
  | .endOfString => "EOF while parsing a string"
  | .noValue => "expected value"
  | .noIdent => "expected ident"
  | .noListComma => "expected \x60,\x60 or \x60]\x60"
  | .noObjectComma => "expected \x60,\x60 or \x60\x7d\x60"
  | .noColon => "expected \x60:\x60"
  | .keyNotString => "key must be a string"
  | .trailingComma => "trailing comma"
  | .trailingCharacters => "trailing characters"
  | .badNumber => "invalid number"
  | .numberOutOfRange => "number out of range"
  | .badEscape => "invalid escape"
  | .controlCharacter =>
    "control character (\\u0000-\\u001F) found while parsing a string"
  | .shortSurrogate => "unexpected end of hex escape"
  | .loneSurrogate => "lone leading surrogate in hex escape"
  | .badCodePoint => "invalid unicode code point"
  | .tooDeep => "recursion limit exceeded"
  | .mismatch m => m.text

/-- Whether the text is JSON but not of the expected form. -/
def Cause.isMismatch : Cause → Bool
  | .mismatch _ => true
  | _ => false

/-- Steps to members are joined by points, a step to an item is its index in brackets. -/
def pathText : List Step → String
  | [] => ""
  | step :: rest =>
    rest.foldl (fun text step => text ++ separator step ++ stepText step) (stepText step)
where
  stepText : Step → String
    | .item i => "[" ++ toString i ++ "]"
    | .member name => name
    | .unknown => "?"
  separator : Step → String
    | .item _ => ""
    | _ => "."

/-- The line and the column before which `left` bytes of a text stand. -/
def place (s : List Text.Symbol) (left : Nat) : Nat × Nat :=
  let breaks := s.flatMap fun c => (c == .char '\n') :: List.replicate (c.width - 1) false
  let before := breaks.take (breaks.length - left)
  (before.count true + 1, (before.reverse.takeWhile (!·)).length)

namespace Fault

/-- The fault as seen from one step further outside. -/
def within (step : Step) (f : Fault) : Fault := { f with path := step :: f.path }

/-- The cause behind the path, unless no step of the path is known. -/
def message (f : Fault) : String :=
  if f.path.all (· == .unknown) then f.cause.text else pathText f.path ++ ": " ++ f.cause.text

/-- The message with the place of the fault in the text `s`. -/
def messageIn (s : List Text.Symbol) (f : Fault) : String :=
  let (line, column) := place s f.left
  f.message ++ " at line " ++ toString line ++ " column " ++ toString column

end Fault

end SourceRegistry.Json
