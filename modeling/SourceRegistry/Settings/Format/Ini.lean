import SourceRegistry.Settings.Scalar
import SourceRegistry.Text.Hex
import SourceRegistry.Text.Space

/-!
# Settings in sections

A document of names with values, and of headers in brackets that open a section for the entries
below them. All values are texts. A comment takes a whole line, a name may run over several
lines, and a value is a quoted piece, if it starts with one, and the rest of its line. Of two
sections with one name the later counts.
-/

namespace SourceRegistry.Ini

abbrev Reader (α : Type) := List Char → Option (α × List Char)

/-- Where inside a piece of text the reader stands. -/
inductive Mode where
  | plain
  | escape
  /-- `left` digits are missing from the number `n`. -/
  | digits (left : Nat) (n : Nat)
  deriving DecidableEq, Repr

/-- The character that a letter behind a backslash stands for, itself in most cases. -/
def escaped (c : Char) : Char :=
  match c with
  | '0' => '\x00'
  | 'a' => '\x07'
  | 'b' => '\x08'
  | 't' => '\t'
  | 'r' => '\r'
  | 'n' => '\n'
  | c => c

/-- The text up to an end, which stays in the rest; unless `isOpen` there must be one. -/
def textUntil (isEnd : Char → Bool) (isOpen : Bool) : Mode → List Char → Reader (List Char)
  | .plain, before, [] => if isOpen then some (before.reverse, []) else none
  | _, _, [] => none
  | .plain, before, c :: cs =>
    if isEnd c then some (before.reverse, c :: cs)
    else if c = '\\' then textUntil isEnd isOpen .escape before cs
    else textUntil isEnd isOpen .plain (c :: before) cs
  | .escape, before, c :: cs =>
    if c = '\n' then textUntil isEnd isOpen .plain before cs
    else if c = 'x' then textUntil isEnd isOpen (.digits 4 0) before cs
    else textUntil isEnd isOpen .plain (escaped c :: before) cs
  | .digits left n, before, c :: cs =>
    match if left = 4 ∧ c = '+' then some 0 else Text.hexValue? c with
    | none => none
    | some d =>
      let n := 16 * n + d
      if 1 < left then textUntil isEnd isOpen (.digits (left - 1) n) before cs
      else if n.isValidChar then textUntil isEnd isOpen .plain (Char.ofNat n :: before) cs
      else none

def isBreak (c : Char) : Bool := c = '\n' || c = '\r'

def isQuote (c : Char) : Bool := c = '\x22' || c = '\x27'

def isEquals (c : Char) : Bool := c = '=' || c = ':'

/-- A value: a quoted piece if it starts with one, and the rest of its line, without the white
space around them. -/
def value : Reader (List Char) := fun cs => do
  let (piece, rest) ← match cs with
    | c :: rest =>
      if isQuote c then do
        let (piece, rest) ← textUntil (· = c) false .plain [] rest
        some (piece, rest.drop 1)
      else some ([], cs)
    | [] => some ([], [])
  let (line, rest) ← textUntil isBreak true .plain [] rest
  some (Text.trimChars (piece ++ line), rest)

/-- Adds a value to a section, or to the entries outside of all. -/
def add (current : Option String) (name value : String) (es : List (String × Setting)) :
    List (String × Setting) :=
  match current with
  | none => Members.put name (.text value) es
  | some s =>
    let inner := ((es.lookup s).getD (.table [])).entries
    Members.put s (.table (Members.put name (.text value) inner)) es

/-- Drops white space; the result says whether what follows is the first of its line. -/
def skipSpace (isFirst : Bool) : List Char → Bool × List Char
  | [] => (isFirst, [])
  | c :: cs => if Text.isSpace c then skipSpace (c = '\n') cs else (isFirst, c :: cs)

def skipBlanks (cs : List Char) : List Char := cs.dropWhile fun c => Text.isSpace c && !isBreak c

def skipLine (cs : List Char) : List Char := (cs.dropWhile (· ≠ '\n')).drop 1

/-- Reads a document inside a section; `fuel` bounds the comments, headers and entries. -/
def document : Nat → Bool → Option String → List (String × Setting) → List Char →
    Option (List (String × Setting))
  | 0, _, _, _, _ => none
  | fuel + 1, isFirst, current, es, cs =>
    match skipSpace isFirst cs with
    | (_, []) => some es
    | (isFirst, c :: cs) =>
      if c = ';' ∨ c = '#' then
        if isFirst then document fuel true current es (skipLine cs) else none
      else if c = '[' then do
        let (s, rest) ← textUntil (· = ']') false .plain [] cs
        let s := String.ofList (Text.trimChars s)
        document fuel false (some s) (Members.put s (.table []) es) (rest.drop 1)
      else do
        let (name, rest) ← textUntil isEquals false .plain [] (c :: cs)
        let name := Text.trimChars name
        if name.isEmpty then none
        let (v, rest) ← value (skipBlanks (rest.drop 1))
        document fuel false current (add current (String.ofList name) (String.ofList v) es) rest

/-- The entries of a document in sections. -/
def read? (s : String) : Option (List (String × Setting)) :=
  let cs := s.toList
  document (cs.length + 1) true none [] cs

end SourceRegistry.Ini
