/-!
# Places in a YAML text

A cursor is what is left of a text, with the place where that starts. The end of the text reads
as the character NUL, which no text holds. `Cursor.lineEnd?` and `Cursor.skipBreak` move over
blanks, comments and line breaks; everything else on a line is content.
-/

namespace SourceRegistry.Yaml

def isBreak (c : Char) : Bool := c = '\n' || c = '\r'

def isBlank (c : Char) : Bool := c = ' ' || c = '\t'

/-- Line breaks and the end of the text. -/
def endsLine (c : Char) : Bool := isBreak c || c = '\x00'

/-- What stands behind a word. -/
def endsWord (c : Char) : Bool := isBlank c || endsLine c

/-- The marks of collections between brackets. -/
def isFlowMark (c : Char) : Bool := c = ',' || c = '[' || c = ']' || c = '{' || c = '}'

def isWordChar (c : Char) : Bool := c.isAlphanum || c = '_' || c = '-'

structure Cursor where
  rest : List Char
  index : Nat := 0
  line : Nat := 0
  column : Nat := 0
  /-- Whether only blanks have stood on the line so far. -/
  isFresh : Bool := true
  deriving DecidableEq, Repr

namespace Cursor

/-- The character `n` places further on. -/
def peek (c : Cursor) (n : Nat) : Char := (c.rest[n]?).getD '\x00'

def head (c : Cursor) : Char := c.peek 0

/-- Whether the text ends here. -/
def isAtEnd (c : Cursor) : Bool := c.head = '\x00'

/-- Moves over blanks. -/
def skipBlanks (c : Cursor) (n : Nat) : Cursor :=
  { c with rest := c.rest.drop n, index := c.index + n, column := c.column + n }

/-- Moves over content. -/
def skip (c : Cursor) (n : Nat) : Cursor := { c.skipBlanks n with isFresh := c.isFresh && n = 0 }

/-- Moves over the characters of a kind, which are content. -/
def takeWhile (c : Cursor) (p : Char → Bool) : List Char × Cursor :=
  let cs := c.rest.takeWhile p
  (cs, c.skip cs.length)

/-- Moves over one line break, if there is one. -/
def skipBreak (c : Cursor) : Cursor :=
  let length := if c.head = '\r' ∧ c.peek 1 = '\n' then 2 else if isBreak c.head then 1 else 0
  if length = 0 then c else ⟨c.rest.drop length, c.index + length, c.line + 1, 0, true⟩

/-- Moves over the rest of the line. -/
def skipLine (c : Cursor) : Cursor := (c.takeWhile fun d => !endsLine d).2

/-- Moves over blanks and a comment, for which there must be blanks. The result says whether there
are tabs among the blanks, and whether there are spaces. -/
def lineEnd? (c : Cursor) : Option (Cursor × Bool × Bool) :=
  let blanks := c.rest.takeWhile isBlank
  let c := c.skipBlanks blanks.length
  let found := (blanks.contains '\t', blanks.contains ' ')
  if c.head = '#' then if blanks.isEmpty then none else some (c.skipLine, found)
  else some (c, found)

/-- Whether the text goes on with three characters that stand for the start or the end of a
document. -/
def isAtMark (c : Cursor) (mark : Char) : Bool :=
  c.head = mark && c.peek 1 = mark && c.peek 2 = mark && endsWord (c.peek 3)

/-- Whether a document starts or ends here. -/
def isAtDocument (c : Cursor) : Bool := c.column = 0 && (c.isAtMark '-' || c.isAtMark '.')

end Cursor

/-- The cursor at the start of a text, which is cut where it holds the character NUL. -/
def Cursor.ofText (s : String) : Cursor := { rest := s.toList.takeWhile (· ≠ '\x00') }

end SourceRegistry.Yaml
