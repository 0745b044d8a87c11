import SourceRegistry.Settings.Format.Yaml.Cursor
import SourceRegistry.Text.Hex

/-!
# Tags in YAML

A tag says what a node is. It is written with a handle, which stands for the start of the tag, or
between angle brackets. Directives in front of a document say what handles stand for.
-/

namespace SourceRegistry.Yaml

/-- A tag as it is written, or what a handle stands for with the rest of the tag. -/
structure Tag where
  handle : String
  suffix : String
  deriving DecidableEq, Repr

def isUriChar (c : Char) : Bool :=
  (isWordChar c && c ≠ '_') || "#;/?:@&=+$,_.!~*'()[]%".toList.contains c

def isTagChar (c : Char) : Bool := isUriChar c && !isFlowMark c && c ≠ '!'

/-- A byte behind a percent sign. -/
def byte? (c : Cursor) : Option Nat := do
  if c.head ≠ '%' then none
  some (16 * (← Text.hexValue? (c.peek 1)) + (← Text.hexValue? (c.peek 2)))

/-- The number of bytes that start with a byte. -/
def byteCount? (b : Nat) : Option Nat :=
  if b < 0x80 then some 1
  else if b < 0xC0 then none
  else if b < 0xE0 then some 2
  else if b < 0xF0 then some 3
  else if b < 0xF8 then some 4
  else none

/-- The character behind a number `n` of bytes and `left` more of them. -/
def moreBytes : Nat → Nat → Cursor → Option (Char × Cursor)
  | 0, n, c => if n.isValidChar then some (Char.ofNat n, c) else none
  | left + 1, n, c => do
    let b ← byte? c
    if b < 0x80 ∨ 0xC0 ≤ b then none else moreBytes left (256 * n + b) (c.skip 3)

/-- The character of as many bytes behind percent signs as its first one says. The bytes are taken
for the number of the character as a whole. -/
def escaped? (c : Cursor) : Option (Char × Cursor) := do
  let b ← byte? c
  moreBytes ((← byteCount? b) - 1) b (c.skip 3)

/-- Characters of a kind, some of which are escaped; `fuel` bounds their number. -/
def uriChars (p : Char → Bool) : Nat → List Char → Cursor → Option (List Char × Cursor)
  | 0, _, _ => none
  | fuel + 1, before, c =>
    if !p c.head then some (before, c)
    else if c.head = '%' then do
      let (d, c) ← escaped? c
      uriChars p fuel (before ++ [d]) c
    else uriChars p fuel (before ++ [c.head]) (c.skip 1)

def uriText (p : Char → Bool) (c : Cursor) : Option (String × Cursor) :=
  (uriChars p (c.rest.length + 1) [] c).map fun (cs, c) => (String.ofList cs, c)

/-- A handle: an exclamation mark, a word, and another mark, of which the last two may be
missing. -/
def handle? (c : Cursor) : Option (String × Cursor) := do
  if c.head ≠ '!' then none
  let (word, c) := (c.skip 1).takeWhile isWordChar
  if c.head = '!' then some (String.ofList ('!' :: word ++ ['!']), c.skip 1)
  else some (String.ofList ('!' :: word), c)

/-- Whether a handle has marks on both sides, so that it must have been declared. -/
def isDeclared (handle : String) : Bool := 2 ≤ handle.length && handle.toList.getLast? = some '!'

/-- A tag at its exclamation mark. -/
def Tag.read (inFlow : Bool) (c : Cursor) : Option (Tag × Cursor) := do
  let (tag, c) ←
    if c.peek 1 = '<' then do
      let (suffix, c) ← uriText isUriChar (c.skip 2)
      if c.head ≠ '>' then none
      some (⟨"", suffix⟩, c.skip 1)
    else do
      let (handle, c) ← handle? c
      let (suffix, next) ← uriText isTagChar c
      if isDeclared handle then
        if suffix = "" then none else some (⟨handle, suffix⟩, next)
      else
        let suffix := String.ofList (handle.toList.drop 1) ++ suffix
        some (if suffix = "" then ⟨"", "!"⟩ else ⟨"!", suffix⟩, next)
  if endsWord c.head ∨ (inFlow ∧ isFlowMark c.head) then some (tag, c) else none

/-- What stands in front of a document: its version, or what the handle of tags stands for. -/
inductive Directive where
  | version
  | tag (handle start : String)
  deriving DecidableEq, Repr

def skipSpaces (c : Cursor) : Cursor := c.skipBlanks (c.rest.takeWhile isBlank).length

/-- A number of a version, of no more than nine digits. -/
def versionNumber? (c : Cursor) : Option Cursor :=
  let (ds, c) := c.takeWhile Char.isDigit
  if ds.isEmpty ∨ 9 < ds.length then none else some c

/-- What a handle stands for: the start of a tag. -/
def tagStart? (c : Cursor) : Option (String × Cursor) := do
  if c.head ≠ '!' ∧ !isTagChar c.head then none
  let first := if c.head = '!' then 1 else 0
  let (s, next) ← uriText isUriChar (c.skip first)
  some (if first = 1 then "!" ++ s else s, next)

/-- A directive at its percent sign, with its line. Those that are unknown declare nothing. -/
def Directive.read (c : Cursor) : Option (Directive × Cursor) := do
  let (name, c) := (c.skip 1).takeWhile isWordChar
  if name.isEmpty ∨ !endsWord c.head then none
  let (directive, c) ← match String.ofList name with
    | "YAML" => do
      let c ← versionNumber? (skipSpaces c)
      if c.head ≠ '.' then none
      some (version, ← versionNumber? (c.skip 1))
    | "TAG" => do
      let (handle, c) ← handle? (skipSpaces c)
      if handle ≠ "!" ∧ !isDeclared handle then none
      let (start, c) ← tagStart? (skipSpaces c)
      if !endsWord c.head then none
      some (tag handle start, c)
    | _ => some (tag "" "", c.skipLine)
  let (c, _) ← c.lineEnd?
  if endsLine c.head then some (directive, c.skipBreak) else none

end SourceRegistry.Yaml
