import SourceRegistry.Settings.Format.Yaml.Scalar
import SourceRegistry.Settings.Format.Yaml.Tag

/-!
# Tokens of YAML

A text as a list of tokens, in which indentation has become starts and ends of blocks. Whether a
scalar is the name of an entry turns out behind it only, at a colon: so every place where such a
name can start is kept as a candidate, in front of which a token is put then.
-/

namespace SourceRegistry.Yaml

inductive Token where
  | directive (d : Directive)
  | documentStart
  | documentEnd
  | blockList
  | blockTable
  | blockEnd
  | item
  | flowList
  | flowListEnd
  | flowTable
  | flowTableEnd
  | comma
  | key
  | value
  | anchor (name : String)
  | alias (name : String)
  | tag (t : Tag)
  | scalar (isPlain : Bool) (text : String)
  deriving DecidableEq, Repr

/-- Where a name may have started, with the number of tokens in front of it. -/
structure Candidate where
  isPossible : Bool := false
  /-- Whether there must be a name. -/
  isRequired : Bool := false
  tokens : Nat := 0
  line : Nat := 0
  index : Nat := 0
  column : Nat := 0
  deriving DecidableEq, Repr

/-- An outer indentation, and whether a block ends with the inner one. -/
structure Indent where
  column : Int
  isBlock : Bool
  deriving DecidableEq, Repr

structure Scan where
  cursor : Cursor
  tokens : Array Token := #[]
  /-- Whether the last token is an anchor or a tag at the start of a line. -/
  isMarked : Bool := false
  indent : Int := -1
  outer : List Indent := []
  canStart : Bool := true
  candidate : Candidate := {}
  /-- The candidates outside of the brackets that are open. -/
  outerCandidates : List Candidate := []
  /-- Where a colon stands for a value without white space behind it. -/
  adjacent : Option Nat := none
  /-- Whether the entries of a table between brackets have a start of their own. -/
  hasFlowTable : Bool := false
  /-- Whether a table of one entry has been started inside of a list. -/
  inSingleEntry : Bool := false
  deriving Repr

namespace Scan

/-- The most brackets that can be open. -/
def mostBrackets : Nat := 255

/-- Whether brackets are open. -/
def inFlow (s : Scan) : Bool := !s.outerCandidates.isEmpty

def push (s : Scan) (t : Token) : Scan :=
  { s with tokens := s.tokens.push t, isMarked := false }

/-- Puts a token in front of the last ones. -/
def insert (s : Scan) (place : Nat) (t : Token) : Scan :=
  { s with tokens := s.tokens.insertIdxIfInBounds place t }

def move (s : Scan) (c : Cursor) : Scan := { s with cursor := c }

def allow (s : Scan) (canStart : Bool) : Scan := { s with canStart }

/-- Keeps a candidate at the cursor, if a name can start there. -/
def keep (s : Scan) : Scan :=
  let c := s.cursor
  if s.canStart then
    let isRequired := !s.inFlow && s.indent = c.column && (s.outer.head?.any (·.isBlock))
    { s with candidate := ⟨true, isRequired, s.tokens.size, c.line, c.index, c.column⟩ }
  else s

/-- Drops the candidate, if there need not be a name. -/
def drop? (s : Scan) : Option Scan :=
  if s.candidate.isPossible ∧ s.candidate.isRequired then none
  else some { s with candidate := { s.candidate with isPossible := false } }

/-- The longest name. -/
def longestName : Nat := 1024

/-- Drops a candidate that is too far away: outside of brackets a name is on one line. -/
def dropStale? (s : Scan) : Option Scan :=
  let k := s.candidate
  if k.isPossible && !s.inFlow
      && (k.line < s.cursor.line || k.index + longestName < s.cursor.index) then s.drop?
  else some s

/-- Ends the blocks that are indented by more than some columns. -/
def unrollLoop (column : Int) : List Indent → Scan → Scan
  | [], s => s
  | i :: outer, s =>
    if s.indent ≤ column then s
    else
      let s := { s with indent := i.column, outer }
      unrollLoop column outer (if i.isBlock then s.push .blockEnd else s)

def unroll (s : Scan) (column : Int) : Scan :=
  if s.inFlow then s else unrollLoop column s.outer s

/-- Leaves indentations that belong to no block. -/
def unrollOpen (s : Scan) : Scan :=
  match s.outer.dropWhile (!·.isBlock), (s.outer.takeWhile (!·.isBlock)).getLast? with
  | outer, some last => { s with indent := last.column, outer }
  | _, none => s

/-- Starts a block, if its column is further in; its token goes to a place among the tokens. -/
def roll (s : Scan) (column : Int) (place : Nat) (t : Token) : Scan :=
  if s.inFlow then s
  else
    let s := match s.outer with
      | i :: outer =>
        if s.indent ≤ column ∧ !i.isBlock then { s with indent := i.column, outer } else s
      | [] => s
    if s.indent < column then
      let s := { s with outer := ⟨s.indent, true⟩ :: s.outer, indent := column }
      if place = s.tokens.size then s.push t else s.insert place t
    else s

/-- Indents by one more column what belongs to a block. -/
def rollOne (s : Scan) : Scan :=
  if !s.inFlow && s.outer.head?.any (·.isBlock) then
    { s with outer := ⟨s.indent, false⟩ :: s.outer, indent := s.indent + 1 }
  else s

/-- Moves to the next token; `fuel` bounds the lines. -/
def toToken? : Nat → Scan → Option Scan
  | 0, _ => none
  | fuel + 1, s =>
    let c := s.cursor
    if c.head = '\t' ∧ !s.outer.isEmpty ∧ c.isFresh ∧ c.column < s.indent then do
      let (c, _) ← c.lineEnd?
      if endsLine c.head then toToken? fuel (s.move c) else none
    else if isBlank c.head then toToken? fuel (s.move (c.skipBlanks 1))
    else if isBreak c.head then toToken? fuel ((s.move c.skipBreak).allow (s.canStart || !s.inFlow))
    else if c.head = '#' then toToken? fuel (s.move c.skipLine)
    else some s

def next? (s : Scan) : Option Scan := toToken? (s.cursor.rest.length + 1) s

/-- Moves behind a mark and the blanks and the comment behind it. -/
def behindMark? (s : Scan) : Option Scan := do
  let (c, _) ← (s.cursor.skip 1).lineEnd?
  some (s.move c)

/-! ## Single tokens -/

/-- The start or the end of a document. -/
def document? (s : Scan) (t : Token) : Option Scan := do
  let s ← (s.unroll (-1)).drop?
  some (((s.allow false).move (s.cursor.skip 3)).push t)

def directive? (s : Scan) : Option Scan := do
  let s ← (s.unroll (-1)).drop?
  let (d, c) ← Directive.read s.cursor
  some (((s.allow false).move c).push (.directive d))

/-- An opening bracket. -/
def opening? (s : Scan) (t : Token) : Option Scan := do
  let s := s.keep.rollOne
  if s.outerCandidates.length = mostBrackets then none
  let s := { s with
    outerCandidates := s.candidate :: s.outerCandidates, candidate := {}, canStart := true
    hasFlowTable := s.hasFlowTable || t == Token.flowTable }
  some ((← s.behindMark?).push t)

/-- Ends a table of one entry inside of a list. -/
def endSingleEntry (s : Scan) : Scan :=
  if s.inSingleEntry then
    { s.push .flowTableEnd with inSingleEntry := false, hasFlowTable := false }
  else s

/-- A closing bracket. -/
def closing? (s : Scan) (t : Token) : Option Scan := do
  let s ← s.drop?
  let s := match s.outerCandidates with
    | k :: outer => { s with candidate := k, outerCandidates := outer }
    | [] => s
  let s ← ((s.allow false).endSingleEntry).behindMark?
  let s := if s.inFlow then { s with adjacent := some s.cursor.index } else s
  some (s.push t)

def comma? (s : Scan) : Option Scan := do
  let s ← s.drop?
  let s ← ((s.allow true).endSingleEntry).behindMark?
  some (s.push .comma)

/-- A hyphen in front of an item. -/
def item? (s : Scan) : Option Scan := do
  let start := s.cursor
  if s.inFlow ∨ !s.canStart then none
  if s.isMarked ∧ start.column = 0 ∧ -1 < s.indent then none
  let s := s.roll start.column s.tokens.size .blockList
  let (c, hasTab, _) ← (start.skip 1).lineEnd?
  if hasTab ∧ c.head = '-' ∧ endsWord (c.peek 1) then none
  let s := if isBreak c.head ∨ isFlowMark c.head then s.rollOne else s
  let s ← s.drop?
  some (((s.allow true).move c).push .item)

/-- Drops the spaces, lines and comments behind the mark of a name; `fuel` bounds them. -/
def toName? : Nat → Bool → Scan → Option Scan
  | 0, _, _ => none
  | fuel + 1, isApart, s =>
    let c := s.cursor
    if c.head = ' ' then toName? fuel true (s.move (c.skipBlanks 1))
    else if isBreak c.head then
      toName? fuel true ((s.move c.skipBreak).allow (s.canStart || !s.inFlow))
    else if c.head = '#' then toName? fuel isApart (s.move c.skipLine)
    else if isApart ∧ c.head ≠ '\t' then some s
    else none

/-- A question mark in front of the name of an entry. -/
def key? (s : Scan) : Option Scan := do
  let c := s.cursor
  if !s.inFlow ∧ !s.canStart then none
  let s := if s.inFlow then { s with hasFlowTable := true }
    else s.roll c.column s.tokens.size .blockTable
  let s ← s.drop?
  let s := (s.allow !s.inFlow).move (c.skip 1)
  some ((← toName? (c.rest.length + 1) false s).push .key)

/-- A colon in front of the value of an entry. -/
def value? (s : Scan) : Option Scan := do
  let start := s.cursor
  let k := s.candidate
  let s := { s with inSingleEntry := s.inFlow && !s.hasFlowTable }
  let c := start.skip 1
  let s ← if c.head = '\t' then do
      let (c, _, hasSpace) ← c.lineEnd?
      if !hasSpace ∧ isWordChar c.head then none else some (s.move c)
    else some (s.move c)
  let s ←
    if k.isPossible then do
      let s := s.insert k.tokens .key
      if s.inSingleEntry ∧ k.line < start.line then none
      let s := if s.inSingleEntry then s.insert k.tokens .flowTable else s
      let s := (s.roll k.column k.tokens .blockTable).rollOne
      some { s with candidate := { s.candidate with isPossible := false }, canStart := false }
    else do
      if !s.inFlow ∧ !s.canStart then none
      let s := if s.inSingleEntry then s.push .flowTable else s
      let s := (s.roll start.column s.tokens.size .blockTable).rollOne
      some (s.allow !s.inFlow)
  some (s.push .value)

def isNameChar (c : Char) : Bool :=
  !endsWord c && !isFlowMark c && c ≠ '\uFEFF'

/-- An anchor or an alias. -/
def name? (s : Scan) (token : String → Token) (isMark : Bool) : Option Scan := do
  let start := s.cursor
  let (name, c) := (start.skip 1).takeWhile isNameChar
  if name.isEmpty then none
  let s := ((s.keep.allow false).move c).push (token (String.ofList name))
  some { s with isMarked := isMark && start.column = 0 }

def tag? (s : Scan) : Option Scan := do
  let start := s.cursor
  let (t, c) ← Tag.read s.inFlow start
  let s := ((s.keep.allow false).move c).push (.tag t)
  some { s with isMarked := start.column = 0 }

def block? (s : Scan) : Option Scan := do
  let s := (s.keep.allow true).unrollOpen
  let (text, c) ← Yaml.block s.indent s.cursor
  some ((s.move c).push (.scalar false (String.ofList text)))

/-- A scalar in quotes, behind which only what ends a scalar may stand. -/
def quoted? (s : Scan) : Option Scan := do
  let s := s.keep.allow false
  let (text, c) ← Yaml.quoted s.indent s.cursor
  let (c, _) ← c.lineEnd?
  let isClosed := endsLine c.head
    || (s.inFlow && (c.head = ',' || c.head = '}' || c.head = ']' || c.head = ':'))
    || (!s.inFlow && c.head = ':' && c.line = s.cursor.line)
  if !isClosed then none
  let s ← (s.move c).next?
  some ({ s with adjacent := some s.cursor.index }.push (.scalar false (String.ofList text)))

def plain? (s : Scan) : Option Scan := do
  let s := (s.keep.allow false).unrollOpen
  if s.inFlow ∧ s.cursor.column < s.indent + 1 then none
  let (text, c) ← Yaml.plain s.inFlow (s.indent + 1) s.cursor
  some (((s.move c).allow (s.canStart || c.isFresh)).push (.scalar true (String.ofList text)))

/-- Whether a colon stands for a value. -/
def isValueAt (s : Scan) : Bool :=
  let d := s.cursor.peek 1
  endsWord d || (s.inFlow && (isFlowMark d || s.adjacent = some s.cursor.index))

/-- The token at the cursor. -/
def token? (s : Scan) : Option Scan :=
  let c := s.cursor
  match c.head with
  | '[' => s.opening? .flowList
  | '{' => s.opening? .flowTable
  | ']' => s.closing? .flowListEnd
  | '}' => s.closing? .flowTableEnd
  | ',' => s.comma?
  | '-' => if endsWord (c.peek 1) then s.item? else s.plain?
  | '?' => if endsWord (c.peek 1) then s.key? else s.plain?
  | ':' => if s.isValueAt then s.value? else s.plain?
  | '*' => s.name? .alias false
  | '&' => s.name? .anchor true
  | '!' => s.tag?
  | '|' | '>' => if s.inFlow then s.plain? else s.block?
  | '\x27' | '\x22' => s.quoted?
  | '%' | '@' | '\x60' => none
  | _ => s.plain?

/-- The tokens from the cursor on; `fuel` bounds their number. -/
def tokens? : Nat → Scan → Option (List Token)
  | 0, _ => none
  | fuel + 1, s => do
    let s ← (← s.next?).dropStale?
    let c := s.cursor
    let s := s.unroll c.column
    if c.isAtEnd then
      let isRequired (k : Candidate) : Bool := k.isPossible && k.isRequired
      if (s.candidate :: s.outerCandidates).any isRequired then none
      some (s.unroll (-1)).tokens.toList
    else if c.column = 0 ∧ c.head = '%' then tokens? fuel (← s.directive?)
    else if c.column = 0 ∧ c.isAtMark '-' then tokens? fuel (← s.document? .documentStart)
    else if c.column = 0 ∧ c.isAtMark '.' then
      let s ← s.document? .documentEnd
      let (c, _) ← s.cursor.lineEnd?
      if endsLine c.head then tokens? fuel (s.move c) else none
    else if c.column < s.indent then none
    else tokens? fuel (← s.token?)

end Scan

/-- The tokens of a text. -/
def Token.ofText? (s : String) : Option (List Token) :=
  let c := Cursor.ofText s
  Scan.tokens? (c.rest.length + 1) { cursor := c }

end SourceRegistry.Yaml
