import SourceRegistry.Settings.Format.Yaml.Cursor
import SourceRegistry.Text.Hex

/-!
# Scalars in YAML

The texts of scalars. A scalar of one word after the other, plain or in quotes, may run over
several lines: a single line break is a space, and of several the first does not count. A block is
made of whole lines that are indented, which are kept as they are or folded in the same way.
-/

namespace SourceRegistry.Yaml

/-- Reads a scalar, if it has the right form. -/
abbrev ScalarReader := Cursor → Option (List Char × Cursor)

/-- What stands between two words: spaces on one line, or line breaks. -/
structure Gap where
  spaces : List Char := []
  /-- Whether a line has ended, so that what follows are blanks in front of another. -/
  isBroken : Bool := false
  /-- Whether the end of the line counts. -/
  isFolded : Bool := false
  /-- The number of empty lines. -/
  empty : Nat := 0
  deriving DecidableEq, Repr

namespace Gap

/-- The text of a gap. -/
def text (g : Gap) : List Char :=
  if !g.isBroken then g.spaces
  else if g.isFolded && g.empty = 0 then [' ']
  else List.replicate g.empty '\n'

/-- Reads a gap up to the next word. Tabs count as indentation of the lines in it: with `strict`
they may not stand there, and without only on lines with nothing else. -/
def read (strict : Bool) (indent : Int) : Nat → Gap → Cursor → Option (Gap × Cursor)
  | 0, _, _ => none
  | fuel + 1, g, c =>
    if isBlank c.head then
      if !g.isBroken then
        read strict indent fuel { g with spaces := g.spaces ++ [c.head] } (c.skipBlanks 1)
      else if c.head = '\t' ∧ c.column < indent then
        if strict then none
        else do
          let (c, _) ← c.lineEnd?
          if endsLine c.head then read strict indent fuel g c else none
      else read strict indent fuel g (c.skipBlanks 1)
    else if isBreak c.head then
      if g.isBroken then read strict indent fuel { g with empty := g.empty + 1 } c.skipBreak
      else read strict indent fuel { isBroken := true, isFolded := true } c.skipBreak
    else some (g, c)

end Gap

/-- Whether a word without quotes goes on. -/
def isPlainAt (inFlow : Bool) (c d : Char) : Bool :=
  !endsWord c && !(c = ':' && (endsWord d || (inFlow && isFlowMark d)))
    && !(inFlow && isFlowMark c)

/-- A word without quotes. -/
def plainWord (inFlow : Bool) : List Char → List Char
  | [] => []
  | c :: cs =>
    if isPlainAt inFlow c (cs.head?.getD '\x00') then c :: plainWord inFlow cs else []

/-- The words of a plain scalar behind the text `before` and a gap. -/
def plainLoop (inFlow : Bool) (indent : Int) : Nat → List Char → Gap → ScalarReader
  | 0, _, _, _ => none
  | fuel + 1, before, g, c =>
    if c.isAtDocument || c.head = '#' then some (before, c)
    else if inFlow && c.head = '-' && isFlowMark (c.peek 1) then none
    else do
      let word := plainWord inFlow c.rest
      let c := c.skip word.length
      let before := if word.isEmpty then before else before ++ g.text ++ word
      let (g, next) ← Gap.read false indent (c.rest.length + 1) (if word.isEmpty then g else {}) c
      if next.index = c.index ∨ (!inFlow ∧ next.column < indent) then some (before, next)
      else plainLoop inFlow indent fuel before g next

/-- A plain scalar, the lines of which are indented by `indent` outside of brackets. -/
def plain (inFlow : Bool) (indent : Int) : ScalarReader := fun c =>
  plainLoop inFlow indent (c.rest.length + 1) [] {} c

/-- The characters that stand for one character behind a backslash. -/
def escapes : List (Char × Char) :=
  [('0', '\x00'), ('a', '\x07'), ('b', '\x08'), ('t', '\t'), ('\t', '\t'), ('n', '\n'),
   ('v', '\x0b'), ('f', '\x0c'), ('r', '\r'), ('e', '\x1b'), (' ', ' '), ('\x22', '\x22'),
   ('/', '/'), ('\\', '\\'), ('N', '\u0085'), ('_', '\u00A0'), ('L', '\u2028'), ('P', '\u2029')]

/-- The characters behind a backslash that stand for numbers, with how many digits these have. -/
def numberEscapes : List (Char × Nat) := [('x', 2), ('u', 4), ('U', 8)]

/-- The character of an escape, with the number of characters behind the backslash. -/
def escape? (cs : List Char) : Option (Char × Nat) := do
  let c ← cs.head?
  match escapes.lookup c with
  | some d => some (d, 1)
  | none =>
    let width ← numberEscapes.lookup c
    let ds ← (((cs.drop 1).take width).mapM Text.hexValue?)
    let n := ds.foldl (fun n d => 16 * n + d) 0
    if ds.length = width ∧ n.isValidChar then some (Char.ofNat n, 1 + width) else none

/-- The characters of a word in quotes, and whether a backslash ends the line behind them. -/
def quotedWord (quote : Char) : Nat → List Char → Cursor → Option (List Char × Bool × Cursor)
  | 0, _, _ => none
  | fuel + 1, before, c =>
    if endsWord c.head then some (before, false, c)
    else if c.head = quote then
      if quote = '\x27' ∧ c.peek 1 = quote then
        quotedWord quote fuel (before ++ [quote]) (c.skip 2)
      else some (before, false, c)
    else if quote = '\x22' ∧ c.head = '\\' then
      if isBreak (c.peek 1) then some (before, true, (c.skip 1).skipBreak)
      else do
        let (d, n) ← escape? (c.rest.drop 1)
        quotedWord quote fuel (before ++ [d]) (c.skip (n + 1))
    else quotedWord quote fuel (before ++ [c.head]) (c.skip 1)

/-- The words of a scalar in quotes behind the text `before`. -/
def quotedLoop (quote : Char) (indent : Int) : Nat → List Char → ScalarReader
  | 0, _, _ => none
  | fuel + 1, before, c => do
    if c.isAtDocument ∨ c.isAtEnd ∨ c.column < indent then none
    let (before, isContinued, c) ← quotedWord quote (c.rest.length + 1) before c
    if c.head = quote then some (before, c.skip 1)
    else
      let (g, c) ← Gap.read true indent (c.rest.length + 1) { isBroken := isContinued } c
      quotedLoop quote indent fuel (before ++ g.text) c

/-- A scalar in quotes, the lines of which are indented by `indent`. -/
def quoted (indent : Int) : ScalarReader := fun c =>
  quotedLoop c.head indent (c.rest.length + 1) [] (c.skip 1)

/-- What becomes of the line breaks at the end of a block: one is left of them, none or all. -/
inductive Chomping where
  | clip
  | strip
  | keep
  deriving DecidableEq, Repr

def Chomping.ofChar? : Char → Option Chomping
  | '-' => some .strip
  | '+' => some .keep
  | _ => none

/-- The marks behind the one of a block: its chomping and its indentation, in any order. -/
def blockHeader? (c : Cursor) : Option (Chomping × Nat × Cursor) :=
  let digit (c : Cursor) : Nat × Cursor :=
    if c.head.isDigit then (c.head.toNat - 48, c.skip 1) else (0, c)
  let chomping (c : Cursor) : Chomping × Cursor :=
    match Chomping.ofChar? c.head with
    | some chomping => (chomping, c.skip 1)
    | none => (.clip, c)
  if c.head.isDigit then
    let (n, c) := digit c
    let (chomping, c) := chomping c
    if n = 0 then none else some (chomping, n, c)
  else
    let (mode, next) := chomping c
    if mode ≠ .clip ∧ next.head = '0' then none
    else
      let (n, next) := if mode = .clip then (0, next) else digit next
      some (mode, n, next)

/-- Drops empty lines and the indentation of the next one, of no more than `limit` columns if one
is given. The result has the number of lines and the widest indentation. -/
def blockIndent (limit : Option Nat) : Nat → Nat → Nat → Cursor → Nat × Nat × Cursor
  | 0, lines, widest, c => (lines, widest, c)
  | fuel + 1, lines, widest, c =>
    let spaces := (c.rest.takeWhile (· = ' ')).length
    let c := c.skipBlanks (match limit with
      | some n => min spaces (n - c.column)
      | none => spaces)
    let widest := max widest c.column
    if isBreak c.head then blockIndent limit fuel (lines + 1) widest c.skipBreak
    else (lines, widest, c)

/-- The lines of a block that has been read so far. -/
structure Block where
  text : List Char := []
  /-- Whether there is a line that has ended. -/
  isEnded : Bool := false
  /-- Whether the last line starts with a blank. -/
  isSpaced : Bool := false
  /-- The number of empty lines behind it. -/
  empty : Nat := 0
  deriving DecidableEq, Repr

/-- The text of a block up to its next line, which is folded unless one of the lines starts with a
blank. -/
def Block.joined (b : Block) (literal isSpaced : Bool) : List Char :=
  if !literal && b.isEnded && !b.isSpaced && !isSpaced then
    b.text ++ (if b.empty = 0 then [' '] else List.replicate b.empty '\n')
  else b.text ++ List.replicate (b.empty + if b.isEnded then 1 else 0) '\n'

/-- The lines of a block that are indented by `indent`. -/
def blockLines (literal : Bool) (indent : Nat) : Nat → Block → Cursor → Block × Cursor
  | 0, b, c => (b, c)
  | fuel + 1, b, c =>
    if c.column ≠ indent ∨ c.isAtEnd then (b, c)
    else
      let isSpaced := isBlank c.head
      let line := c.rest.takeWhile fun d => !endsLine d
      let text := b.joined literal isSpaced ++ line
      let c := c.skipBlanks line.length
      if c.isAtEnd then (⟨text, false, isSpaced, 0⟩, c)
      else
        let (lines, _, c) := blockIndent (some indent) (c.rest.length + 1) 0 0 c.skipBreak
        blockLines literal indent fuel ⟨text, true, isSpaced, lines⟩ c

/-- A block at its mark, inside of what is indented by `outer`. -/
def block (outer : Int) : ScalarReader := fun c => do
  let start := c
  let literal : Bool := c.head = '|'
  let (chomping, increment, c) ← blockHeader? (c.skip 1)
  let (c, _) ← c.lineEnd?
  if !endsLine c.head then none
  let c := c.skipBreak
  if c.head = '\t' then none
  let given : Option Nat :=
    if increment = 0 then none else some ((max outer 0).toNat + increment)
  let (lines, widest, c) := blockIndent given (c.rest.length + 1) 0 0 c
  let indent := given.getD (max widest (outer + 1).toNat)
  if c.isAtEnd then
    let breaks := if chomping = .strip ∨ c.line = start.line then 0
      else if chomping = .keep then max lines 1
      else 1
    some (List.replicate breaks '\n', c)
  else if c.column < indent ∧ outer < c.column then none
  else
    let (b, c) := blockLines literal indent (c.rest.length + 1) { empty := lines } c
    let last := if b.isEnded then 1 else 0
    let cut := if c.isAtEnd ∧ max indent 1 ≤ c.column then 1 else 0
    let breaks := match chomping with
      | .strip => 0
      | .clip => last + cut
      | .keep => last + cut + b.empty
    some (b.text ++ List.replicate breaks '\n', c)

end SourceRegistry.Yaml
