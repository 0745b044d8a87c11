import SourceRegistry.Text.Hex
import SourceRegistry.Trace.Pattern.Basic

/-!
# Reading patterns

A pattern is written with characters that stand for themselves, sets of characters in brackets,
groups in parentheses, choices with bars, repetitions, and flags. There is no way to write how
often something is repeated, since a pattern holds no closing brace.
-/

namespace SourceRegistry.Trace.Pattern

/-- Reads the front of a text, if it has the right form. -/
abbrev Reader (α : Type) := List Char → Option (α × List Char)

/-- How what follows is read. -/
structure Flags where
  ignoresCase : Bool := false
  hasAllLines : Bool := false
  isSwapped : Bool := false
  deriving DecidableEq, Repr

/-- Letters that stand for one character behind a backslash. -/
def escapes : List (Char × Char) :=
  [('n', '\n'), ('r', '\r'), ('t', '\t'), ('f', '\x0c'), ('v', '\x0b'), ('a', '\x07')]

/-- Letters behind a backslash that stand for a character by its number, with the number of its
digits. -/
def numberEscapes : List (Char × Nat) := [('x', 2), ('u', 4), ('U', 8)]

/-- Letters that stand for a class behind a backslash; in upper case they stand for all other
characters. -/
def classEscapes : List (Char × CharClass) :=
  [('d', .digit), ('w', .word), ('s', .space), ('D', .other .digit), ('W', .other .word),
   ('S', .other .space)]

def single (c : Char) : CharClass := .range c c

/-- What a backslash and the text behind it stand for. -/
def escape? : Reader CharClass
  | [] => none
  | c :: cs =>
    match classEscapes.lookup c, escapes.lookup c, numberEscapes.lookup c with
    | some k, _, _ => some (k, cs)
    | _, some d, _ => some (single d, cs)
    | _, _, some width => do
      let ds ← (cs.take width).mapM Text.hexValue?
      let n := ds.foldl (fun n d => 16 * n + d) 0
      if ds.length = width ∧ n.isValidChar then some (single (Char.ofNat n), cs.drop width)
      else none
    | none, none, none =>
      if c.isAlphanum || c = '<' || c = '>' || 0x80 ≤ c.toNat then none else some (single c, cs)

/-- One character of a set, or a class. -/
def member? : Reader CharClass
  | '\\' :: cs => escape? cs
  | '[' :: _ => none
  | c :: d :: cs =>
    if c = d ∧ (c = '&' ∨ c = '-' ∨ c = '~') then none else some (single c, d :: cs)
  | [c] => some (single c, [])
  | [] => none

/-- The members of a set up to its bracket; `fuel` bounds their number. -/
def members : Nat → List CharClass → Reader (List CharClass)
  | 0, _, _ => none
  | fuel + 1, before, cs =>
    match cs, before with
    | ']' :: cs, _ :: _ => some (before.reverse, cs)
    | cs, before => do
      let (k, cs) ← member? cs
      match k, cs with
      | _, '-' :: ']' :: cs => some ((single '-' :: k :: before).reverse, cs)
      | .range a _, '-' :: cs =>
        match ← member? cs with
        | (.range b _, cs) => if a ≤ b then members fuel (.range a b :: before) cs else none
        | _ => none
      | k, cs => members fuel (k :: before) cs

/-- A set behind its bracket. -/
def set (flags : Flags) : Reader Pattern := fun cs =>
  let (isNegated, cs) := match cs with
    | '^' :: cs => (true, cs)
    | cs => (false, cs)
  (members (cs.length + 1) [] cs).map fun (ks, cs) =>
    (.chars ⟨ks, isNegated, flags.ignoresCase⟩, cs)

/-- Changes a flag. -/
def Flags.change? (f : Flags) (value : Bool) : Char → Option Flags
  | 'i' => some { f with ignoresCase := value }
  | 's' => some { f with hasAllLines := value }
  | 'U' => some { f with isSwapped := value }
  | 'u' => some f
  | _ => none

/-- Flags up to a colon or a parenthesis, the latter ones of which may be taken back. -/
def flagChanges (value : Bool) (f : Flags) : Reader Flags
  | [] => none
  | '-' :: cs => if value then flagChanges false f cs else none
  | c :: cs =>
    if c = ':' ∨ c = ')' then some (f, c :: cs)
    else do flagChanges value (← f.change? value c) cs

/-- The rest behind the name of a group. -/
def groupName? (cs : List Char) : Option (List Char) :=
  let name := cs.takeWhile (· ≠ '>')
  let isNameChar (c : Char) : Bool := c = '_' || Text.isAlphanumeric c
  if name.all isNameChar ∧ name ≠ [] ∧ !name.head?.any Char.isDigit then
    match cs.drop name.length with
    | _ :: rest => some rest
    | [] => none
  else none

/-- What follows the parenthesis of a group: its flags, or flags for what is behind it. -/
def groupStart (flags : Flags) : Reader (Flags × Bool)
  | '?' :: 'P' :: '<' :: cs | '?' :: '<' :: cs => (groupName? cs).map ((flags, false), ·)
  | '?' :: cs => do
    match ← flagChanges true flags cs with
    | (f, ':' :: cs) => some ((f, false), cs)
    | (f, _ :: rest) => if cs.head? = some ')' then none else some ((f, true), rest)
    | (_, []) => none
  | cs => some ((flags, false), cs)

/-- A pattern with the repetitions behind it; `fuel` bounds their number. -/
def repeated (flags : Flags) : Nat → Pattern → Reader Pattern
  | 0, _, _ => none
  | fuel + 1, p, cs =>
    let (mark, rest) := (cs.head?, cs.drop 1)
    let (isGreedy, rest) := match rest with
      | '?' :: rest => (flags.isSwapped, rest)
      | rest => (!flags.isSwapped, rest)
    match mark with
    | some '*' => repeated flags fuel (.star isGreedy p) rest
    | some '+' => repeated flags fuel (.seq p (.star isGreedy p)) rest
    | some '?' => repeated flags fuel (if isGreedy then .alt p .empty else .alt .empty p) rest
    | some '{' => none
    | _ => some (p, cs)

/-- A pattern of one character, of a set, or of no characters at all. -/
def atom (flags : Flags) : Reader Pattern
  | [] => none
  | '[' :: cs => set flags cs
  | '\\' :: 'A' :: cs => some (.start, cs)
  | '\\' :: 'z' :: cs => some (.finish, cs)
  | '\\' :: cs => (escape? cs).map fun (k, cs) => (.chars ⟨[k], false, flags.ignoresCase⟩, cs)
  | '.' :: cs =>
    some (.chars ⟨[if flags.hasAllLines then .any else .other (single '\n')], false, false⟩, cs)
  | '^' :: cs => some (.start, cs)
  | '$' :: cs => some (.finish, cs)
  | c :: cs =>
    if "*+?\x7b".toList.contains c then none
    else some (.chars ⟨[single c], false, flags.ignoresCase⟩, cs)

mutual

/-- Choices up to the end of a group; `fuel` bounds the parts. -/
def choices : Nat → Flags → Reader Pattern
  | 0, _, _ => none
  | fuel + 1, flags, cs => do
    let ((p, flags), cs) ← sequence fuel flags .empty cs
    match cs with
    | '|' :: cs =>
      let (q, cs) ← choices fuel flags cs
      some (.alt p q, cs)
    | cs => some (p, cs)

/-- Patterns one behind the other, with the flags that hold at the end of them. -/
def sequence : Nat → Flags → Pattern → Reader (Pattern × Flags)
  | 0, _, _, _ => none
  | fuel + 1, flags, before, cs =>
    match cs with
    | [] => some ((before, flags), [])
    | '(' :: cs => do
      match ← groupStart flags cs with
      | ((inner, true), cs) => sequence fuel inner before cs
      | ((inner, false), cs) =>
        match ← choices fuel inner cs with
        | (p, ')' :: cs) =>
          let (p, cs) ← repeated flags (cs.length + 1) p cs
          sequence fuel flags (.seq before p) cs
        | _ => none
    | c :: rest =>
      if c = '|' ∨ c = ')' then some ((before, flags), c :: rest)
      else do
        let (p, cs) ← atom flags (c :: rest)
        let (p, cs) ← repeated flags (cs.length + 1) p cs
        sequence fuel flags (.seq before p) cs

end

/-- The pattern that a text says. -/
def ofText? (s : String) : Option Pattern :=
  let cs := s.toList
  match choices (2 * cs.length + 2) {} cs with
  | some (p, []) => some p
  | _ => none

end SourceRegistry.Trace.Pattern
