import SourceRegistry.Json.Scan

/-!
# Skipped values

A member that nobody asks for is passed over. Its brackets, words and commas are checked, its
numbers only for their form, its strings neither for surrogates nor for stray bytes, and it may
be nested to any depth: the open brackets are kept on a stack.
-/

namespace SourceRegistry.Json

open Text (Symbol)

inductive SkipMode where
  | plain
  | escape
  | digits (left : Nat)
  deriving DecidableEq, Repr

/-- The rest behind a string, from inside of it. -/
def skipStringRest : SkipMode → List Symbol → Except Fault (List Symbol)
  | _, [] => failAt .endOfString []
  | .plain, c :: s =>
    match c with
    | .char '\x22' => .ok s
    | .char '\\' => skipStringRest .escape s
    | .char d =>
      if d.toNat < 0x20 then failAt .controlCharacter (c :: s) else skipStringRest .plain s
    | .stray _ => skipStringRest .plain s
  | .escape, c :: s =>
    if (simpleEscape? c).isSome then skipStringRest .plain s
    else if c = .char 'u' then
      if hasFourBytes s then skipStringRest (.digits 4) s else failAt .endOfString []
    else failAt .badEscape s
  | .digits left, c :: s =>
    if (hexValue? c).isNone then failAt .badEscape s
    else skipStringRest (if 1 < left then .digits (left - 1) else .plain) s

def skipString : List Symbol → Except Fault (List Symbol) := skipStringRest .plain

def skipDigits (s : List Symbol) : List Symbol := s.dropWhile fun c => (digit? c).isSome

def startsWithDigit (s : List Symbol) : Bool := (s.head?.bind digit?).isSome

def skipExponent (s : List Symbol) : Except Fault (List Symbol) :=
  let (_, s) := exponentSign s
  if startsWithDigit s then .ok (skipDigits s) else failAt .badNumber (s.drop 1)

def skipNumberTail (s : List Symbol) : Except Fault (List Symbol) :=
  match exponentLetter? s with
  | some rest => skipExponent rest
  | none => .ok s

/-- The rest behind a number, from behind its sign. -/
def skipNumber (s : List Symbol) : Except Fault (List Symbol) := do
  let s ←
    match s with
    | .char '0' :: s => if startsWithDigit s then failPast .badNumber s else .ok s
    | s => if startsWithDigit s then .ok (skipDigits s) else failAt .badNumber (s.drop 1)
  match s with
  | .char '.' :: s =>
    if startsWithDigit s then skipNumberTail (skipDigits s) else failPast .badNumber s
  | s => skipNumberTail s

inductive Bracket where
  | list
  | object
  deriving DecidableEq, Repr

namespace Bracket

def opening? (c : Symbol) : Option Bracket :=
  match c with
  | .char '[' => some .list
  | .char '{' => some .object
  | _ => none

def closing : Bracket → Symbol
  | .list => .char ']'
  | .object => .char '}'

def endCause : Bracket → Cause
  | .list => .endOfList
  | .object => .endOfObject

def commaCause : Bracket → Cause
  | .list => .noListComma
  | .object => .noObjectComma

end Bracket

/-- The rest behind a value that holds no others, or none if the value opens a bracket. -/
def skipLeaf? (c : Symbol) (s : List Symbol) : Except Fault (Option (List Symbol)) :=
  match c with
  | .char 'n' => some <$> word ['u', 'l', 'l'] s
  | .char 't' => some <$> word ['r', 'u', 'e'] s
  | .char 'f' => some <$> word ['a', 'l', 's', 'e'] s
  | .char '-' => some <$> skipNumber s
  | .char '\x22' => some <$> skipString s
  | _ =>
    if (digit? c).isSome then some <$> skipNumber (c :: s)
    else if (Bracket.opening? c).isSome then .ok none
    else failPast .noValue (c :: s)

/-- The rest behind the name and the colon of a member. -/
def skipName (s : List Symbol) : Except Fault (List Symbol) := do
  match skipBlanks s with
  | [] => failPast .endOfObject []
  | .char '\x22' :: s =>
    match skipBlanks (← skipString s) with
    | [] => failPast .endOfObject []
    | .char ':' :: s => .ok s
    | s => failPast .noColon s
  | s => failPast .keyNotString s

/-- Where the reader stands inside the open brackets: in front of a value, behind one, or behind
an opening bracket. -/
inductive SkipPoint where
  | value
  | behind
  | opened
  deriving DecidableEq, Repr

/-- Passes over what is left of a value and of the brackets around it; `fuel` bounds the
symbols. -/
def skipLoop : Nat → List Bracket → SkipPoint → List Symbol → Except Fault (List Symbol)
  | 0, _, _, s => failPast .endOfValue s
  | fuel + 1, open_, .value, s =>
    match skipBlanks s with
    | [] => failPast .endOfValue []
    | c :: rest => do
      match ← skipLeaf? c rest with
      | some rest => skipLoop fuel open_ .behind rest
      | none =>
        match Bracket.opening? c with
        | some b => skipLoop fuel (b :: open_) .opened rest
        | none => failPast .noValue (c :: rest)
  | _ + 1, [], _, s => .ok s
  | fuel + 1, b :: open_, point, s =>
    match skipBlanks s with
    | [] => failPast b.endCause []
    | c :: rest =>
      if c = b.closing then skipLoop fuel open_ .behind rest
      else if point = .behind ∧ c ≠ .char ',' then failPast b.commaCause (c :: rest)
      else do
        let s := if point = .behind then rest else c :: rest
        let s ← if b = .object then skipName s else .ok s
        skipLoop fuel (b :: open_) .value s

/-- The rest behind a value. -/
def skip (s : List Symbol) : Except Fault (List Symbol) := skipLoop (2 * s.length + 2) [] .value s

end SourceRegistry.Json
