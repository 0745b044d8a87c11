import SourceRegistry.Text.Alphanumeric
import SourceRegistry.Text.NameMark
import SourceRegistry.Text.Space

/-!
# Patterns of texts

A pattern says which texts are meant. It is tried from the start of a text, with its choices in
the order in which they are written, and the first way to match it counts: `accepts` says whether
that takes the whole text.
-/

namespace SourceRegistry.Trace

/-- Characters of a range, or of a kind. -/
inductive CharClass where
  | range (first last : Char)
  | digit
  | word
  | space
  | any
  | other (c : CharClass)
  deriving DecidableEq, Repr

def CharClass.contains : CharClass → Char → Bool
  | .range first last, c => first ≤ c && c ≤ last
  | .digit, c => c.isDigit
  | .word, c => c = '_' || Text.isAlphanumeric c || Text.isNameMark c
  | .space, c => Text.isSpace c
  | .any, _ => true
  | .other k, c => !k.contains c

/-- The characters of some classes, or all others; the case of letters may be left out. -/
structure CharSet where
  classes : List CharClass
  isNegated : Bool := false
  ignoresCase : Bool := false
  deriving DecidableEq, Repr

def CharSet.contains (s : CharSet) (c : Char) : Bool :=
  let has (c : Char) : Bool := s.classes.any (·.contains c)
  (has c || (s.ignoresCase && (has c.toLower || has c.toUpper))) != s.isNegated

inductive Pattern where
  | empty
  | chars (s : CharSet)
  | start
  | finish
  | seq (p q : Pattern)
  | alt (p q : Pattern)
  /-- Any number of times, as often as can be if greedy, and else as seldom. -/
  | star (isGreedy : Bool) (p : Pattern)
  deriving DecidableEq, Repr

namespace Pattern

def size : Pattern → Nat
  | .empty | .chars _ | .start | .finish => 1
  | .seq p q | .alt p q => p.size + q.size + 1
  | .star _ p => p.size + 1

/-- Patterns that are left to match, one behind the other. -/
abbrev Thread := List Pattern

/-- The threads that can go on with a character, best first. Those behind a match are left out. -/
structure Frontier where
  seen : List Thread := []
  ready : List Thread := []
  isMatched : Bool := false

/-- Adds what a thread comes to before its next character; `fuel` bounds the patterns. -/
def Frontier.add (isAtStart isAtEnd : Bool) : Nat → Frontier → Thread → Frontier
  | 0, f, _ => f
  | fuel + 1, f, t =>
    if f.isMatched || f.seen.contains t then f
    else
      let f := { f with seen := t :: f.seen }
      match t with
      | [] => { f with isMatched := true }
      | .empty :: k => add isAtStart isAtEnd fuel f k
      | .chars _ :: _ => { f with ready := f.ready ++ [t] }
      | .start :: k => if isAtStart then add isAtStart isAtEnd fuel f k else f
      | .finish :: k => if isAtEnd then add isAtStart isAtEnd fuel f k else f
      | .seq p q :: k => add isAtStart isAtEnd fuel f (p :: q :: k)
      | .alt p q :: k =>
        add isAtStart isAtEnd fuel (add isAtStart isAtEnd fuel f (p :: k)) (q :: k)
      | .star isGreedy p :: k =>
        let again := p :: .star isGreedy p :: k
        let (first, second) := if isGreedy then (again, k) else (k, again)
        add isAtStart isAtEnd fuel (add isAtStart isAtEnd fuel f first) second

/-- What is left of a thread behind a character that it goes on with. -/
def Thread.step? (c : Char) : Thread → Option Thread
  | .chars s :: k => if s.contains c then some k else none
  | _ => none

/-- Whether the best way to match one of some threads takes the rest of a text. -/
def acceptsFrom (fuel : Nat) : Bool → List Thread → List Char → Bool
  | isAtStart, ts, [] => (ts.foldl (Frontier.add isAtStart true fuel) {}).isMatched
  | isAtStart, ts, c :: cs =>
    let f := ts.foldl (Frontier.add isAtStart false fuel) {}
    acceptsFrom fuel false (f.ready.filterMap (Thread.step? c)) cs

/-- Whether a pattern matches a whole text. -/
def accepts (p : Pattern) (s : String) : Bool :=
  acceptsFrom (4 * p.size + 8) true [[p]] s.toList

end Pattern

end SourceRegistry.Trace
