import SourceRegistry.Json.Skip

/-!
# Reading values

Lists and objects are read by the steps between their parts: `nextItem` and `nextName` look for
another part, `endItems` and `endMembers` for the closing bracket. `value` reads any value whose
nesting does not exceed the given depth.
-/

namespace SourceRegistry.Json

open Text (Symbol)

/-- The number of brackets that may be open at once. -/
def depthLimit : Nat := 127

/-- Whether a list has another item; `first` behind the opening bracket. -/
def nextItem (first : Bool) : Reader Bool := fun s =>
  match skipBlanks s with
  | [] => failPast .endOfList []
  | .char ']' :: rest => .ok (false, .char ']' :: rest)
  | c :: rest =>
    if first then .ok (true, c :: rest)
    else if c = .char ',' then
      match skipBlanks rest with
      | [] => failPast .endOfValue []
      | .char ']' :: rest => failPast .trailingComma (.char ']' :: rest)
      | s => .ok (true, s)
    else failPast .noListComma (c :: rest)

/-- The name of the next member of an object, if there is one. -/
def nextName (first : Bool) : Reader (Option String) := fun s => do
  match skipBlanks s with
  | [] => failPast .endOfObject []
  | .char '}' :: rest => .ok (none, .char '}' :: rest)
  | c :: rest =>
    if first then
      if c = .char '\x22' then name rest else failPast .keyNotString (c :: rest)
    else if c = .char ',' then
      match skipBlanks rest with
      | [] => failPast .endOfValue []
      | .char '\x22' :: rest => name rest
      | .char '}' :: rest => failPast .trailingComma (.char '}' :: rest)
      | s => failPast .keyNotString s
    else failPast .noObjectComma (c :: rest)
where
  name (s : List Symbol) : Except Fault (Option String × List Symbol) := do
    let (name, s) ← stringBody s
    .ok (some name, s)

/-- The rest behind the colon of a member. -/
def colon (s : List Symbol) : Except Fault (List Symbol) :=
  match skipBlanks s with
  | [] => failPast .endOfObject []
  | .char ':' :: rest => .ok rest
  | s => failPast .noColon s

def endItems (s : List Symbol) : Except Fault (List Symbol) :=
  match skipBlanks s with
  | [] => failPast .endOfList []
  | .char ']' :: rest => .ok rest
  | .char ',' :: rest =>
    match skipBlanks rest with
    | .char ']' :: rest => failPast .trailingComma (.char ']' :: rest)
    | s => failPast .trailingCharacters s
  | s => failPast .trailingCharacters s

def endMembers (s : List Symbol) : Except Fault (List Symbol) :=
  match skipBlanks s with
  | [] => failPast .endOfObject []
  | .char '}' :: rest => .ok rest
  | .char ',' :: rest => failPast .trailingComma (.char ',' :: rest)
  | s => failPast .trailingCharacters s

/-- Adds a step to the path of a fault. -/
def under (step : Step) : Except Fault α → Except Fault α := Except.mapError (·.within step)

/-- The items up to the closing bracket, the `index`-th first; `fuel` bounds their number. -/
def itemLoop (item : Reader α) : Nat → Nat → List α → Reader (List α)
  | 0, _, _, s => failPast .endOfList s
  | fuel + 1, index, before, s => do
    let (more, s) ← nextItem (index == 0) s
    if more then
      let (x, s) ← under (.item index) (item s)
      itemLoop item fuel (index + 1) (x :: before) s
    else .ok (before.reverse, s)

/-- The items behind an opening bracket. -/
def items (item : Reader α) : Reader (List α) := fun s => do
  let (l, s) ← itemLoop item (s.length + 1) 0 [] s
  .ok (l, ← endItems s)

/-- A value behind a member's name. -/
def memberValue (name : String) (value : Reader α) : Reader α := fun s =>
  under (.member name) do value (← colon s)

/-- The members up to the closing bracket, each folded into the state of those before it. -/
def memberLoop (member : String → σ → Reader σ) : Nat → Bool → σ → Reader σ
  | 0, _, _, s => failPast .endOfObject s
  | fuel + 1, first, state, s => do
    match ← under .unknown (nextName first s) with
    | (none, s) => .ok (state, s)
    | (some name, s) =>
      let (state, s) ← member name state s
      memberLoop member fuel false state s

/-- The members behind an opening bracket. -/
def members (member : String → σ → Reader σ) (state : σ) : Reader σ := fun s =>
  memberLoop member (s.length + 1) true state s

/-- The members as ascending pairs, the last of a name only. -/
def pairs (value : Reader α) : Reader (List (String × α)) := fun s => do
  let (ms, s) ← members
    (fun name ms s => do
      let (v, s) ← memberValue name value s
      .ok (Members.put name v ms, s)) [] s
  .ok (ms, ← endMembers s)

/-- What a text starts with. -/
inductive Opening where
  | null
  | true
  | false
  | number (negative : Bool)
  | string
  | list
  | object
  deriving DecidableEq, Repr

/-- The kind of the value that starts a text without blanks, and the rest to read for it. -/
def opening (c : Symbol) (s : List Symbol) : Option (Opening × List Symbol) :=
  match c with
  | .char 'n' => some (.null, s)
  | .char 't' => some (.true, s)
  | .char 'f' => some (.false, s)
  | .char '-' => some (.number true, s)
  | .char '\x22' => some (.string, s)
  | .char '[' => some (.list, s)
  | .char '{' => some (.object, s)
  | _ => if (digit? c).isSome then some (.number false, c :: s) else none

/-- Looks at the kind of the next value. -/
def peek : Reader Opening := fun s =>
  match skipBlanks s with
  | [] => failPast .endOfValue []
  | c :: s =>
    match opening c s with
    | some r => .ok r
    | none => failPast .noValue (c :: s)

def value : Nat → Reader Json := fun depth s => do
  match ← peek s with
  | (.null, s) => .ok (.null, ← word ['u', 'l', 'l'] s)
  | (.true, s) => .ok (.bool true, ← word ['r', 'u', 'e'] s)
  | (.false, s) => .ok (.bool false, ← word ['a', 'l', 's', 'e'] s)
  | (.number negative, s) =>
    let (n, s) ← numberBody negative s
    .ok (.number n, s)
  | (.string, s) =>
    let (t, s) ← stringBody s
    .ok (.string t, s)
  | (.list, s) =>
    match depth with
    | 0 => failAt .tooDeep s
    | depth + 1 =>
      let (l, s) ← items (value depth) s
      .ok (.array l, s)
  | (.object, s) =>
    match depth with
    | 0 => failAt .tooDeep s
    | depth + 1 =>
      let (ms, s) ← pairs (value depth) s
      .ok (.object ms, s)

/-- Reads a text that must hold nothing else. -/
def readAll (read : Reader α) (s : List Symbol) : Except Fault α := do
  let (x, s) ← read s
  match skipBlanks s with
  | [] => .ok x
  | s => failPast .trailingCharacters s

/-- Reads a value from a whole text. -/
def parse (s : String) : Except Fault Json := readAll (value depthLimit) (Text.symbols s)

end SourceRegistry.Json
