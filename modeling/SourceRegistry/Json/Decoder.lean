import SourceRegistry.Json.Reader

/-!
# Decoding values of a known form

A `Decoder` reads a value of one type from a text and refuses all others at the place where they
show. It is given the number of brackets that may still be opened.
-/

namespace SourceRegistry.Json

open Text (Symbol)

abbrev Decoder (α : Type) := Nat → Reader α

/-- A mismatch found in front of the rest `s`. -/
def mismatch (m : Mismatch) (s : List Symbol) : Except Fault α := failAt (.mismatch m) s

/-- Refuses the value that starts like `o` because something else is expected. -/
def refuse (expected : String) (o : Opening) (s : List Symbol) : Except Fault α := do
  match o with
  | .null => let s ← word ['u', 'l', 'l'] s; mismatch (.type .null expected) s
  | .true => let s ← word ['r', 'u', 'e'] s; mismatch (.type (.bool true) expected) s
  | .false => let s ← word ['a', 'l', 's', 'e'] s; mismatch (.type (.bool false) expected) s
  | .number negative =>
    let (n, s) ← numberBody negative s
    mismatch (.type (.number n) expected) s
  | .string => let (t, s) ← stringBody s; mismatch (.type (.string t) expected) s
  | .list => failAt (.mismatch (.type .sequence expected)) (.char '[' :: s)
  | .object => failAt (.mismatch (.type .map expected)) (.char '{' :: s)

namespace Decoder

/-- A string that `parse` accepts. -/
def parsed (expected : String) (parse : String → Except String α) : Decoder α := fun _ s => do
  match ← peek s with
  | (.string, s) =>
    let (t, s) ← stringBody s
    match parse t with
    | .ok x => .ok (x, s)
    | .error reason => mismatch (.refused reason) s
  | (o, s) => refuse expected o s

def string : Decoder String := parsed "a string" .ok

def bool : Decoder Bool := fun _ s => do
  match ← peek s with
  | (.true, s) => .ok (true, ← word ['r', 'u', 'e'] s)
  | (.false, s) => .ok (false, ← word ['a', 'l', 's', 'e'] s)
  | (o, s) => refuse "a boolean" o s

/-- A whole number below `2 ^ bits`. -/
def unsigned (expected : String) (bits : Nat) : Decoder Nat := fun _ s => do
  match ← peek s with
  | (.number negative, s) =>
    let (n, s) ← numberBody negative s
    match n with
    | .whole (.ofNat k) =>
      if Word.fits bits k then .ok (k, s) else mismatch (.value (.number n) expected) s
    | .whole (.negSucc _) => mismatch (.value (.number n) expected) s
    | .float _ => mismatch (.type (.number n) expected) s
  | (o, s) => refuse expected o s

/-- Reads a value for a member of a state. -/
def setting (d : Decoder α) (set : α → σ → σ) : Decoder (σ → σ) := fun depth s => do
  let (x, s) ← d depth s
  .ok (set x, s)

def any : Decoder Json := value

/-- A value or `null`. -/
def nullable (d : Decoder α) : Decoder (Option α) := fun depth s => do
  match skipBlanks s with
  | .char 'n' :: s => .ok (none, ← word ['u', 'l', 'l'] s)
  | s =>
    let (x, s) ← d depth s
    .ok (some x, s)

/-- Opens a bracket, if that is still allowed. -/
def nested (depth : Nat) (s : List Symbol) (read : Nat → Except Fault α) : Except Fault α :=
  match depth with
  | 0 => failAt .tooDeep s
  | depth + 1 => read depth

def list (d : Decoder α) : Decoder (List α) := fun depth s => do
  match ← peek s with
  | (.list, s) => nested depth s fun depth => items (d depth) s
  | (o, s) => refuse "a sequence" o s

/-- An object of any members with values of one form. -/
def map (d : Decoder α) : Decoder (List (String × α)) := fun depth s => do
  match ← peek s with
  | (.object, s) => nested depth s fun depth => pairs (d depth) s
  | (o, s) => refuse "a map" o s

end Decoder

/-- A member of a record in the making: how it is read into the state, whether the state has it,
and whether a list of the record's members may end before it. -/
structure Member (σ : Type) where
  name : String
  isGiven : σ → Bool
  read : Decoder (σ → σ)
  isOptional : Bool

/-- A record is read into a state, which is complete or lacks a member. -/
structure RecordForm (σ α : Type) where
  title : String
  members : List (Member σ)
  start : σ
  finish : σ → Except Mismatch α

namespace RecordForm

/-- What a list of the members is expected to be. -/
def listTitle (form : RecordForm σ α) : String :=
  let n := form.members.length
  form.title ++ " with " ++ toString n ++ if n = 1 then " element" else " elements"

/-- Reads one member, known or not. -/
def member (form : RecordForm σ α) (depth : Nat) (name : String) (state : σ) : Reader σ := fun s =>
  match form.members.find? (·.name == name) with
  | none => do
    let (_, s) ← memberValue name (fun s => do .ok ((), ← skip s)) s
    .ok (state, s)
  | some m =>
    if m.isGiven state then mismatch (.duplicate name) (skipBlanks s)
    else do
      let (set, s) ← memberValue name (m.read depth) s
      .ok (set state, s)

/-- Reads the members of a list, in their order. -/
def listed (form : RecordForm σ α) (depth : Nat) : List (Member σ) → Nat → σ → Reader σ
  | [], _, state, s => .ok (state, s)
  | m :: ms, index, state, s => do
    let (more, s) ← nextItem (index == 0) s
    if more then
      let (set, s) ← under (.item index) (m.read depth s)
      listed form depth ms (index + 1) (set state) s
    else if m.isOptional then listed form depth ms index state s
    else mismatch (.length index form.listTitle) (← endItems s)

/-- The record of a state, or the first member that it lacks. -/
def complete (form : RecordForm σ α) (state : σ) (s : List Symbol) :
    Except Fault (α × List Symbol) :=
  match form.finish state with
  | .ok x => .ok (x, s)
  | .error m => mismatch m s

/-- A record is an object with its members in any order, or a list of them in their own. -/
def decoder (form : RecordForm σ α) : Decoder α := fun depth s => do
  match ← peek s with
  | (.object, s) =>
    Decoder.nested depth s fun depth => do
      let (state, s) ← Json.members (form.member depth) form.start s
      form.complete state (← endMembers s)
  | (.list, s) =>
    Decoder.nested depth s fun depth => do
      let (state, s) ← form.listed depth form.members 0 form.start s
      form.complete state (← endItems s)
  | (o, s) => refuse form.title o s

end RecordForm

/-- A member of the state that has been given, or the fault of its absence. -/
def given (name : String) : Option α → Except Mismatch α
  | some x => .ok x
  | none => .error (.missing name)

/-- Decodes a whole text. -/
def Decoder.run (d : Decoder α) (s : List Symbol) : Except Fault α := readAll (d depthLimit) s

def Decoder.parse (d : Decoder α) (s : String) : Except Fault α := d.run (Text.symbols s)

end SourceRegistry.Json
