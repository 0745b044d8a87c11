import SourceRegistry.Json.Basic
import SourceRegistry.Text.Lowercase

/-!
# Trees of settings

Settings from several sources meet in one tree of tables and lists. `assign?` puts a value at a
path: tables are merged deeply, everything else is replaced, and whatever is in the way of a path
gives way to a table or a list. The names of values are in lower case.
-/

namespace SourceRegistry

inductive Setting where
  | null
  | bool (b : Bool)
  | int (n : Int)
  | float (x : Binary64)
  | text (s : String)
  | list (items : List Setting)
  | table (entries : List (String × Setting))
  deriving Repr, BEq, Inhabited

namespace Setting

/-- A step of a path: to the entry of a table, or to an item of a list, counted from its end if
negative. -/
inductive Step where
  | key (name : String)
  | index (i : Int)
  deriving DecidableEq, Repr

/-- The entries of a table; anything else has none. -/
def entries : Setting → List (String × Setting)
  | .table es => es
  | _ => []

def items : Setting → List Setting
  | .list l => l
  | _ => []

def entry? (s : Setting) (name : String) : Option Setting := s.entries.lookup name

/-- The table with a value for a name; anything but a table gives way to a new one. -/
def withEntry (s : Setting) (name : String) (v : Setting) : Setting :=
  .table (Members.put name v s.entries)

/-- The most items that a list can be filled up to. -/
def mostItems : Nat := 16777216

/-- The place that an index means in a list of some length; none is in front of it. -/
def place? (i : Int) (length : Nat) : Option Nat :=
  let n : Int := if 0 ≤ i then i else length + i
  if 0 ≤ n ∧ n < mostItems then some n.toNat else none

/-- The list with a value at a place, filled up with nulls as far as it takes. -/
def withItem (s : Setting) (n : Nat) (v : Setting) : Setting :=
  let filled := s.items ++ List.replicate (n + 1 - s.items.length) .null
  .list (filled.set n v)

mutual

/-- Puts a value under a name of a table; a table is merged into what is there. -/
def merge (s : Setting) (name : String) : Setting → Setting
  | .table es =>
    let name := Text.lower name
    s.withEntry name (mergeAll ((s.entry? name).getD (.table [])) es)
  | v => s.withEntry (Text.lower name) v

def mergeAll (s : Setting) : List (String × Setting) → Setting
  | [] => s
  | (name, v) :: rest => mergeAll (merge s name v) rest

end

/-- Puts a value at a path, if its indices mean places. The names on the way are taken as they
are, only the last is in lower case. -/
def assign? (v : Setting) : List Step → Setting → Option Setting
  | [], s => some s
  | [.key name], s => some (s.merge name v)
  | [.index i], s => (place? i s.items.length).map (s.withItem · v)
  | .key name :: path, s =>
    (assign? v path ((s.entry? name).getD .null)).map (s.withEntry name ·)
  | .index i :: path, s => do
    let n ← place? i s.items.length
    some (s.withItem n (← assign? v path ((s.items[n]?).getD .null)))

/-- The characters of a name in a path. -/
def isNameChar (c : Char) : Bool := c.isAlphanum || c = '_' || c = '-' || c = ' '

def isBlank (c : Char) : Bool := c = ' ' || c = '\t'

/-- An index between brackets, which fits a signed word of sixty-four bits. -/
def indexOf? (cs : List Char) : Option Int := do
  let cs := ((cs.dropWhile isBlank).reverse.dropWhile isBlank).reverse
  let (minus, ds) := match cs with
    | '-' :: ds => (true, ds)
    | ds => (false, ds)
  let n : Int := ds.foldl (fun n c => 10 * n + (c.toNat - 48)) (0 : Nat)
  let n := if minus then -n else n
  if ds ≠ [] ∧ ds.all Char.isDigit ∧ Word.fitsSigned 64 n then some n else none

/-- The steps behind the first name of a path; `fuel` bounds their number. -/
def stepsOf? : Nat → List Char → Option (List Step)
  | _, [] => some []
  | 0, _ => none
  | fuel + 1, '.' :: cs =>
    let name := cs.takeWhile isNameChar
    if name.isEmpty then none
    else (stepsOf? fuel (cs.drop name.length)).map (.key (String.ofList name) :: ·)
  | fuel + 1, '[' :: cs =>
    match cs.dropWhile (· ≠ ']') with
    | _ :: rest => do
      let i ← indexOf? (cs.takeWhile (· ≠ ']'))
      some (.index i :: (← stepsOf? fuel rest))
    | [] => none
  | _, _ => none

/-- The path that a name stands for; a name that is no path stands for itself. -/
def pathOf (name : String) : List Step :=
  let cs := name.toList
  let first := cs.takeWhile isNameChar
  if first.isEmpty then [.key name]
  else
    match stepsOf? cs.length (cs.drop first.length) with
    | some steps => .key (String.ofList first) :: steps
    | none => [.key name]

/-- Takes over the named values of a source, if the paths that they are at can be. -/
def assignAll? (source : List (String × Setting)) (s : Setting) : Option Setting :=
  source.foldlM (fun s e => assign? e.2 (pathOf e.1) s) s

end Setting

end SourceRegistry
