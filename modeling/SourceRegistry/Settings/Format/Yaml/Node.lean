import SourceRegistry.Settings.Format.Yaml.Token
import SourceRegistry.Settings.Scalar

/-!
# Nodes of YAML

What a document holds: single values, lists, and tables whose names are nodes too. A plain scalar
is what it looks like unless a tag says otherwise; any other scalar is a text. An alias stands for
the last node with its anchor.
-/

namespace SourceRegistry.Yaml

/-- A node; `bad` is one that is not what its tag says, or that an alias stands for inside of
itself. -/
inductive Node where
  | bad
  | null
  | bool (b : Bool)
  | int (n : Int)
  | real (text : String)
  | text (s : String)
  | list (items : List Node)
  | table (entries : List (Node × Node))
  deriving BEq, Inhabited

/-- The words for numbers that have no digits. -/
def numberWords : List String :=
  [".inf", ".Inf", ".INF", "+.inf", "+.Inf", "+.INF", "-.inf", "-.Inf", "-.INF", ".nan", "NaN",
   ".NAN"]

/-- Whether a text is a number with a fraction or an exponent. -/
def isReal (s : String) : Bool :=
  s ∈ numberWords || (s.toList.any Char.isDigit && (Binary64.ofText? s).isSome)

/-- A whole number in some base behind an optional sign, which fits a signed word of sixty-four
bits. -/
def based? (base : Nat) (cs : List Char) : Option Int := do
  let (minus, cs) := Binary64.splitSign cs
  let ds ← cs.mapM fun c => (Text.hexValue? c).filter (· < base)
  let magnitude := ds.foldl (fun n d => base * n + d) 0
  let n : Int := if minus then -magnitude else magnitude
  if ds ≠ [] ∧ Word.fitsSigned 64 n then some n else none

/-- A whole number behind the mark of its base, or behind a plus sign and one more sign. -/
def marked? : List Char → Option Int
  | '0' :: 'x' :: cs => based? 16 cs
  | '0' :: 'o' :: cs => based? 8 cs
  | '+' :: cs => based? 10 cs
  | _ => none

namespace Node

/-- What a plain scalar looks like. -/
def ofPlain (s : String) : Node :=
  match marked? s.toList with
  | some n => .int n
  | none =>
    match s with
    | "~" | "null" => .null
    | "true" => .bool true
    | "false" => .bool false
    | s =>
      match Setting.int? s with
      | some n => .int n
      | none => if isReal s then .real s else .text s

/-- A plain scalar that is of a kind, if that is one of the kinds that there are. -/
def ofKind (kind s : String) : Node :=
  match kind with
  | "bool" => if s = "true" then .bool true else if s = "false" then .bool false else .bad
  | "int" => ((Setting.int? s).map .int).getD .bad
  | "float" => if isReal s then .real s else .bad
  | "null" => if s = "~" ∨ s = "null" then .null else .bad
  | _ => .text s

/-- What the tags of the kinds start with. -/
def kindStart : String := "tag:yaml.org,2002:"

def ofScalar (isPlain : Bool) (s : String) (tag : Option Tag) : Node :=
  if !isPlain then .text s
  else
    match tag with
    | none => ofPlain s
    | some t => if t.handle = kindStart then ofKind t.suffix s else .text s

/-- The table of names and values in turn, no two of which have one name. A bad node is no name,
and what stands behind it is one. -/
def tableLoop : Option Node → List (Node × Node) → List Node → Option Node
  | _, es, [] => some (.table es)
  | none, es, .bad :: nodes => tableLoop none es nodes
  | none, es, name :: nodes => tableLoop (some name) es nodes
  | some name, es, value :: nodes =>
    if es.any fun e => e.1 == name then none else tableLoop none (es ++ [(name, value)]) nodes

def ofParts? (nodes : List Node) : Option Node := tableLoop none [] nodes

end Node

/-! ## Reading -/

/-- The tokens that are left, with what has been declared and named so far. Anchors have numbers,
since an alias is about the last one of its name. -/
structure Reading where
  tokens : List Token
  handles : List (String × String) := []
  anchors : List (String × Nat) := []
  named : List (Nat × Node) := []

abbrev Reader := StateT Reading Option

namespace Reader

def peek : Reader (Option Token) := return (← get).tokens.head?

def skip : Reader Unit := modify fun r => { r with tokens := r.tokens.drop 1 }

/-- Whether one of some tokens is next. -/
def isNext (ts : List Token) : Reader Bool := return (← peek).any ts.contains

/-- Takes the next token if it is a certain one. -/
def take (t : Token) : Reader Bool := do
  if (← peek) = some t then
    skip
    return true
  else return false

/-- The number of a new anchor. -/
def anchor (name : String) : Reader Nat := do
  let n := (← get).anchors.length
  modify fun r => { r with anchors := (name, n) :: r.anchors }
  return n

/-- The tag behind a handle, which stands for what has been declared. -/
def resolve (t : Tag) : Reader Tag := do
  match (← get).handles.lookup t.handle with
  | some start => return ⟨start, t.suffix⟩
  | none =>
    if t.handle = "!!" then return ⟨Node.kindStart, t.suffix⟩
    else if isDeclared t.handle then failure
    else return t

/-- The anchor and the tag in front of a node, in any order. -/
def properties : Reader (Option Nat × Option Tag) := do
  match (← get).tokens with
  | .anchor name :: .tag t :: _ =>
    skip; skip
    let n ← anchor name
    return (some n, some (← resolve t))
  | .anchor name :: _ =>
    skip
    return (some (← anchor name), none)
  | .tag t :: .anchor name :: _ =>
    skip; skip
    let t ← resolve t
    return (some (← anchor name), some t)
  | .tag t :: _ =>
    skip
    return (none, some (← resolve t))
  | _ => return (none, none)

/-- The node that an alias stands for. -/
def aliased (name : String) : Reader Node := do
  let r ← get
  match r.anchors.lookup name with
  | some n => return (r.named.lookup n).getD .bad
  | none => failure

mutual

/-- A node, which can be a block if `inBlock`, and a list without an indentation of its own if
`isOpen`; `fuel` bounds the nodes inside of it. -/
def node : Nat → Bool → Bool → Reader Node
  | 0, _, _ => failure
  | fuel + 1, inBlock, isOpen => do
    if let some (.alias name) := ← peek then
      skip
      return ← aliased name
    let (anchor, tag) ← properties
    let node ← match ← peek with
      | some (.scalar isPlain s) => do
        skip
        pure (Node.ofScalar isPlain s tag)
      | some .flowList => do
        skip
        pure (.list (← flowItems fuel true []))
      | some .flowTable => do
        skip
        Node.ofParts? (← flowEntries fuel true [])
      | t =>
        if t = some .item ∧ isOpen then .list <$> openItems fuel []
        else if t = some .blockList ∧ inBlock then do
          skip
          pure (.list (← blockItems fuel []))
        else if t = some .blockTable ∧ inBlock then do
          skip
          Node.ofParts? (← blockEntries fuel [])
        else if anchor.isSome ∨ tag.isSome then pure (Node.ofScalar true "" tag)
        else failure
    if let some n := anchor then
      modify fun r => { r with named := (n, node) :: r.named }
    return node

/-- A node, or nothing if one of some tokens is next. -/
def optional : Nat → List Token → Bool → Bool → Reader Node
  | 0, _, _, _ => failure
  | fuel + 1, ends, inBlock, isOpen => do
    if ← isNext ends then return .null else node fuel inBlock isOpen

/-- The items of a list up to the end of its block. -/
def blockItems : Nat → List Node → Reader (List Node)
  | 0, _ => failure
  | fuel + 1, before => do
    if ← take .blockEnd then return before.reverse
    if ← take .item then
      blockItems fuel ((← optional fuel [.item, .blockEnd] true false) :: before)
    else failure

/-- The items of a list that is not indented. -/
def openItems : Nat → List Node → Reader (List Node)
  | 0, _ => failure
  | fuel + 1, before => do
    if ← take .item then
      openItems fuel ((← optional fuel [.item, .key, .value, .blockEnd] true false) :: before)
    else return before.reverse

/-- The value of an entry, if it has one. -/
def entryValue : Nat → List Token → Bool → Reader Node
  | 0, _, _ => failure
  | fuel + 1, ends, inBlock => do
    if ← take .value then optional fuel ends inBlock inBlock else return .null

/-- The names and values of a table up to the end of its block. -/
def blockEntries : Nat → List Node → Reader (List Node)
  | 0, _ => failure
  | fuel + 1, before => do
    let ends : List Token := [.key, .value, .blockEnd]
    if ← take .blockEnd then return before.reverse
    let name ←
      if ← take .key then optional fuel ends true true
      else if ← isNext [.value] then pure .null
      else failure
    let value ← entryValue fuel ends true
    blockEntries fuel (value :: name :: before)

/-- The items of a list up to its bracket. An entry among them is a table of its own. -/
def flowItems : Nat → Bool → List Node → Reader (List Node)
  | 0, _, _ => failure
  | fuel + 1, isFirst, before => do
    if ← take .flowListEnd then return before.reverse
    if !isFirst then
      if !(← take .comma) then failure
    if ← take .flowListEnd then return before.reverse
    if ← take .key then
      let name ←
        if ← isNext [.value, .comma, .flowListEnd] then do
          skip
          pure .null
        else node fuel false false
      let value ← entryValue fuel [.comma, .flowListEnd] false
      flowItems fuel false ((← Node.ofParts? [name, value]) :: before)
    else flowItems fuel false ((← node fuel false false) :: before)

/-- The names and values of a table up to its brace. -/
def flowEntries : Nat → Bool → List Node → Reader (List Node)
  | 0, _, _ => failure
  | fuel + 1, isFirst, before => do
    let ends : List Token := [.comma, .flowTableEnd]
    if ← take .flowTableEnd then return before.reverse
    if !isFirst then
      if !(← take .comma) then failure
    if ← take .flowTableEnd then return before.reverse
    if ← take .key then
      let name ← optional fuel (.value :: ends) false false
      let value ← entryValue fuel ends false
      flowEntries fuel false (value :: name :: before)
    else if ← isNext [.value] then
      let value ← entryValue fuel ends false
      flowEntries fuel false (value :: .null :: before)
    else flowEntries fuel false (.null :: (← node fuel false false) :: before)

end

/-- Reads the directives in front of a document, of which the last one counts and one at most is a
version. -/
def directives : Nat → Bool → Reader Unit
  | 0, _ => failure
  | fuel + 1, hasVersion => do
    match ← peek with
    | some (.directive d) =>
      if d = .version ∧ hasVersion then failure
      let handles := match d with
        | .version => []
        | .tag handle start => [(handle, start)]
      modify fun r => { r with handles }
      skip
      directives fuel (hasVersion || d = .version)
    | _ => return

/-- The node of the first document. -/
def document (fuel : Nat) : Reader Node := do
  let isExplicit := (← peek) matches some (.directive _)
  directives fuel false
  if ← take .documentStart then
    let next ← peek
    if next.isNone ∨ next matches some (.directive _) ∨ next = some .documentStart
        ∨ next = some .documentEnd then
      return .null
    else node fuel true false
  else if isExplicit then failure
  else node fuel true false

end Reader

/-- The node of a text, which has no more than one document; there need not be any. -/
def Node.ofText? (s : String) : Option (Option Node) := do
  let tokens := (← Token.ofText? s).dropWhile (· = .documentEnd)
  if tokens.isEmpty then some none
  else
    let (node, r) ← (Reader.document (4 * tokens.length + 8)).run { tokens }
    if r.tokens.all (· = .documentEnd) then some (some node) else none

end SourceRegistry.Yaml
