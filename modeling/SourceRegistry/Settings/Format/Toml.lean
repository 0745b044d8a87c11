import SourceRegistry.Settings.Scalar
import SourceRegistry.Text.Hex
import SourceRegistry.Time.Moment

/-!
# Settings in TOML

A document is a list of lines: entries, and headers that say to which table the entries below
them belong. A table is defined once, and nothing is given two values.
-/

namespace SourceRegistry.Toml

/-- Reads the front of a text, if it has the right form. -/
abbrev Reader (α : Type) := List Char → Option (α × List Char)

def isBlank (c : Char) : Bool := c = ' ' || c = '\t'

def skipBlanks (cs : List Char) : List Char := cs.dropWhile isBlank

/-- Whether a character may stand in a comment or a text of one line. -/
def isLineChar (c : Char) : Bool := c = '\t' || (0x20 ≤ c.toNat && c.toNat ≠ 0x7F)

/-- The rest behind the end of a line. -/
def newline? : List Char → Option (List Char)
  | '\n' :: cs => some cs
  | '\r' :: '\n' :: cs => some cs
  | _ => none

/-- The rest behind blanks and a comment. -/
def skipComment (cs : List Char) : List Char :=
  match skipBlanks cs with
  | '#' :: cs => cs.dropWhile isLineChar
  | cs => cs

/-- The rest of the next line, which must not hold anything else. -/
def endLine? (cs : List Char) : Option (List Char) :=
  match skipComment cs with
  | [] => some []
  | cs => newline? cs

/-- Drops blanks, comments and line ends; `fuel` bounds the lines. -/
def skipLines : Nat → List Char → List Char
  | 0, cs => cs
  | fuel + 1, cs =>
    let cs := skipComment cs
    match newline? cs with
    | some rest => skipLines fuel rest
    | none => cs

/-- The character of an escape with a number of `n` digits. -/
def codePoint? (n : Nat) (cs : List Char) : Option (Char × List Char) := do
  let ds ← (cs.take n).mapM Text.hexValue?
  let k := ds.foldl (fun k d => 16 * k + d) 0
  if ds.length = n ∧ k.isValidChar then some (Char.ofNat k, cs.drop n) else none

def escape? : Reader Char
  | 'b' :: cs => some ('\x08', cs)
  | 't' :: cs => some ('\t', cs)
  | 'n' :: cs => some ('\n', cs)
  | 'f' :: cs => some ('\x0c', cs)
  | 'r' :: cs => some ('\r', cs)
  | '\x22' :: cs => some ('\x22', cs)
  | '\\' :: cs => some ('\\', cs)
  | 'u' :: cs => codePoint? 4 cs
  | 'U' :: cs => codePoint? 8 cs
  | _ => none

/-- A text behind its quote; backslashes escape if `escapes`. -/
def line (quote : Char) (escapes : Bool) : Nat → List Char → Reader (List Char)
  | 0, _, _ => none
  | _, _, [] => none
  | fuel + 1, before, c :: cs =>
    if c = quote then some (before.reverse, cs)
    else if escapes ∧ c = '\\' then do
      let (d, cs) ← escape? cs
      line quote escapes fuel (d :: before) cs
    else if isLineChar c then line quote escapes fuel (c :: before) cs
    else none

/-- The rest behind a line that ends in a backslash, if there is nothing else on it. -/
def continuation? (cs : List Char) : Option (List Char) :=
  (newline? (skipBlanks cs)).map fun rest =>
    rest.dropWhile fun c => isBlank c || c = '\n' || c = '\r'

/-- A text of several lines behind its three quotes. -/
def lines (quote : Char) (escapes : Bool) : Nat → List Char → Reader (List Char)
  | 0, _, _ => none
  | _, _, [] => none
  | fuel + 1, before, c :: cs =>
    let run := (c :: cs).takeWhile (· = quote)
    if 3 ≤ run.length then
      if run.length ≤ 5 then
        some (before.reverse ++ run.drop 3, (c :: cs).drop run.length)
      else none
    else if escapes ∧ c = '\\' then
      match continuation? cs with
      | some rest => lines quote escapes fuel before rest
      | none => do
        let (d, cs) ← escape? cs
        lines quote escapes fuel (d :: before) cs
    else
      match newline? (c :: cs) with
      | some rest => lines quote escapes fuel ('\n' :: before) rest
      | none => if isLineChar c then lines quote escapes fuel (c :: before) cs else none

def text : Reader String := fun cs => do
  let finish (r : List Char × List Char) : String × List Char := (String.ofList r.1, r.2)
  match cs with
  | q :: rest =>
    if q ≠ '\x22' ∧ q ≠ '\x27' then none
    let escapes : Bool := q = '\x22'
    if rest.take 2 = [q, q] then
      let body := rest.drop 2
      some (finish (← lines q escapes (body.length + 1) [] ((newline? body).getD body)))
    else some (finish (← line q escapes (rest.length + 1) [] rest))
  | [] => none

def isBare (c : Char) : Bool := c.isAlphanum || c = '_' || c = '-'

/-- A name, bare or as a text of one line. -/
def name : Reader String := fun cs =>
  match cs with
  | q :: rest =>
    if q = '\x22' ∨ q = '\x27' then do
      let (n, rest) ← line q (q = '\x22') (rest.length + 1) [] rest
      some (String.ofList n, rest)
    else
      let n := cs.takeWhile isBare
      if n.isEmpty then none else some (String.ofList n, cs.drop n.length)
  | [] => none

/-- How many names can be joined, and how many values can be inside of one another. -/
def mostParts : Nat := 79

/-- Names joined by points, no more than a number of them. -/
def namesLoop : Nat → Reader (List String)
  | 0, _ => none
  | most + 1, cs => do
    let (n, cs) ← name (skipBlanks cs)
    match skipBlanks cs with
    | '.' :: cs =>
      let (ns, cs) ← namesLoop most cs
      some (n :: ns, cs)
    | cs => some ([n], cs)

/-- Names joined by points. -/
def names : Reader (List String) := namesLoop mostParts

/-- Digits, between which single underscores may stand, without them. -/
def plainDigits? (isDigit : Char → Bool) : Bool → List Char → Option (List Char)
  | behindDigit, [] => if behindDigit then some [] else none
  | behindDigit, '_' :: cs => if behindDigit then plainDigits? isDigit false cs else none
  | _, c :: cs => if isDigit c then (plainDigits? isDigit true cs).map (c :: ·) else none

def based? (base : Nat) (cs : List Char) : Option Int := do
  let isDigit (c : Char) : Bool := ((Text.hexValue? c).map fun d => decide (d < base)) == some true
  let ds ← plainDigits? isDigit false cs
  let n := ds.foldl (fun n c => base * n + (Text.hexValue? c).getD 0) 0
  if Word.fitsSigned 64 n then some n else none

/-- Whole digits, of which the first is zero only if it is the only one. -/
def wholeDigits? (cs : List Char) : Option (List Char) := do
  let ds ← plainDigits? Binary64.isDigit false cs
  if ds.head? = some '0' ∧ ds.length ≠ 1 then none else some ds

def decimal? (minus : Bool) (cs : List Char) : Option Setting := do
  let ds ← wholeDigits? cs
  let n : Int := Binary64.numeral ds
  let n := if minus then -n else n
  if Word.fitsSigned 64 n then some (.int n) else none

/-- A number with a fraction or an exponent. One that is too great is refused, unless it is below
zero. -/
def float? (minus : Bool) (cs : List Char) : Option Setting := do
  let isWhole (c : Char) : Bool := c ≠ '.' && c ≠ 'e' && c ≠ 'E'
  let whole ← wholeDigits? (cs.takeWhile isWhole)
  let rest := cs.dropWhile isWhole
  let (fraction, rest) ← match rest with
    | '.' :: rest => do
      let ds ← plainDigits? Binary64.isDigit false (rest.takeWhile isWhole)
      some ('.' :: ds, rest.dropWhile isWhole)
    | rest => some ([], rest)
  let exponent ← match rest with
    | [] => some []
    | e :: '-' :: ds => (plainDigits? Binary64.isDigit false ds).map fun ds => e :: '-' :: ds
    | e :: '+' :: ds => (plainDigits? Binary64.isDigit false ds).map (e :: ·)
    | e :: ds => (plainDigits? Binary64.isDigit false ds).map (e :: ·)
  let x ← Binary64.ofChars? (whole ++ fraction ++ exponent)
  if (fraction.isEmpty ∧ exponent.isEmpty) ∨ (!minus ∧ x = Binary64.infinity) then none
  some (.float (if minus then x.negate else x))

/-- A day, a time, or both, which count as texts. -/
def moment? (cs : List Char) : Option Setting :=
  (Moment.written? cs).map fun cs => .text (String.ofList cs)

/-- A word without quotes. -/
def word? (cs : List Char) : Option Setting :=
  let (minus, unsigned) := Binary64.splitSign cs
  let signed : Bool := unsigned.length < cs.length
  match unsigned with
  | ['t', 'r', 'u', 'e'] => if signed then none else some (.bool true)
  | ['f', 'a', 'l', 's', 'e'] => if signed then none else some (.bool false)
  | ['i', 'n', 'f'] =>
    some (.float (if minus then Binary64.infinity.negate else Binary64.infinity))
  | ['n', 'a', 'n'] => some (.float (if minus then Binary64.nan.negate else Binary64.nan))
  | '0' :: 'x' :: ds => if signed then none else (based? 16 ds).map .int
  | '0' :: 'o' :: ds => if signed then none else (based? 8 ds).map .int
  | '0' :: 'b' :: ds => if signed then none else (based? 2 ds).map .int
  | _ => decimal? minus unsigned <|> float? minus unsigned <|> moment? cs

def isWordChar (c : Char) : Bool :=
  c.isAlphanum || c = '_' || c = '-' || c = '+' || c = '.' || c = ':'

/-- A word; one blank may stand between a date and a time. -/
def word : Reader Setting := fun cs => do
  let w := cs.takeWhile isWordChar
  let rest := cs.drop w.length
  match rest with
  | ' ' :: d :: _ =>
    if w.length = 10 ∧ w[4]? = some '-' ∧ Binary64.isDigit d then
      let time := (rest.drop 1).takeWhile isWordChar
      some (← word? (w ++ ' ' :: time), rest.drop (1 + time.length))
    else some (← word? w, rest)
  | _ => some (← word? w, rest)

/-! ## Tables in the making -/

/-- How a table came to be: on the way to another, by a header, by a name with points, or as a
whole. -/
inductive Origin where
  | passed
  | header
  | dotted
  | closed
  deriving DecidableEq, Repr

inductive Node where
  | leaf (v : Setting)
  | table (origin : Origin) (entries : List (String × Node))
  | tables (rows : List (List (String × Node)))
  deriving Inhabited

abbrev Nodes := List (String × Node)

/-- Enters a value below the names of an entry. The table that it becomes an entry of is the one
that the names start in, or one that was made by a name with points. -/
def enter (v : Node) : List String → Nodes → Option Nodes
  | [], _ => none
  | [n], es => if (es.lookup n).isSome then none else some (es ++ [(n, v)])
  | n :: ns, es => do
    let replace (node : Node) : Nodes := es.map fun e => if e.1 = n then (n, node) else e
    match es.lookup n with
    | none => some (es ++ [(n, .table .dotted (← enter v ns []))])
    | some (.table .dotted inner) => some (replace (.table .dotted (← enter v ns inner)))
    | some (.table .passed inner) =>
      if ns.length = 1 then none else some (replace (.table .passed (← enter v ns inner)))
    | some (.tables rows) =>
      match rows.getLast? with
      | some last =>
        if ns.length = 1 then none
        else some (replace (.tables (rows.dropLast ++ [← enter v ns last])))
      | none => none
    | some _ => none

/-- Changes the table that a header names, creating the tables on the way. -/
def descend (change : Option Node → Option Node) : List String → Nodes → Option Nodes
  | [], _ => none
  | [n], es => do
    let node ← change (es.lookup n)
    some (if (es.lookup n).isSome then es.map fun e => if e.1 = n then (n, node) else e
      else es ++ [(n, node)])
  | n :: ns, es => do
    let node ← match es.lookup n with
      | none => (descend change ns []).map (.table .passed)
      | some (.table .closed _) => none
      | some (.table origin inner) => (descend change ns inner).map (.table origin)
      | some (.tables rows) =>
        match rows.getLast? with
        | some last => (descend change ns last).map fun row => .tables (rows.dropLast ++ [row])
        | none => none
      | some (.leaf _) => none
    some (if (es.lookup n).isSome then es.map fun e => if e.1 = n then (n, node) else e
      else es ++ [(n, node)])

/-- A header for a single table. -/
def openTable : Option Node → Option Node
  | none => some (.table .header [])
  | some (.table .passed es) => some (.table .header es)
  | some _ => none

/-- A header for one more table of a list. -/
def openRow : Option Node → Option Node
  | none => some (.tables [[]])
  | some (.tables rows) => some (.tables (rows ++ [[]]))
  | some _ => none

/-- Enters a value below names in the table that was opened last. -/
def enterBelow (path : List String) (names : List String) (v : Node) (es : Nodes) : Option Nodes :=
  if path.isEmpty then enter v names es
  else descend (fun
    | some (.table origin inner) => (enter v names inner).map (.table origin)
    | some (.tables rows) =>
      match rows.getLast? with
      | some last => (enter v names last).map fun row => .tables (rows.dropLast ++ [row])
      | none => none
    | _ => none) path es

mutual

def Node.toSetting : Node → Setting
  | .leaf v => v
  | .table _ es => .table (toEntries es)
  | .tables rows => .list (toRows rows)

def toEntries : List (String × Node) → List (String × Setting)
  | [] => []
  | (n, v) :: rest => (n, v.toSetting) :: toEntries rest

def toRows : List (List (String × Node)) → List Setting
  | [] => []
  | row :: rest => .table (toEntries row) :: toRows rest

end

/-! ## Values -/

mutual

/-- A value with at most `depth` others around each one inside of it; `fuel` bounds the values. -/
def value : Nat → Nat → Reader Node
  | 0, _, _ => none
  | fuel + 1, depth, cs =>
    match cs with
    | '[' :: cs => do
      if depth = 0 then none
      let (l, cs) ← items fuel (depth - 1) [] cs
      some (.leaf (.list l), cs)
    | '{' :: cs => do
      if depth = 0 then none
      let (es, cs) ← entries fuel (depth - 1) [] (skipBlanks cs)
      some (.table .closed es, cs)
    | c :: _ =>
      if c = '\x22' ∨ c = '\x27' then do
        let (s, cs) ← text cs
        some (.leaf (.text s), cs)
      else do
        let (v, cs) ← word cs
        some (.leaf v, cs)
    | [] => none

/-- The items of a list behind its bracket or a comma. -/
def items : Nat → Nat → List Setting → Reader (List Setting)
  | 0, _, _, _ => none
  | fuel + 1, depth, before, cs => do
    match skipLines cs.length cs with
    | ']' :: cs => some (before.reverse, cs)
    | cs =>
      let (v, cs) ← value fuel depth cs
      match skipLines cs.length cs with
      | ',' :: cs => items fuel depth (v.toSetting :: before) cs
      | ']' :: cs => some ((v.toSetting :: before).reverse, cs)
      | _ => none

/-- The entries of a table on one line, behind its brace or a comma. -/
def entries : Nat → Nat → Nodes → Reader Nodes
  | 0, _, _, _ => none
  | fuel + 1, depth, es, cs => do
    match es, cs with
    | [], '}' :: cs => some ([], cs)
    | _, cs =>
      let (ns, cs) ← names cs
      match cs with
      | '=' :: cs =>
        let (v, cs) ← value fuel depth (skipBlanks cs)
        let es ← enter v ns es
        match skipBlanks cs with
        | ',' :: cs => entries fuel depth es (skipBlanks cs)
        | '}' :: cs => some (es, cs)
        | _ => none
      | _ => none

end

/-- The names of a header behind its brackets, up to the same number of closing ones. -/
def headerNames? (brackets : Nat) (cs : List Char) : Option (List String × List Char) := do
  let (ns, cs) ← names cs
  if cs.take brackets = List.replicate brackets ']' then some (ns, cs.drop brackets) else none

/-- Reads the lines of a document below the table at `path`. -/
def document : Nat → List String → Nodes → List Char → Option Nodes
  | 0, _, es, cs => if cs.isEmpty then some es else none
  | fuel + 1, path, es, cs => do
    match skipLines (cs.length + 1) cs with
    | [] => some es
    | '[' :: '[' :: cs =>
      let (path, cs) ← headerNames? 2 cs
      document fuel path (← descend openRow path es) (← endLine? cs)
    | '[' :: cs =>
      let (path, cs) ← headerNames? 1 cs
      document fuel path (← descend openTable path es) (← endLine? cs)
    | cs =>
      let (ns, cs) ← names cs
      match cs with
      | '=' :: cs =>
        let (v, cs) ← value (cs.length + 1) mostParts (skipBlanks cs)
        document fuel path (← enterBelow path ns v es) (← endLine? cs)
      | _ => none

/-- The entries of a TOML document, which may start with a byte order mark. -/
def read? (s : String) : Option (List (String × Setting)) :=
  let cs := match s.toList with
    | '\uFEFF' :: cs => cs
    | cs => cs
  (document (cs.length + 1) [] [] cs).map toEntries

end SourceRegistry.Toml
