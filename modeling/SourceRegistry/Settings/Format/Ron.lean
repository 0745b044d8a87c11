import SourceRegistry.Settings.Scalar
import SourceRegistry.Text.Hex
import SourceRegistry.Text.Space

/-!
# Settings in RON

Structures and maps are tables, lists and tuples are lists, `None` and names alone are null, and
`Some` stands for what is inside of it. Names and white space are ASCII. A document may start with
attributes that enable extensions of the format.
-/

namespace SourceRegistry.Ron

abbrev Reader (α : Type) := List Char → Option (α × List Char)

def isBlank (c : Char) : Bool := c = ' ' || c = '\n' || c = '\t' || c = '\r'

/-- The rest behind `depth` comments one inside the other. -/
def commentEnd? : Nat → List Char → Option (List Char)
  | 0, cs => some cs
  | depth + 1, '*' :: '/' :: cs => commentEnd? depth cs
  | depth + 1, '/' :: '*' :: cs => commentEnd? (depth + 2) cs
  | depth + 1, _ :: cs => commentEnd? (depth + 1) cs
  | _ + 1, [] => none

/-- Drops white space and comments; `fuel` bounds the characters. -/
def skipLoop : Nat → List Char → List Char
  | 0, cs => cs
  | fuel + 1, cs =>
    match cs with
    | '/' :: '/' :: rest => skipLoop fuel (rest.dropWhile (· ≠ '\n'))
    | '/' :: '*' :: rest => ((commentEnd? 1 rest).map (skipLoop fuel)).getD cs
    | c :: rest => if isBlank c then skipLoop fuel rest else cs
    | [] => []

def skip (cs : List Char) : List Char := skipLoop cs.length cs

/-- The digits of a code point up to its closing brace. -/
def codePoint? (cs : List Char) : Option (Char × List Char) := do
  let ds := cs.takeWhile (· ≠ '}')
  let n := (← ds.mapM Text.hexValue?).foldl (fun n d => 16 * n + d) 0
  if ds ≠ [] ∧ ds.length ≤ 6 ∧ n.isValidChar then some (Char.ofNat n, cs.drop (ds.length + 1))
  else none

def escape? : Reader Char
  | 'n' :: cs => some ('\n', cs)
  | 'r' :: cs => some ('\r', cs)
  | 't' :: cs => some ('\t', cs)
  | '0' :: cs => some ('\x00', cs)
  | '\\' :: cs => some ('\\', cs)
  | '\x22' :: cs => some ('\x22', cs)
  | '\x27' :: cs => some ('\x27', cs)
  | 'x' :: a :: b :: cs => do
    some (Char.ofNat (16 * (← Text.hexValue? a) + (← Text.hexValue? b)), cs)
  | 'u' :: '{' :: cs => codePoint? cs
  | _ => none

/-- A text behind its quote; `fuel` bounds its characters. -/
def quoted : Nat → List Char → Reader String
  | 0, _, _ => none
  | _, _, [] => none
  | fuel + 1, before, c :: cs =>
    if c = '\x22' then some (String.ofList before.reverse, cs)
    else if c = '\\' then do
      let (d, cs) ← escape? cs
      quoted fuel (d :: before) cs
    else quoted fuel (c :: before) cs

/-- A text without escapes, up to a quote and `marks` number signs. -/
def rawText (marks : Nat) : List Char → Reader String
  | _, [] => none
  | before, c :: cs =>
    if c = '\x22' ∧ cs.take marks = List.replicate marks '#' then
      some (String.ofList before.reverse, cs.drop marks)
    else rawText marks (c :: before) cs

/-- A single character behind its quote. -/
def character : Reader String
  | '\\' :: cs => do
    match ← escape? cs with
    | (c, '\x27' :: cs) => some (c.toString, cs)
    | _ => none
  | c :: '\x27' :: cs => if c = '\x27' then none else some (c.toString, cs)
  | _ => none

/-- A text in any of its forms. -/
def text : Reader String
  | '\x22' :: cs => quoted (cs.length + 1) [] cs
  | '\x27' :: cs => character cs
  | 'r' :: cs =>
    let marks := (cs.takeWhile (· = '#')).length
    match cs.drop marks with
    | '\x22' :: cs => rawText marks [] cs
    | _ => none
  | _ => none

def isNameStart (c : Char) : Bool := c.isAlpha || c = '_'

def isNameChar (c : Char) : Bool := c.isAlphanum || c = '_'

/-- The characters of a name behind the mark `r#`. -/
def isMarkedNameChar (c : Char) : Bool := isNameChar c || c = '.' || c = '+' || c = '-'

/-- A name, which is not followed by a character that only a marked name can have. -/
def name : Reader String := fun cs =>
  match cs with
  | 'r' :: '#' :: rest =>
    let n := rest.takeWhile isMarkedNameChar
    if n.isEmpty then none else some (String.ofList n, rest.drop n.length)
  | 'r' :: '\x22' :: _ => none
  | c :: _ =>
    let n := cs.takeWhile isNameChar
    let rest := cs.drop n.length
    if !isNameStart c || rest.head?.any isMarkedNameChar then none
    else some (String.ofList n, rest)
  | [] => none

/-- The rest behind a word, if the text starts with it. -/
def behind? (word : String) (cs : List Char) : Option (List Char) :=
  let rest := cs.drop word.length
  if word.toList.isPrefixOf cs && !rest.head?.any isNameChar then some rest else none

def isFloatChar (c : Char) : Bool :=
  c.isDigit || c = '.' || c = 'e' || c = 'E' || c = '+' || c = '-' || c = '_'

def isWholeChar (c : Char) : Bool := (Text.hexValue? c).isSome || c = '_'

/-- The base of a whole number and its digits. -/
def based : List Char → Nat × List Char
  | '0' :: 'x' :: cs => (16, cs)
  | '0' :: 'o' :: cs => (8, cs)
  | '0' :: 'b' :: cs => (2, cs)
  | cs => (10, cs)

/-- A whole number without sign, among the digits of which underscores may stand. -/
def whole : Reader Nat := fun cs => do
  let (base, cs) := based cs
  let digits := cs.takeWhile isWholeChar
  if digits.isEmpty ∨ digits.head? = some '_' then none
  let ds ← (digits.filter (· ≠ '_')).mapM fun c => (Text.hexValue? c).filter (· < base)
  some (ds.foldl (fun n d => base * n + d) 0, cs.drop digits.length)

/-- The words for numbers that have no digits, with and without signs. -/
def numberWords : List String := ["inf", "+inf", "-inf", "NaN", "+NaN", "-NaN"]

def float : Reader Setting := fun cs =>
  match numberWords.findSome? fun w => (behind? w cs).map (w, ·) with
  | some (w, rest) => (Binary64.ofText? w).map fun x => (.float x, rest)
  | none =>
    let n := cs.takeWhile isFloatChar
    if n.contains '_' then none
    else (Binary64.ofChars? n).map fun x => (.float x, cs.drop n.length)

/-- A number that looks whole: one without sign fits an unsigned word and is a float if it does not
fit a signed one; one with a sign fits a signed word. -/
def wholeNumber : Reader Setting := fun cs => do
  match cs with
  | '+' :: cs =>
    let (n, rest) ← whole cs
    if Word.fitsSigned 64 n then some (.int n, rest) else none
  | '-' :: cs =>
    let (n, rest) ← whole cs
    if Word.fitsSigned 64 (-(n : Int)) then some (.int (-(n : Int)), rest) else none
  | cs =>
    let (n, rest) ← whole cs
    if Word.fitsSigned 64 n then some (.int n, rest)
    else if Word.fits 64 n then some (.float (Binary64.nearest ⟨n, 0⟩), rest)
    else none

/-- A number, which looks whole unless it goes on with the characters of a float. -/
def number : Reader Setting := fun cs =>
  let (_, unsigned) := Binary64.splitSign cs
  let isFloat : Bool :=
    (unsigned.takeWhile isWholeChar).length < (unsigned.takeWhile isFloatChar).length
  if isFloat then float cs else wholeNumber cs <|> float cs

/-- What the attributes of a document change: `Some` may go without brackets, or have the parts of
a structure between them. -/
structure Extensions where
  implicitSome : Bool := false
  openVariants : Bool := false
  deriving DecidableEq, Repr

/-- Enables what a name stands for. -/
def Extensions.enable? (x : Extensions) : String → Option Extensions
  | "unwrap_newtypes" => some x
  | "implicit_some" => some { x with implicitSome := true }
  | "unwrap_variant_newtypes" => some { x with openVariants := true }
  | _ => none

/-- The rest behind several words, with blanks between them. -/
def behindAll? (words : List String) (cs : List Char) : Option (List Char) :=
  words.foldlM (fun cs w =>
    if w.toList.isPrefixOf cs then some (skip (cs.drop w.length)) else none) cs

/-- Enables the names of an attribute with commas between them; `fuel` bounds their number. -/
def extensionNames : Nat → Extensions → Reader Extensions
  | 0, _, _ => none
  | fuel + 1, x, cs => do
    let (n, cs) ← name cs
    let x ← x.enable? n
    match skip cs with
    | ',' :: cs =>
      let cs := skip cs
      if cs.head?.any isNameChar then extensionNames fuel x cs else some (x, cs)
    | cs => some (x, cs)

/-- What the attributes in front of a document enable; `fuel` bounds their number. -/
def extensions : Nat → Extensions → Reader Extensions
  | 0, _, _ => none
  | fuel + 1, x, cs =>
    match cs with
    | '#' :: _ => do
      let cs ← behindAll? ["#", "!", "[", "enable", "("] cs
      let (x, cs) ← extensionNames (cs.length + 1) x cs
      extensions fuel x (← behindAll? [")", "]"] cs)
    | cs => some (x, cs)

/-! ## Values -/

/-- Whether a structure has names for its parts, seen from behind its opening bracket. -/
def hasNames (cs : List Char) : Bool :=
  match name cs with
  | some (_, rest) => (skip rest).head? = some ':'
  | none => false

/-- How many parts can be inside of one another: each structure, list and map counts, and so does
each of their parts. -/
def mostParts : Nat := 128

/-- What stands behind a part: the end of the parts, or a comma in front of more of them. -/
def behindPart? (closing : Char) (cs : List Char) : Option (List Char) :=
  match skip cs with
  | ',' :: cs => some (skip cs)
  | cs => if cs.head? = some closing then some cs else none

mutual

/-- A value, with `depth` parts left to go into; `fuel` bounds the values. -/
def value (x : Extensions) : Nat → Nat → Reader Setting
  | 0, _, _ => none
  | fuel + 1, depth, cs =>
    match behind? "true" cs, behind? "false" cs, behind? "Some" cs, behind? "None" cs with
    | some rest, _, _, _ => some (.bool true, rest)
    | _, some rest, _, _ => some (.bool false, rest)
    | _, _, some rest, _ => if depth = 0 then none else optional x fuel (depth - 1) (skip rest)
    | _, _, _, some rest => some (.null, rest)
    | none, none, none, none =>
      match behind? "inf" cs <|> behind? "NaN" cs, name cs, cs with
      | some _, _, cs => float cs
      | none, some (_, rest), _ =>
        match skip rest with
        | '(' :: rest => parts x fuel depth (skip rest)
        | rest => some (.null, rest)
      | none, none, '(' :: ')' :: rest => some (.null, rest)
      | none, none, '(' :: rest => parts x fuel depth (skip rest)
      | none, none, '[' :: rest =>
        if depth = 0 then none
        else (items x fuel (depth - 1) ']' [] (skip rest)).map fun (l, cs) => (.list l, cs)
      | none, none, '{' :: rest =>
        if depth = 0 then none
        else (entries x fuel (depth - 1) [] (skip rest)).map fun (es, cs) => (.table es, cs)
      | none, none, c :: _ =>
        if c.isDigit ∨ c = '+' ∨ c = '-' ∨ c = '.' then number cs
        else (text cs).map fun (s, cs) => (.text s, cs)
      | none, none, [] => none

/-- What is inside of `Some`. -/
def optional (x : Extensions) : Nat → Nat → Reader Setting
  | 0, _, _ => none
  | fuel + 1, depth, cs =>
    match cs with
    | '(' :: cs => do
      if x.openVariants then parts x fuel depth (skip cs)
      else
        let (v, cs) ← value x fuel depth (skip cs)
        match ← behindPart? ')' cs with
        | ')' :: cs => some (v, cs)
        | _ => none
    | cs => if x.implicitSome then value x fuel depth cs else none

/-- The parts of a structure behind its opening bracket: a table if they have names, or a list. -/
def parts (x : Extensions) : Nat → Nat → Reader Setting
  | 0, _, _ => none
  | fuel + 1, depth, cs =>
    if depth = 0 then none
    else if hasNames cs then
      (fields x fuel (depth - 1) [] cs).map fun (es, cs) => (.table es, cs)
    else (items x fuel (depth - 1) ')' [] cs).map fun (l, cs) => (.list l, cs)

/-- Values up to a closing bracket. -/
def items (x : Extensions) : Nat → Nat → Char → List Setting → Reader (List Setting)
  | 0, _, _, _, _ => none
  | fuel + 1, depth, closing, before, cs =>
    if cs.head? = some closing then some (before.reverse, cs.drop 1)
    else if depth = 0 then none
    else do
      let (v, cs) ← value x fuel (depth - 1) cs
      items x fuel depth closing (v :: before) (← behindPart? closing cs)

/-- The named parts of a structure. -/
def fields (x : Extensions) : Nat → Nat → List (String × Setting) →
    Reader (List (String × Setting))
  | 0, _, _, _ => none
  | fuel + 1, depth, es, cs =>
    match cs with
    | ')' :: cs => some (es, cs)
    | cs => do
      if depth = 0 then none
      let (n, cs) ← name cs
      match skip cs with
      | ':' :: cs =>
        let (v, cs) ← value x fuel (depth - 1) (skip cs)
        fields x fuel depth (Members.put n v es) (← behindPart? ')' cs)
      | _ => none

/-- The entries of a map, whose names are texts. -/
def entries (x : Extensions) : Nat → Nat → List (String × Setting) →
    Reader (List (String × Setting))
  | 0, _, _, _ => none
  | fuel + 1, depth, es, cs =>
    match cs with
    | '}' :: cs => some (es, cs)
    | cs => do
      if depth = 0 then none
      let (n, cs) ← text cs
      match skip cs with
      | ':' :: cs =>
        let (v, cs) ← value x fuel (depth - 1) (skip cs)
        entries x fuel depth (Members.put n v es) (← behindPart? '}' cs)
      | _ => none

end

/-- The entries of a RON document. -/
def read? (s : String) : Option (List (String × Setting)) := do
  let (x, cs) ← extensions (s.length + 1) {} (skip s.toList)
  match ← value x (3 * s.length + 3) mostParts cs with
  | (.table es, rest) => if skip rest = [] then some es else none
  | _ => none

end SourceRegistry.Ron
