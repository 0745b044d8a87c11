import SourceRegistry.Settings.Scalar
import SourceRegistry.Text.Hex
import SourceRegistry.Text.Letter
import SourceRegistry.Text.NameMark
import SourceRegistry.Text.Space

/-!
# Settings in JSON5

JSON with comments, names without quotes, texts in either quote, a comma behind the last part,
and more ways to write numbers.
-/

namespace SourceRegistry.Json5

abbrev Reader (α : Type) := List Char → Option (α × List Char)

def isBreak (c : Char) : Bool := c = '\n' || c = '\r' || c = '\u2028' || c = '\u2029'

def isBlank (c : Char) : Bool := c = '\uFEFF' || (Text.isSpace c && c ≠ '\u0085')

/-- The rest behind a comment of several lines. -/
def commentEnd? : List Char → Option (List Char)
  | '*' :: '/' :: cs => some cs
  | _ :: cs => commentEnd? cs
  | [] => none

/-- Drops white space and comments; `fuel` bounds the characters. -/
def skipLoop : Nat → List Char → List Char
  | 0, cs => cs
  | fuel + 1, cs =>
    match cs with
    | '/' :: '/' :: rest => skipLoop fuel (rest.dropWhile fun c => !isBreak c)
    | '/' :: '*' :: rest => ((commentEnd? rest).map (skipLoop fuel)).getD cs
    | c :: rest => if isBlank c then skipLoop fuel rest else cs
    | [] => []

def skip (cs : List Char) : List Char := skipLoop cs.length cs

/-- A number of four hexadecimal digits. -/
def unit? : Reader Nat
  | a :: b :: c :: d :: cs => do
    some ((← [a, b, c, d].mapM Text.hexValue?).foldl (fun n d => 16 * n + d) 0, cs)
  | _ => none

/-- The character behind `\u`: a number, or a surrogate pair of two. -/
def codePoint : Reader Char := fun cs => do
  let (n, cs) ← unit? cs
  if 0xD800 ≤ n ∧ n < 0xDC00 then
    match cs with
    | '\\' :: 'u' :: cs =>
      let (m, cs) ← unit? cs
      if 0xDC00 ≤ m ∧ m < 0xE000 then
        some (Char.ofNat (0x10000 + 1024 * (n - 0xD800) + (m - 0xDC00)), cs)
      else none
    | _ => none
  else if n.isValidChar then some (Char.ofNat n, cs)
  else none

/-- The character of an escape that is no line break. -/
def escape? : Reader Char
  | 'b' :: cs => some ('\x08', cs)
  | 'f' :: cs => some ('\x0c', cs)
  | 'n' :: cs => some ('\n', cs)
  | 'r' :: cs => some ('\r', cs)
  | 't' :: cs => some ('\t', cs)
  | 'v' :: cs => some ('\x0b', cs)
  | '0' :: cs => some ('\x00', cs)
  | 'x' :: a :: b :: cs => do
    some (Char.ofNat (16 * (← Text.hexValue? a) + (← Text.hexValue? b)), cs)
  | 'u' :: cs => codePoint cs
  | c :: cs => if c.isDigit || c = 'x' then none else some (c, cs)
  | [] => none

/-- A text behind its quote, in which an escaped line break counts as nothing. -/
def quoted (quote : Char) : Nat → List Char → Reader String
  | 0, _, _ => none
  | _, _, [] => none
  | fuel + 1, before, c :: cs =>
    if c = quote then some (String.ofList before.reverse, cs)
    else if c = '\\' then
      match cs with
      | '\r' :: '\n' :: rest => quoted quote fuel before rest
      | d :: rest =>
        if isBreak d then quoted quote fuel before rest
        else do
          let (e, rest) ← escape? cs
          quoted quote fuel (e :: before) rest
      | [] => none
    else if isBreak c then none
    else quoted quote fuel (c :: before) cs

def isQuote (c : Char) : Bool := c = '\x22' || c = '\x27'

def isNameStart (c : Char) : Bool := c = '$' || c = '_' || Text.isLetter c

/-- Characters that may follow in a name, a joiner or a non-joiner among them. -/
def isNameChar (c : Char) : Bool :=
  isNameStart c || c = '\u200C' || c = '\u200D' || Text.isNameMark c

/-- A name without quotes behind the part `before`, in which characters may be escaped by number;
`fuel` bounds its characters. -/
def bareName : Nat → List Char → Reader String
  | 0, _, _ => none
  | fuel + 1, before, cs =>
    match cs with
    | '\\' :: 'u' :: rest => do
      let (c, rest) ← codePoint rest
      bareName fuel (c :: before) rest
    | c :: rest =>
      if if before.isEmpty then isNameStart c else isNameChar c then
        bareName fuel (c :: before) rest
      else if before.isEmpty then none
      else some (String.ofList before.reverse, cs)
    | [] => if before.isEmpty then none else some (String.ofList before.reverse, [])

def name : Reader String := fun cs =>
  match cs with
  | c :: rest => if isQuote c then quoted c cs.length [] rest else bareName (cs.length + 1) [] cs
  | [] => none

/-- A number without sign and point: hexadecimal, whole, or with an exponent. -/
def magnitude? (minus : Bool) (cs : List Char) : Option Setting :=
  let leadingZero : Bool := cs.head? = some '0' && (cs[1]?.map Binary64.isDigit) = some true
  if leadingZero then none
  else if cs.all Binary64.isDigit then
    let n : Int := Binary64.numeral cs
    let n := if minus then -n else n
    if cs ≠ [] ∧ Word.fitsSigned 64 n then some (.int n) else none
  else
    match Binary64.unsignedText? cs with
    | some d =>
      let x := Binary64.nearest d
      if x.isFinite then some (.float (if minus then x.negate else x)) else none
    | none => none

/-- A number in hexadecimal digits, which fits a word of thirty-two bits. -/
def hexadecimal? (cs : List Char) : Option Setting := do
  let n := (← cs.mapM Text.hexValue?).foldl (fun n d => 16 * n + d) 0
  if cs ≠ [] ∧ Word.fits 32 n then some (.int n) else none

def number? (cs : List Char) : Option Setting :=
  match String.ofList cs with
  | "Infinity" => some (.float Binary64.infinity)
  | "-Infinity" => some (.float Binary64.infinity.negate)
  | "NaN" | "-NaN" => some (.float Binary64.nan)
  | _ =>
    match cs with
    | '0' :: 'x' :: ds | '0' :: 'X' :: ds => hexadecimal? ds
    | _ =>
      let (minus, unsigned) := Binary64.splitSign cs
      magnitude? minus unsigned

def isWordChar (c : Char) : Bool := c.isAlphanum || c = '.' || c = '+' || c = '-'

def word : Reader Setting := fun cs =>
  let w := cs.takeWhile isWordChar
  let v : Option Setting := match String.ofList w with
    | "null" => some .null
    | "true" => some (.bool true)
    | "false" => some (.bool false)
    | _ => number? w
  v.map (·, cs.drop w.length)

mutual

/-- A value and what may be skipped behind it; `fuel` bounds the values inside of it. -/
def value : Nat → Reader Setting
  | 0, _ => none
  | fuel + 1, cs =>
    match skip cs with
    | '[' :: cs => (items fuel [] (skip cs)).map fun (l, cs) => (.list l, skip cs)
    | '{' :: cs => (members fuel [] (skip cs)).map fun (es, cs) => (.table es, skip cs)
    | c :: cs =>
      if isQuote c then (quoted c (cs.length + 1) [] cs).map fun (s, cs) => (.text s, skip cs)
      else (word (c :: cs)).map fun (v, cs) => (v, skip cs)
    | [] => none

def items : Nat → List Setting → Reader (List Setting)
  | 0, _, _ => none
  | fuel + 1, before, cs =>
    match cs with
    | ']' :: cs => some (before.reverse, cs)
    | cs => do
      let (v, cs) ← value fuel cs
      match cs with
      | ',' :: cs => items fuel (v :: before) (skip cs)
      | ']' :: cs => some ((v :: before).reverse, cs)
      | _ => none

def members : Nat → List (String × Setting) → Reader (List (String × Setting))
  | 0, _, _ => none
  | fuel + 1, es, cs =>
    match cs with
    | '}' :: cs => some (es, cs)
    | cs => do
      let (n, cs) ← name cs
      match skip cs with
      | ':' :: cs =>
        let (v, cs) ← value fuel cs
        match cs with
        | ',' :: cs => members fuel (Members.put n v es) (skip cs)
        | '}' :: cs => some (Members.put n v es, cs)
        | _ => none
      | _ => none

end

/-- The entries of a JSON5 document. -/
def read? (s : String) : Option (List (String × Setting)) :=
  match value (s.length + 1) s.toList with
  | some (.table es, []) => some es
  | _ => none

end SourceRegistry.Json5
