import SourceRegistry.Text.Lowercase

/-!
# Request targets

What a request asks for: a path with an optional query, the same behind a scheme and an
authority, an authority alone, or `*`. A fragment is dropped when a target is read.
-/

namespace SourceRegistry.Http

structure Target where
  scheme : Option String
  authority : Option String
  /-- The path, empty in a target that is only an authority. -/
  path : String
  query : Option String
  deriving DecidableEq, Repr

namespace Target

/-- The text of a target. -/
def text (t : Target) : String :=
  (t.scheme.map (· ++ "://")).getD "" ++ t.authority.getD "" ++ t.path
    ++ (t.query.map ("?" ++ ·)).getD ""

/-- Whether a code point may stand in paths and queries alike. -/
def isCommon (n : Nat) : Bool :=
  n = 0x21 || (0x24 ≤ n && n ≤ 0x3B) || n = 0x3D || (0x40 ≤ n && n ≤ 0x5F)
    || (0x61 ≤ n && n ≤ 0x7A) || n = 0x7C || 0x7E ≤ n

def isPathChar (c : Char) : Bool :=
  isCommon c.toNat || c = '\x22' || c = '{' || c = '}'

def isQueryChar (c : Char) : Bool :=
  isCommon c.toNat || c = '?' || c = '\x60' || c = '{' || c = '}'

/-- A path and a query up to the fragment. -/
def ofPathChars? (cs : List Char) : Option (String × Option String) :=
  let path := cs.takeWhile isPathChar
  match cs.dropWhile isPathChar with
  | [] => some (String.ofList path, none)
  | '#' :: _ => some (String.ofList path, none)
  | '?' :: rest =>
    match rest.dropWhile isQueryChar with
    | [] => some (String.ofList path, some (String.ofList rest))
    | '#' :: _ => some (String.ofList path, some (String.ofList (rest.takeWhile isQueryChar)))
    | _ => none
  | _ => none

def authorityMarks : List Char :=
  ['!', '$', '&', '\x27', '(', ')', '*', '+', ',', '-', '.', ':', ';', '=', '@', '[', ']', '_', '~',
    '%']

def isAuthorityChar (c : Char) : Bool := c.isAlphanum || authorityMarks.contains c

/-- What has been seen of an authority: colons and percent signs since the last bracket or `@`,
and brackets. -/
structure AuthorityScan where
  colons : Nat := 0
  percent : Bool := false
  opened : Bool := false
  closed : Bool := false
  deriving DecidableEq, Repr

def scanAuthority : AuthorityScan → List Char → Option AuthorityScan
  | a, [] => some a
  | a, c :: cs =>
    if c = ':' then
      if 8 ≤ a.colons then none else scanAuthority { a with colons := a.colons + 1 } cs
    else if c = '[' then
      if a.percent || a.opened then none else scanAuthority { a with opened := true } cs
    else if c = ']' then
      if !a.opened || a.closed then none
      else scanAuthority { a with closed := true, colons := 0, percent := false } cs
    else if c = '@' then scanAuthority { a with colons := 0, percent := false } cs
    else if c = '%' then scanAuthority { a with percent := true } cs
    else scanAuthority a cs

def isAuthority (cs : List Char) : Bool :=
  match scanAuthority {} cs with
  | none => false
  | some a =>
    a.opened == a.closed && a.colons ≤ 1 && cs.getLast? ≠ some '@' && !a.percent

/-- The authority at the front of a text, up to a path, query or fragment. -/
def splitAuthority? (cs : List Char) : Option (List Char × List Char) :=
  let front := cs.takeWhile isAuthorityChar
  let rest := cs.dropWhile isAuthorityChar
  let ends := match rest with
    | [] => true
    | c :: _ => c = '/' || c = '?' || c = '#'
  if ends && isAuthority front then some (front, rest) else none

def isSchemeChar (c : Char) : Bool :=
  c.isAlphanum || c = '+' || c = '-' || c = '.' || c = '~'

/-- The longest scheme, in characters. -/
def maxSchemeLength : Nat := 64

inductive SchemeScan where
  | absent
  | tooLong
  | found (scheme : List Char) (rest : List Char)
  deriving DecidableEq, Repr

/-- The scheme at the front of a text; the two schemes of the web are written in lower case. -/
def splitScheme (cs : List Char) : SchemeScan :=
  let scheme := cs.takeWhile isSchemeChar
  match cs.dropWhile isSchemeChar with
  | ':' :: '/' :: '/' :: rest =>
    let lower := scheme.map Char.toLower
    if lower = ['h', 't', 't', 'p'] ∨ lower = ['h', 't', 't', 'p', 's'] then .found lower rest
    else if maxSchemeLength < scheme.length then .tooLong
    else .found scheme rest
  | _ => .absent

/-- The longest target, in bytes. -/
def maxLength : Nat := 65534

/-- A target with a scheme, whose authority must not be empty. -/
def ofAbsolute? (scheme rest : List Char) : Option Target := do
  let (authority, rest) ← splitAuthority? rest
  if authority.isEmpty then none
  let (path, query) ← ofPathChars? rest
  some ⟨some (String.ofList scheme), some (String.ofList authority),
    if path = "" then "/" else path, query⟩

/-- A target that is an authority and nothing else. -/
def ofAuthority? (cs : List Char) : Option Target :=
  match splitAuthority? cs with
  | some (authority, []) => some ⟨none, some (String.ofList authority), "", none⟩
  | _ => none

def ofChars? (cs : List Char) : Option Target :=
  match cs with
  | [] => none
  | ['*'] => some ⟨none, none, "*", none⟩
  | '/' :: _ => (ofPathChars? cs).map fun (path, query) => ⟨none, none, path, query⟩
  | _ =>
    match splitScheme cs with
    | .absent => ofAuthority? cs
    | .tooLong => none
    | .found scheme rest => ofAbsolute? scheme rest

def ofString? (s : String) : Option Target :=
  if s.utf8ByteSize ≤ maxLength then ofChars? s.toList else none

end Target

end SourceRegistry.Http
