import SourceRegistry.Http.Token

/-!
# Media types

A media type is a type and a subtype joined by a slash, with parameters behind semicolons. A
subtype may name the format that it is built on behind its last plus sign.
-/

namespace SourceRegistry.Http

structure MediaType where
  type : List Char
  subtype : List Char
  suffix : Option (List Char)
  deriving DecidableEq, Repr

namespace MediaType

/-- The characters of types, subtypes and parameters. -/
def isNameChar (c : Char) : Bool := isTokenChar c && c ≠ '*'

/-- The characters between quotes. -/
def isQuotedChar (c : Char) : Bool := 0x1F < c.toNat && c.toNat ≠ 0x7F

inductive ParameterMode where
  /-- In front of a name. -/
  | start
  | name
  /-- Behind an equals sign. -/
  | open_
  | value
  /-- Behind a quote. -/
  | quote
  | quoted
  /-- Behind the quote that ends a value. -/
  | behind
  deriving DecidableEq, Repr

/-- Whether parameters are well-formed; the last may be missing, but not its value. -/
def parametersOk : ParameterMode → List Char → Bool
  | .start, [] | .open_, [] | .value, [] | .behind, [] => true
  | .name, [] | .quote, [] | .quoted, [] => false
  | .start, c :: cs =>
    if c = ' ' then parametersOk .start cs else isNameChar c && parametersOk .name cs
  | .name, c :: cs =>
    if c = '=' then parametersOk .open_ cs else isNameChar c && parametersOk .name cs
  | .open_, c :: cs =>
    if c = '\x22' then parametersOk .quote cs else isNameChar c && parametersOk .value cs
  | .value, c :: cs =>
    if c = ';' then parametersOk .start cs else isNameChar c && parametersOk .value cs
  | .quote, c :: cs => isQuotedChar c && parametersOk .quoted cs
  | .quoted, c :: cs =>
    if c = '\x22' then parametersOk .behind cs else isQuotedChar c && parametersOk .quoted cs
  | .behind, c :: cs =>
    if c = ';' then parametersOk .start cs else c = ' ' && parametersOk .behind cs

/-- The part of a list behind the last element with a property, and the part before it. -/
def splitLast (p : α → Bool) (l : List α) : Option (List α × List α) :=
  let behind := (l.reverse.takeWhile (!p ·)).reverse
  if behind.length < l.length then some (l.take (l.length - behind.length - 1), behind) else none

/-- The subtype and the suffix; a plus sign in front belongs to the subtype. -/
def ofSubtype (type : List Char) : List Char → MediaType
  | [] => ⟨type, [], none⟩
  | c :: cs =>
    match splitLast (· = '+') cs with
    | some (before, behind) => ⟨type, c :: before, some behind⟩
    | none => ⟨type, c :: cs, none⟩

def ofChars? (cs : List Char) : Option MediaType :=
  let type := cs.takeWhile isNameChar
  match type, cs.dropWhile isNameChar with
  | _ :: _, '/' :: rest =>
    let subtype := rest.takeWhile isNameChar
    match subtype, rest.dropWhile isNameChar with
    | _, [] => some (ofSubtype type subtype)
    | _ :: _, ';' :: parameters =>
      if parametersOk .start parameters then some (ofSubtype type subtype) else none
    | _, _ => none
  | _, _ => none

def application : List Char := ['a', 'p', 'p', 'l', 'i', 'c', 'a', 't', 'i', 'o', 'n']

def json : List Char := ['j', 's', 'o', 'n']

/-- Whether a media type is JSON, or built on it. -/
def isJson (m : MediaType) : Bool :=
  m.type.map Char.toLower = application
    && (m.subtype.map Char.toLower = json || (m.suffix.map (·.map Char.toLower)) = some json)

end MediaType

/-- Whether the value of a content type announces JSON. -/
def announcesJson (value : String) : Bool :=
  isPlain value && ((MediaType.ofChars? value.toList).map (·.isJson)).getD false

end SourceRegistry.Http
