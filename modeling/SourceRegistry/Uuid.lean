import SourceRegistry.Json.Decoder
import SourceRegistry.Text.Space

/-!
# UUIDs

A UUID is thirty-two hexadecimal digits. It has one written form, five groups joined by hyphens,
and is read from four: the digits alone, the written form, that form in braces, and that form
behind `urn:uuid:`.
-/

namespace SourceRegistry

structure Uuid where
  digits : List (Fin 16)
  length_digits : digits.length = 32
  deriving DecidableEq, Repr

namespace Uuid

def nil : Uuid := ⟨List.replicate 32 0, by decide⟩

/-- The digit that tells how the UUID was made. -/
def version (u : Uuid) : Fin 16 := u.digits.get ⟨12, by have := u.length_digits; omega⟩

def digitChar (d : Fin 16) : Char := Text.hexDigit d.val

/-- The lengths of the groups between the hyphens. -/
def groupLengths : List Nat := [8, 4, 4, 4, 12]

/-- Cuts a list into groups of the given lengths. -/
def groups : List Nat → List α → List (List α)
  | [], _ => []
  | n :: ns, l => l.take n :: groups ns (l.drop n)

/-- Joins groups by hyphens. -/
def hyphenated : List (List Char) → List Char
  | [] => []
  | [g] => g
  | g :: gs => g ++ '-' :: hyphenated gs

def chars (u : Uuid) : List Char := hyphenated (groups groupLengths (u.digits.map digitChar))

def text (u : Uuid) : String := String.ofList u.chars

def digit? (c : Char) : Option (Fin 16) :=
  (Text.hexValue? c).bind fun n => if h : n < 16 then some ⟨n, h⟩ else none

def ofDigits? (cs : List Char) : Option Uuid :=
  (cs.mapM digit?).bind fun ds => if h : ds.length = 32 then some ⟨ds, h⟩ else none

/-- The digits of a hyphenated form: groups of the right lengths with a hyphen after each but the
last. -/
def dehyphenate? : List Nat → List Char → Option (List Char)
  | [], cs => if cs.isEmpty then some [] else none
  | [n], cs => if cs.length = n then some cs else none
  | n :: ns, cs =>
    match cs.drop n with
    | '-' :: rest => (dehyphenate? ns rest).map (cs.take n ++ ·)
    | _ => none

def ofHyphenated? (cs : List Char) : Option Uuid :=
  (dehyphenate? groupLengths cs).bind ofDigits?

/-- What stands between braces. -/
def unbraced? : List Char → Option (List Char)
  | '{' :: rest => if rest.getLast? = some '}' then some rest.dropLast else none
  | _ => none

def urn : List Char := ['u', 'r', 'n', ':', 'u', 'u', 'i', 'd', ':']

/-- What stands behind `urn:uuid:` in any letter case. -/
def unnamed? (cs : List Char) : Option (List Char) :=
  if (cs.take 9).map Char.toLower = urn then some (cs.drop 9) else none

def ofChars? (cs : List Char) : Option Uuid :=
  ofDigits? cs
    <|> ofHyphenated? cs
    <|> (unbraced? cs).bind ofHyphenated?
    <|> (unnamed? cs).bind ofHyphenated?

def ofString? (s : String) : Option Uuid := ofChars? s.toList

/-- Why a text is no UUID. -/
inductive Fault where
  | character (c : Char) (at_ : Nat)
  | length (bytes : Nat)
  | groupCount (n : Nat)
  | groupLength (group : Nat) (expected : Nat) (found : Nat)
  deriving DecidableEq, Repr

def Fault.text : Fault → String
  | .character c at_ =>
    "invalid character: found \x60" ++ c.toString ++ "\x60 at " ++ toString at_
  | .length n => "invalid length: found " ++ toString n
  | .groupCount n => "invalid group count: expected 5, found " ++ toString n
  | .groupLength group expected found =>
    "invalid group length in group " ++ toString group ++ ": expected " ++ toString expected
      ++ ", found " ++ toString found

/-- The characters of a text with the byte each begins at. -/
def withOffsets : Nat → List Char → List (Char × Nat)
  | _, [] => []
  | n, c :: cs => (c, n) :: withOffsets (n + c.utf8Size) cs

/-- The first group, from the left, whose hyphen is not where it should be; the last one
otherwise, which reaches to `total`. -/
def badGroup (total : Nat) : Nat → Nat → List Nat → List Nat → Fault
  | group, start, n :: ns, hyphen :: hyphens =>
    if hyphen = start + n then badGroup total (group + 1) (start + n + 1) ns hyphens
    else .groupLength group n (hyphen - start)
  | group, start, n :: _, [] => .groupLength group n (total - start)
  | group, start, [], _ => .groupLength group 0 (total - start)

/-- The bytes of the longest form, that behind `urn:uuid:`. -/
def maxBytes : Nat := 45

/-- The fault of a text that is no UUID. Places are counted behind a brace or a name. -/
def fault (cs : List Char) : Fault :=
  let (inner, isPlain) :=
    match unbraced? cs, unnamed? cs with
    | some inner, _ => (inner, false)
    | _, some inner => (inner, false)
    | _, _ => (cs, true)
  let total := (String.ofList cs).utf8ByteSize
  let placed := withOffsets 0 inner
  let hyphens := (placed.filter (·.1 = '-')).map (·.2)
  if maxBytes < total then .length total
  else
    match placed.find? (fun c => c.1 ≠ '-' ∧ (digit? c.1).isNone) with
    | some (c, n) => .character c n
    | none =>
      if hyphens.isEmpty && isPlain then .length total
      else if hyphens.length ≠ 4 then .groupCount (hyphens.length + 1)
      else badGroup total 0 0 groupLengths hyphens

/-- Reads a text that is a UUID and nothing else. -/
def decode (s : String) : Except String Uuid :=
  match ofString? s with
  | some u => .ok u
  | none => .error ("UUID parsing failed: " ++ (fault s.toList).text)

def decoder : Json.Decoder Uuid := .parsed "a formatted UUID string" decode

end Uuid

end SourceRegistry
