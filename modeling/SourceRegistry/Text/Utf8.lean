/-!
# UTF-8

`Symbol.ofBytes` reads bytes as characters and keeps every byte that belongs to none, so that
text with damaged places still has a beginning, an end and a length in bytes. `decode?` accepts
only bytes without such places.
-/

namespace SourceRegistry.Text

/-- A character, or a byte that is part of no character. -/
inductive Symbol where
  | char (c : Char)
  | stray (byte : UInt8)
  deriving DecidableEq, Repr

namespace Symbol

/-- The number of bytes that a symbol takes. -/
def width : Symbol → Nat
  | .char c => c.utf8Size
  | .stray _ => 1

def char? : Symbol → Option Char
  | .char c => some c
  | .stray _ => none

end Symbol

/-- The symbols of a well-formed text. -/
def symbols (s : String) : List Symbol := s.toList.map .char

/-- The bytes that a list of symbols takes. -/
def byteWidth (s : List Symbol) : Nat := s.foldl (fun n c => n + c.width) 0

/-- The low six bits of a continuation byte. -/
def continuation? (b : UInt8) : Option Nat :=
  if 0x80 ≤ b ∧ b < 0xC0 then some (b.toNat - 0x80) else none

/-- The number that `n` continuation bytes add to `acc`. -/
def continue? : Nat → Nat → List UInt8 → Option Nat
  | 0, acc, _ => some acc
  | _ + 1, _, [] => none
  | n + 1, acc, b :: rest => (continuation? b).bind fun low => continue? n (acc * 64 + low) rest

/-- The character that the bytes start with, written in its only form: neither a surrogate, nor
with more bytes than it needs. -/
def firstChar? : List UInt8 → Option Char
  | [] => none
  | b :: rest =>
    let lead := b.toNat
    let found : Option (Nat × Nat) :=
      if lead < 0x80 then some (lead, 0)
      else if 0xC2 ≤ lead ∧ lead < 0xE0 then (continue? 1 (lead - 0xC0) rest).map (·, 0x80)
      else if 0xE0 ≤ lead ∧ lead < 0xF0 then (continue? 2 (lead - 0xE0) rest).map (·, 0x800)
      else if 0xF0 ≤ lead ∧ lead < 0xF5 then (continue? 3 (lead - 0xF0) rest).map (·, 0x10000)
      else none
    match found with
    | some (n, least) => if least ≤ n ∧ n.isValidChar then some (Char.ofNat n) else none
    | none => none

/-- Reads symbols; `skip` bytes still belong to the character read last. -/
def Symbol.readBytes : Nat → List UInt8 → List Symbol
  | _, [] => []
  | skip + 1, _ :: rest => readBytes skip rest
  | 0, b :: rest =>
    match firstChar? (b :: rest) with
    | some c => .char c :: readBytes (c.utf8Size - 1) rest
    | none => .stray b :: readBytes 0 rest

def Symbol.ofBytes (bytes : List UInt8) : List Symbol := readBytes 0 bytes

/-- The text of bytes that are well-formed. -/
def decode? (bytes : List UInt8) : Option String :=
  ((Symbol.ofBytes bytes).mapM Symbol.char?).map String.ofList

def encode (s : String) : List UInt8 := s.toList.flatMap String.utf8EncodeChar

end SourceRegistry.Text
