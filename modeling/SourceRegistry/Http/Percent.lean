import SourceRegistry.Text.Hex
import SourceRegistry.Text.Utf8

/-!
# Percent-encoding

A percent sign and two hexadecimal digits stand for a byte, everything else for itself, also a
percent sign without digits.
-/

namespace SourceRegistry.Http.Percent

/-- The byte of two hexadecimal digits. -/
def byte? (a b : Char) : Option UInt8 := do
  some (UInt8.ofNat (16 * (← Text.hexValue? a) + (← Text.hexValue? b)))

/-- The bytes of an encoded text; `skip` characters belong to the byte decoded last. -/
def bytesFrom : Nat → List Char → List UInt8
  | _, [] => []
  | skip + 1, _ :: cs => bytesFrom skip cs
  | 0, c :: cs =>
    match c, cs with
    | '%', a :: b :: _ =>
      match byte? a b with
      | some n => n :: bytesFrom 2 cs
      | none => String.utf8EncodeChar c ++ bytesFrom 0 cs
    | _, _ => String.utf8EncodeChar c ++ bytesFrom 0 cs

/-- The text that is encoded, if its bytes make one. -/
def decode? (s : String) : Option String := Text.decode? (bytesFrom 0 s.toList)

end SourceRegistry.Http.Percent
