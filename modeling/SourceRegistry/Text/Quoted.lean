import SourceRegistry.Text.Printable

/-!
# Quoted text

`quoted` writes a text between double quotes so that every character of it can be seen: tab,
carriage return, line feed and the null character have an escape of their own, quotes and
backslashes are escaped by a backslash, and what has no visible form is written as its number.
-/

namespace SourceRegistry.Text

/-- Hexadecimal digits, lower case, as few as possible. -/
def hexDigits (n : Nat) : List Char := Nat.toDigits 16 n

def quotedChar (c : Char) : List Char :=
  if c = '\t' then ['\\', 't']
  else if c = '\r' then ['\\', 'r']
  else if c = '\n' then ['\\', 'n']
  else if c = '\x00' then ['\\', '0']
  else if c = '\x22' then ['\\', '\x22']
  else if c = '\\' then ['\\', '\\']
  else if isPrintable c then [c]
  else ['\\', 'u', '{'] ++ hexDigits c.toNat ++ ['}']

def quoted (s : String) : String :=
  String.ofList ('\x22' :: s.toList.flatMap quotedChar ++ ['\x22'])

end SourceRegistry.Text
