import SourceRegistry.Json.Basic
import SourceRegistry.Number.Shortest
import SourceRegistry.Text.Hex

/-!
# Written JSON

`Json.text` writes a value without spaces, the members of an object in their order. In strings
only the quote, the backslash and the control characters below the space are escaped.
-/

namespace SourceRegistry.Json

/-- Numbers are positional when the leading digit stands for 10⁻⁵ to 10¹⁵. -/
def numberStyle : DecimalStyle := ⟨some (-5), some 15, true⟩

def Number.text : Number → String
  | .whole n => toString n
  | .float x => numberStyle.write x

def escapeChar (c : Char) : List Char :=
  if c = '\x22' then ['\\', '\x22']
  else if c = '\\' then ['\\', '\\']
  else if c = '\x08' then ['\\', 'b']
  else if c = '\x0c' then ['\\', 'f']
  else if c = '\n' then ['\\', 'n']
  else if c = '\r' then ['\\', 'r']
  else if c = '\t' then ['\\', 't']
  else if c.toNat < 0x20 then
    ['\\', 'u', '0', '0', Text.hexDigit (c.toNat / 16), Text.hexDigit (c.toNat % 16)]
  else [c]

def stringChars (s : String) : List Char :=
  '\x22' :: s.toList.flatMap escapeChar ++ ['\x22']

/-- The members of a list with a separator between them. -/
def separated : List (List Char) → List Char
  | [] => []
  | [one] => one
  | one :: rest => one ++ ',' :: separated rest

def memberChars (name : String) (value : List Char) : List Char := stringChars name ++ ':' :: value

mutual

def chars : Json → List Char
  | .null => ['n', 'u', 'l', 'l']
  | .bool true => ['t', 'r', 'u', 'e']
  | .bool false => ['f', 'a', 'l', 's', 'e']
  | .number n => n.text.toList
  | .string s => stringChars s
  | .array items => '[' :: separated (itemChars items) ++ [']']
  | .object members => '{' :: separated (membersChars members) ++ ['}']

def itemChars : List Json → List (List Char)
  | [] => []
  | item :: rest => chars item :: itemChars rest

def membersChars : List (String × Json) → List (List Char)
  | [] => []
  | (name, value) :: rest => memberChars name (chars value) :: membersChars rest

end

def text (j : Json) : String := String.ofList (chars j)

end SourceRegistry.Json
