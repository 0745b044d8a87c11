/-!
# Tokens

The characters of methods, header names and media types, and those of header values.
-/

namespace SourceRegistry.Http

def tokenMarks : List Char :=
  ['!', '#', '$', '%', '&', '\x27', '*', '+', '-', '.', '^', '_', '\x60', '|', '~']

def isTokenChar (c : Char) : Bool := c.isAlphanum || tokenMarks.contains c

def isToken (s : String) : Bool := s ≠ "" && s.toList.all isTokenChar

/-- Header values hold no control characters but the tab. -/
def isValueChar (c : Char) : Bool := c = '\t' || (0x20 ≤ c.toNat && c.toNat ≠ 0x7F)

def isHeaderValue (s : String) : Bool := s.toList.all isValueChar

/-- Visible characters of the basic alphabet, the space and the tab. -/
def isPlainChar (c : Char) : Bool := c = '\t' || (0x20 ≤ c.toNat && c.toNat < 0x7F)

/-- Whether a header value is plain text. -/
def isPlain (s : String) : Bool := s.toList.all isPlainChar

end SourceRegistry.Http
