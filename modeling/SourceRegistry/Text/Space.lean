import SourceRegistry.Text.Range

/-!
# White space

`isSpace` is the property `White_Space`: twenty-five characters. `trim` drops them at both ends
of a text and keeps them inside; a text is blank when nothing is left.
-/

namespace SourceRegistry.Text

/-- The property `White_Space`. -/
def spaceRanges : List CodeRange :=
  [(0x9, 0xD), (0x20, 0x20), (0x85, 0x85), (0xA0, 0xA0), (0x1680, 0x1680), (0x2000, 0x200A),
   (0x2028, 0x2029), (0x202F, 0x202F), (0x205F, 0x205F), (0x3000, 0x3000)]

def isSpace (c : Char) : Bool := inRanges spaceRanges c

def trimStartChars (cs : List Char) : List Char := cs.dropWhile isSpace

def trimEndChars (cs : List Char) : List Char := (cs.reverse.dropWhile isSpace).reverse

def trimChars (cs : List Char) : List Char := trimEndChars (trimStartChars cs)

/-- The text without the white space around it. -/
def trim (s : String) : String := String.ofList (trimChars s.toList)

@[simp] theorem toList_trim (s : String) : (trim s).toList = trimChars s.toList := by
  simp [trim]

/-- The text without leading copies of `c`. -/
def trimStartOf (c : Char) (s : String) : String := String.ofList (s.toList.dropWhile (· == c))

/-- The text without trailing copies of `c`. -/
def trimEndOf (c : Char) (s : String) : String :=
  String.ofList (s.toList.reverse.dropWhile (· == c)).reverse

/-- The pieces between the copies of `c`: one more than there are copies. -/
def splitChars (c : Char) : List Char → List (List Char)
  | [] => [[]]
  | d :: rest =>
    if d = c then [] :: splitChars c rest
    else match splitChars c rest with
      | piece :: pieces => (d :: piece) :: pieces
      | [] => [[d]]

def split (c : Char) (s : String) : List String := (splitChars c s.toList).map String.ofList

end SourceRegistry.Text
