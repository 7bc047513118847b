import SmartCollections.Text.Ranges

/-!
Blank characters: the `White_Space` property of the Unicode standard. Text is trimmed at both ends
of blanks, and a name made of blanks alone is a blank name.
-/
namespace SmartCollections.Text

/-- The code points with the property `White_Space`. -/
def blankRanges : List (Nat × Nat) := [
  (0x0009, 0x000D), (0x0020, 0x0020), (0x0085, 0x0085), (0x00A0, 0x00A0), (0x1680, 0x1680),
  (0x2000, 0x200A), (0x2028, 0x2029), (0x202F, 0x202F), (0x205F, 0x205F), (0x3000, 0x3000)]

/-- A character that separates words and is trimmed from the ends of a text. -/
def isBlank (c : Char) : Bool := covers blankRanges c

def allBlank (text : String) : Bool := text.toList.all isBlank

def trim (text : List Char) : List Char :=
  ((text.dropWhile isBlank).reverse.dropWhile isBlank).reverse

end SmartCollections.Text
