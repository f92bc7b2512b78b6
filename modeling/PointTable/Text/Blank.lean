import PointTable.Text.CodeRange

/-!
# Blank characters

The characters that are trimmed from the ends of cells, names and numbers: the Unicode white space
characters together with the four information separators.
-/

namespace PointTable.Text

/-- The code points of blank characters. -/
def blankRanges : List (Nat × Nat) := [
  (9, 13), (28, 32), (133, 133), (160, 160), (5760, 5760), (8192, 8202), (8232, 8233),
  (8239, 8239), (8287, 8287), (12288, 12288)]

/-- The character counts as blank when text is trimmed. -/
def isBlank (c : Char) : Bool :=
  inRanges blankRanges c

/-- The blanks a number may stand between: all but the information separators. -/
def isNumberBlank (c : Char) : Bool :=
  isBlank c && !(28 ≤ c.toNat && c.toNat ≤ 31)

/-- Drop the characters of a class from both ends. -/
def trimBy (drops : Char → Bool) (chars : List Char) : List Char :=
  ((chars.dropWhile drops).reverse.dropWhile drops).reverse

/-- Drop the blanks from both ends of a text. -/
def trim (text : String) : String :=
  String.ofList (trimBy isBlank text.toList)

end PointTable.Text
