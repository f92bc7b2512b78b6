import PointTable.Text.CodeRange

/-!
# Digits

Every script with positional decimal digits has ten of them in a row, so a digit's value is its
distance from the script's zero. Superscripts, circled numbers and the like are digits too, but
have no place value: an address made of them looks numeric and still names no register.
-/

namespace PointTable.Text

/-- The code points of the zeros of all decimal scripts. -/
def decimalZeros : List Nat := [
  48, 1632, 1776, 1984, 2406, 2534, 2662, 2790, 2918, 3046, 3174, 3302, 3430, 3558, 3664, 3792,
  3872, 4160, 4240, 6112, 6160, 6470, 6608, 6784, 6800, 6992, 7088, 7232, 7248, 42528, 43216,
  43264, 43472, 43504, 43600, 44016, 65296, 66720, 68912, 69734, 69872, 69942, 70096, 70384,
  70736, 70864, 71248, 71360, 71472, 71904, 72016, 72784, 73040, 73120, 92768, 92864, 93008,
  120782, 120792, 120802, 120812, 120822, 123200, 123632, 125264, 130032]

/-- Digits without place value: superscripts, subscripts, circled and other numbered marks. -/
def unplacedDigitRanges : List (Nat × Nat) := [
  (178, 179), (185, 185), (4969, 4977), (6618, 6618), (8304, 8304), (8308, 8313), (8320, 8329),
  (9312, 9320), (9332, 9340), (9352, 9360), (9450, 9450), (9461, 9469), (9471, 9471),
  (10102, 10110), (10112, 10120), (10122, 10130), (68160, 68163), (69216, 69224),
  (69714, 69722), (127232, 127242)]

/-- The value of a decimal digit of any script. -/
def decimalValue? (c : Char) : Option Nat :=
  (decimalZeros.find? fun start => start ≤ c.toNat && c.toNat ≤ start + 9).map (c.toNat - ·)

/-- The character is a digit, with or without place value. -/
def isDigit (c : Char) : Bool :=
  (decimalValue? c).isSome || inRanges unplacedDigitRanges c

/-- A text is numeric when it has a character and all its characters are digits. -/
def isNumeric (text : String) : Bool :=
  !text.isEmpty && text.toList.all isDigit

end PointTable.Text
