import PointTable.Number.Literal

/-!
# Integers on the command line

An option takes an integer in ASCII digits with an optional sign. Blanks around it and a fraction
that is zero are ignored, and single underscores may stand before digits. Leading zeros, with
underscores among them, are ignored unless the number is negative, where none may stand.
-/

namespace PointTable.CommandLine

open Text Number

/-- A mark that is dropped among leading zeros. -/
def isLeadingMark (c : Char) : Bool :=
  c = '0' || c = '_'

/-- Drop leading zeros and the underscores among them. The last mark is kept unless another digit
follows, so that zero keeps a digit. -/
def dropLeadingZeros (chars : List Char) : List Char :=
  match chars with
  | '0' :: _ =>
    match chars.dropWhile isLeadingMark with
    | c :: rest =>
      if c.isDigit then c :: rest
      else (chars.takeWhile isLeadingMark).getLast?.toList ++ c :: rest
    | [] => chars.getLast?.toList
  | _ => chars

/-- Drop a fraction that holds zeros only, and at least one. -/
def dropZeroFraction (chars : List Char) : List Char :=
  match chars.dropWhile (· ≠ '.') with
  | _ :: fraction =>
    if fraction.isEmpty || !(fraction.all (· = '0')) then chars else chars.takeWhile (· ≠ '.')
  | [] => chars

/-- The values of ASCII digits, any of which an underscore may precede. -/
def typedDigits? : List Char → Option (List Nat)
  | [] => some []
  | c :: rest =>
    if c = '_' then
      if rest.head?.any Char.isDigit then typedDigits? rest else none
    else if c.isDigit then (typedDigits? rest).map fun digits => (c.toNat - '0'.toNat) :: digits
    else none

/-- The value of digits, of which there is at least one and not more than a number may have. -/
def boundedValue? (digits : List Nat) : Option Nat :=
  if digits.isEmpty || digitLimit < digits.length then none else some (ofDigits 10 digits)

/-- The magnitude of an integer that is not negative. -/
def typedMagnitude? (chars : List Char) : Option Nat :=
  if chars.head?.any Char.isDigit then
    (typedDigits? (dropZeroFraction (dropLeadingZeros chars))).bind boundedValue?
  else none

/-- The magnitude of an integer behind a minus sign. -/
def negatedMagnitude? (chars : List Char) : Option Nat := do
  let digits ← typedDigits? (dropZeroFraction chars)
  if digits.head? = some 0 && digits.length ≠ 1 then none else boundedValue? digits

/-- An integer as it is typed. -/
def typedInteger? (typed : String) : Option Int :=
  match trimBy isNumberBlank typed.toList with
  | '-' :: rest => (negatedMagnitude? rest).map fun value => -(value : Int)
  | '+' :: rest => (typedMagnitude? rest).map Int.ofNat
  | chars => (typedMagnitude? chars).map Int.ofNat

end PointTable.CommandLine
