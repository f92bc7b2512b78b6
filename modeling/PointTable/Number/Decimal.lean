import PointTable.Number.Double

/-!
# Decimals

A decimal is `digits · 10 ^ exponent`. Reading rounds it to the nearest double. Writing goes two
ways: the fewest digits that read back as the number, the nearest of those, a tie to the even last
digit; or a fixed number of significant digits, rounded from the exact value.
-/

namespace PointTable

open Number

/-- A decimal number without sign. -/
structure Decimal where
  digits : Nat
  exponent : Int
  deriving DecidableEq, Repr

namespace Decimal

/-- How many decimal digits a natural is written with. -/
def length (n : Nat) : Nat :=
  (Nat.toDigits 10 n).length

/-- The exponent of the leading digit of a positive ratio: the ratio is at least `10` to this
power and below `10` to the next. -/
def leadingExponent (numerator denominator : Nat) : Int :=
  let shift : Int := (length numerator : Int) - length denominator
  let scaled := divideByPower 10 numerator denominator shift
  if scaled.2 ≤ scaled.1 then shift else shift - 1

/-- The double nearest to a decimal with a sign. Exponents far out of range are settled without
forming the power. -/
def toDouble (negative : Bool) (decimal : Decimal) : Double :=
  let reach : Int := decimal.exponent + length decimal.digits
  if decimal.digits = 0 || reach < -400 then Double.zero negative
  else if 400 < reach then .infinite negative
  else
    let scaled := divideByPower 10 decimal.digits 1 (-decimal.exponent)
    Double.ofRatio negative scaled.1 scaled.2

/-- The decimal of `count` digits that reads back as the double and is nearest to it, if one of
the two neighbours of the value on that grid reads back. -/
def ofGrid? (target : Double) (numerator denominator : Nat) (place : Int) : Option Decimal :=
  let scaled := divideByPower 10 numerator denominator place
  let below := scaled.1 / scaled.2
  let twice := 2 * (scaled.1 % scaled.2)
  let low : Decimal := ⟨below, place⟩
  let high : Decimal := ⟨below + 1, place⟩
  if low.toDouble false = target then
    if high.toDouble false = target &&
        (scaled.2 < twice || (scaled.2 = twice && below % 2 = 1)) then some high
    else some low
  else if high.toDouble false = target then some high
  else none

/-- The fewest digits that read back as the positive double `significand · 2 ^ exponent`. A
double needs at most seventeen; its full expansion is the answer if none of those fits. -/
def shortest (target : Double) (significand : Nat) (exponent : Int) : Decimal :=
  let scaled := divideByPower 2 significand 1 (-exponent)
  let leading := leadingExponent scaled.1 scaled.2
  match (List.range 17).findSome? fun (dropped : Nat) =>
      ofGrid? target scaled.1 scaled.2 (leading - dropped) with
  | some decimal => decimal
  | none =>
    if 0 ≤ exponent then ⟨scaled.1, 0⟩ else ⟨significand * Nat.pow 5 (-exponent).toNat, exponent⟩

/-- A positive ratio rounded to `count` significant digits, ties to even. -/
def rounded (count numerator denominator : Nat) : Decimal :=
  let place := leadingExponent numerator denominator - (count - 1 : Nat)
  let scaled := divideByPower 10 numerator denominator place
  ⟨roundQuotient scaled.1 scaled.2, place⟩

/-- Where a decimal is written without exponent, and whether a whole number keeps its point. -/
structure Style where
  positionalBelow : Int
  keepsPoint : Bool
  deriving DecidableEq, Repr

/-- The digits of a decimal without trailing zeros. -/
def significantDigits (decimal : Decimal) : List Char :=
  ((Nat.toDigits 10 decimal.digits).reverse.dropWhile (· = '0')).reverse

/-- The exponent of the first digit. -/
def leading (decimal : Decimal) : Int :=
  decimal.exponent + length decimal.digits - 1

/-- Digits with the point after the digit of exponent zero. -/
def positional (keepsPoint : Bool) (digits : List Char) (leading : Int) : List Char :=
  if leading < 0 then '0' :: '.' :: List.replicate (-leading - 1).toNat '0' ++ digits
  else
    let whole := leading.toNat + 1
    if digits.length ≤ whole then
      digits ++ List.replicate (whole - digits.length) '0'
        ++ (if keepsPoint then ['.', '0'] else [])
    else digits.take whole ++ '.' :: digits.drop whole

/-- Digits with the point after the first one, then the exponent with its sign and at least two
digits. -/
def scientific (digits : List Char) (leading : Int) : List Char :=
  let mantissa :=
    match digits with
    | first :: second :: rest => first :: '.' :: second :: rest
    | few => few
  let sign := if leading < 0 then '-' else '+'
  mantissa ++ 'e' :: sign :: (Nat.toDigits 10 leading.natAbs).leftpad 2 '0'

/-- The text of a positive decimal: positional from `10 ^ -4` up to the style's limit. -/
def text (style : Style) (decimal : Decimal) : List Char :=
  let digits := decimal.significantDigits
  let leading := decimal.leading
  if -4 ≤ leading && leading < style.positionalBelow then
    positional style.keepsPoint digits leading
  else scientific digits leading

end Decimal

namespace Double

/-- A sign in front of a text. -/
def withSign (negative : Bool) (chars : List Char) : String :=
  String.ofList (if negative then '-' :: chars else chars)

/-- The shortest text that reads back as the number. Whole numbers keep a point, and exponents
stand from `10 ^ 16` on and below `10 ^ -4`. -/
def text : Double → String
  | .nan _ => "nan"
  | .infinite negative => withSign negative ['i', 'n', 'f']
  | .finite negative significand exponent canonical =>
    if significand = 0 then withSign negative ['0', '.', '0']
    else
      withSign negative
        ((Decimal.shortest (.finite false significand exponent canonical) significand exponent).text
          ⟨16, true⟩)

/-- The number to `count` significant digits, without trailing zeros; exponents stand from
`10 ^ count` on and below `10 ^ -4`. -/
def generalText (count : Nat) : Double → String
  | .nan _ => "nan"
  | .infinite negative => withSign negative ['i', 'n', 'f']
  | .finite negative significand exponent _ =>
    if significand = 0 then withSign negative ['0']
    else
      let scaled := divideByPower 2 significand 1 (-exponent)
      withSign negative ((Decimal.rounded count scaled.1 scaled.2).text ⟨count, false⟩)

end Double

end PointTable
