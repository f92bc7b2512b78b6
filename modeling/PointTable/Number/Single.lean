import PointTable.Number.Double

/-!
# Single-precision patterns

The 32-bit pattern of a single-precision number: a sign bit, eight exponent bits and 23 fraction
bits. Reading a pattern widens it to a double exactly; writing rounds to the nearest pattern.
-/

namespace PointTable.Double

open Number

/-- The double that a 32-bit single-precision pattern denotes. -/
def ofSingleBits (bits : Nat) : Double :=
  let negative : Bool := bits / 0x80000000 % 2 == 1
  let exponent : Nat := bits / 0x800000 % 0x100
  let fraction : Nat := bits % 0x800000
  if exponent = 255 then
    if fraction = 0 then .infinite negative else .nan negative
  else if exponent = 0 then ofDyadic negative fraction (-149)
  else ofDyadic negative (fraction + 0x800000) (exponent - 150)

/-- The bit pattern of a canonical single-precision significand and exponent, without sign. -/
def singleMagnitude (significand : Nat) (exponent : Int) : Nat :=
  if significand < 0x800000 then significand
  else (exponent + 150).toNat * 0x800000 + (significand - 0x800000)

/-- The pattern of the single-precision number nearest to a double. -/
def toSingleBits : Double → Except ConversionFault Nat
  | .nan negative => .ok (0x80000000 * negative.toNat + 0x7FC00000)
  | .infinite negative => .ok (0x80000000 * negative.toNat + 0x7F800000)
  | .finite negative significand exponent _ =>
    let scaled := divideByPower 2 significand 1 (-exponent)
    let rounded := binary32.round scaled.1 scaled.2
    if binary32.Canonical rounded.1 rounded.2 then
      .ok (0x80000000 * negative.toNat + singleMagnitude rounded.1 rounded.2)
    else .error .singleOverflow

end PointTable.Double
