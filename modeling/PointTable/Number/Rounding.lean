/-!
# Rounding to a binary format

A binary format holds `significand · 2 ^ exponent` with a bounded significand. Every ratio of
naturals has a nearest value on the format's grid; a tie goes to the even significand. All of it is
exact arithmetic on naturals, so nothing here depends on a machine's floating point.
-/

namespace PointTable.Number

/-- The parameters of a binary floating-point format. -/
structure BinaryFormat where
  precision : Nat
  leastExponent : Int
  greatestExponent : Int
  deriving DecidableEq, Repr

def binary64 : BinaryFormat := ⟨53, -1074, 971⟩

def binary32 : BinaryFormat := ⟨24, -149, 104⟩

/-- The one way a format writes a value: a full significand, or the least exponent. -/
def BinaryFormat.Canonical (format : BinaryFormat) (significand : Nat) (exponent : Int) : Prop :=
  significand < Nat.pow 2 format.precision ∧
    format.leastExponent ≤ exponent ∧ exponent ≤ format.greatestExponent ∧
    (Nat.pow 2 (format.precision - 1) ≤ significand ∨ exponent = format.leastExponent)

instance (format : BinaryFormat) (significand : Nat) (exponent : Int) :
    Decidable (format.Canonical significand exponent) := by
  unfold BinaryFormat.Canonical
  infer_instance

/-- The quotient of two naturals, rounded to the nearest natural, ties to even. -/
def roundQuotient (numerator denominator : Nat) : Nat :=
  let quotient := numerator / denominator
  let remainder := numerator % denominator
  if 2 * remainder < denominator then quotient
  else if denominator < 2 * remainder then quotient + 1
  else if quotient % 2 = 0 then quotient
  else quotient + 1

/-- The ratio divided by `base ^ exponent`, again as a ratio of naturals. -/
def divideByPower (base numerator denominator : Nat) (exponent : Int) : Nat × Nat :=
  if 0 ≤ exponent then (numerator, denominator * Nat.pow base exponent.toNat)
  else (numerator * Nat.pow base (-exponent).toNat, denominator)

/-- The exponent at which a positive ratio has a significand of full precision, or the least one
where the ratio is too small for that. -/
def BinaryFormat.exponentOf (format : BinaryFormat) (numerator denominator : Nat) : Int :=
  let estimate : Int := (numerator.log2 : Int) - denominator.log2 - format.precision
  let scaled := divideByPower 2 numerator denominator estimate
  let fits := scaled.1 / scaled.2 < Nat.pow 2 format.precision
  max (if fits then estimate else estimate + 1) format.leastExponent

/-- The significand and exponent nearest to a ratio. The exponent may pass the greatest one: the
ratio is then too large for the format. -/
def BinaryFormat.round (format : BinaryFormat) (numerator denominator : Nat) : Nat × Int :=
  if numerator = 0 then (0, format.leastExponent)
  else
    let exponent := format.exponentOf numerator denominator
    let scaled := divideByPower 2 numerator denominator exponent
    let significand := roundQuotient scaled.1 scaled.2
    if significand = Nat.pow 2 format.precision then
      (Nat.pow 2 (format.precision - 1), exponent + 1)
    else (significand, exponent)

end PointTable.Number
