import PointTable.Number.Rounding

/-!
# Double-precision numbers

A double is not a number, infinite, or `± significand · 2 ^ exponent` in the one canonical form of
its value. So equal doubles have equal values, and apart from the two zeros and the non-numbers
the converse holds as well.
-/

namespace PointTable

open Number

/-- A double-precision number. -/
inductive Double where
  | nan (negative : Bool)
  | infinite (negative : Bool)
  | finite (negative : Bool) (significand : Nat) (exponent : Int)
      (canonical : binary64.Canonical significand exponent)
  deriving DecidableEq, Repr

/-- Why a number has no counterpart of the kind asked for. -/
inductive ConversionFault where
  /-- An infinity has no integer part. -/
  | infinity
  /-- A non-number has no integer part. -/
  | notANumber
  /-- An integer exceeds every double. -/
  | integerTooLarge
  /-- A double exceeds every single-precision number. -/
  | singleOverflow
  deriving DecidableEq, Repr

def ConversionFault.message : ConversionFault → String
  | .infinity => "cannot convert float infinity to integer"
  | .notANumber => "cannot convert float NaN to integer"
  | .integerTooLarge => "int too large to convert to float"
  | .singleOverflow => "float too large to pack with f format"

namespace Double

def zero (negative : Bool) : Double :=
  .finite negative 0 (-1074) (by decide)

/-- The double nearest to `± numerator / denominator`; infinite when the ratio is too large. -/
def ofRatio (negative : Bool) (numerator denominator : Nat) : Double :=
  let rounded := binary64.round numerator denominator
  if canonical : binary64.Canonical rounded.1 rounded.2 then
    .finite negative rounded.1 rounded.2 canonical
  else .infinite negative

/-- The double nearest to `± significand · 2 ^ exponent`. -/
def ofDyadic (negative : Bool) (significand : Nat) (exponent : Int) : Double :=
  let scaled := divideByPower 2 significand 1 (-exponent)
  ofRatio negative scaled.1 scaled.2

/-- The double nearest to an integer, unless the integer is too large. -/
def ofInt (n : Int) : Except ConversionFault Double :=
  match ofRatio (n < 0) n.natAbs 1 with
  | .infinite _ => .error .integerTooLarge
  | x => .ok x

/-- The number is neither infinite nor a non-number. -/
def isFinite : Double → Bool
  | .finite .. => true
  | _ => false

def abs : Double → Double
  | .nan _ => .nan false
  | .infinite _ => .infinite false
  | .finite _ significand exponent canonical => .finite false significand exponent canonical

@[simp] theorem isFinite_abs (x : Double) : x.abs.isFinite = x.isFinite := by
  cases x <;> rfl

def signed (negative : Bool) (significand : Nat) : Int :=
  if negative then -significand else significand

def isZero : Double → Bool
  | .finite _ significand _ _ => significand = 0
  | _ => false

def isNegative : Double → Bool
  | .nan _ => false
  | .infinite negative => negative
  | .finite negative significand _ _ => negative && significand ≠ 0

def isPositive : Double → Bool
  | .nan _ => false
  | .infinite negative => !negative
  | .finite negative significand _ _ => !negative && significand ≠ 0

def isBelowOne : Double → Bool
  | .nan _ => false
  | .infinite negative => negative
  | .finite negative significand exponent _ =>
    let scaled := divideByPower 2 significand 1 (-exponent)
    negative || scaled.1 < scaled.2

/-- The numbers are equal as values: the zeros are equal, a non-number equals nothing. -/
def sameValue : Double → Double → Bool
  | .infinite negative, .infinite negative' => negative = negative'
  | .finite negative significand exponent _, .finite negative' significand' exponent' _ =>
    (significand = 0 && significand' = 0) ||
      (negative = negative' && significand = significand' && exponent = exponent')
  | _, _ => false

@[simp] theorem sameValue_self_eq_false {x : Double} :
    x.sameValue x = false ↔ ∃ negative, x = .nan negative := by
  cases x <;> simp [sameValue]

def equalsInt (x : Double) (n : Int) : Bool :=
  match x with
  | .finite negative significand exponent _ =>
    let scaled := divideByPower 2 significand 1 (-exponent)
    signed negative scaled.1 = n * scaled.2
  | _ => false

/-- The greatest integer not above the number. -/
def floor : Double → Except ConversionFault Int
  | .nan _ => .error .notANumber
  | .infinite _ => .error .infinity
  | .finite negative significand exponent _ =>
    let scaled := divideByPower 2 significand 1 (-exponent)
    .ok (Int.fdiv (signed negative scaled.1) scaled.2)

/-- The integer part of the number, toward zero. -/
def truncate : Double → Except ConversionFault Int
  | .nan _ => .error .notANumber
  | .infinite _ => .error .infinity
  | .finite negative significand exponent _ =>
    let scaled := divideByPower 2 significand 1 (-exponent)
    .ok (signed negative (scaled.1 / scaled.2))

/-- The integer that the number equals, if it equals one. -/
def toInt? : Double → Option Int
  | .finite negative significand exponent _ =>
    let scaled := divideByPower 2 significand 1 (-exponent)
    if scaled.1 % scaled.2 = 0 then some (signed negative (scaled.1 / scaled.2)) else none
  | _ => none

/-- The number times a natural, rounded. -/
def scale (factor : Nat) : Double → Double
  | .finite negative significand exponent _ =>
    ofDyadic negative (significand * factor) exponent
  | x => x

/-- The number plus one half, rounded. -/
def plusHalf : Double → Double
  | .finite negative significand exponent _ =>
    let common := min exponent (-1)
    let sum : Int := signed negative (significand * Nat.pow 2 (exponent - common).toNat)
      + Nat.pow 2 (-1 - common).toNat
    ofDyadic (sum < 0) sum.natAbs common
  | x => x

end Double

end PointTable
