import Mathlib.Algebra.Order.AbsoluteValue.Basic
import Mathlib.Tactic.NormNum
import PointTable.Proofs.Number.Double
import PointTable.Proofs.Number.Rounding

/-!
# When doubles overflow

A finite double is a rational. The least magnitude that rounds to an infinity is half a step above
the greatest double, so scaling overflows exactly from there on, while adding one half never does.
-/

namespace PointTable.Double

open Number

/-- The value of a double; infinities and non-numbers have none and get zero. -/
def toRat : Double → ℚ
  | .finite negative significand exponent _ => signed negative significand * 2 ^ exponent
  | _ => 0

/-- The least magnitude that rounds to an infinity. -/
def overflow : ℚ := 2 ^ 1024 - 2 ^ 970

theorem overflow_eq : overflow = (2 ^ 53 - 1 / 2) * (2 : ℚ) ^ (971 : ℤ) := by
  have step : (2 : ℚ) ^ (971 : ℤ) = 2 * 2 ^ 970 := by
    rw [show (971 : ℤ) = ((970 + 1 : Nat) : ℤ) from rfl, zpow_natCast, pow_succ, mul_comm]
  have top : (2 : ℚ) ^ 1024 = 2 ^ 54 * 2 ^ 970 := by rw [← pow_add]
  rw [overflow, top, step]
  -- The power stays a variable: as a numeral it would have three hundred digits.
  generalize (2 : ℚ) ^ 970 = half
  ring

/-- A ratio rounds to a number or to an infinity, never to a non-number. -/
theorem ofRatio_of_not_isFinite {negative : Bool} {numerator denominator : Nat}
    (infinite : (ofRatio negative numerator denominator).isFinite = false) :
    ofRatio negative numerator denominator = .infinite negative := by
  simp only [ofRatio] at infinite ⊢
  split
  · next canonical => simp [canonical, isFinite] at infinite
  · rfl

theorem ofRatio_isFinite {negative : Bool} {numerator denominator : Nat}
    (positive : 0 < denominator) :
    (ofRatio negative numerator denominator).isFinite = true ↔
      (numerator : ℚ) / denominator < overflow := by
  have limit : overflow =
      (2 ^ binary64.precision - 1 / 2) * (2 : ℚ) ^ binary64.greatestExponent := overflow_eq
  rw [limit, ← BinaryFormat.round_canonical_iff (by decide) (by decide) positive]
  simp only [ofRatio]
  split
  · next canonical => exact iff_of_true rfl canonical
  · next infinite => exact iff_of_false (by simp [isFinite]) infinite

@[simp] theorem ofDyadic_isFinite {negative : Bool} {significand : Nat} {exponent : Int} :
    (ofDyadic negative significand exponent).isFinite = true ↔
      (significand : ℚ) * 2 ^ exponent < overflow := by
  rw [ofDyadic, ofRatio_isFinite (divideByPower_pos two_pos one_pos _ _), dyadic_ratio]

/-! ## Values of finite doubles -/

section

variable {negative : Bool} {significand : Nat} {exponent : Int}
  {canonical : binary64.Canonical significand exponent}

@[simp] theorem abs_toRat : |(finite negative significand exponent canonical).toRat| =
    significand * 2 ^ exponent := by
  have power : (0 : ℚ) ≤ 2 ^ exponent := zpow_nonneg two_pos.le _
  simp only [toRat, abs_mul, abs_of_nonneg power, signed]
  cases negative with
  | false => simp
  | true => simp

/-- No finite double reaches the overflow; half a step is missing. -/
theorem abs_toRat_add_half_lt :
    |(finite negative significand exponent canonical).toRat| + 1 / 2 < overflow := by
  have significandLe : (significand : ℚ) ≤ 2 ^ 53 - 1 := by
    have below : significand + 1 ≤ 2 ^ 53 := canonical.1
    have below' : ((significand + 1 : Nat) : ℚ) ≤ ((2 ^ 53 : Nat) : ℚ) := Nat.cast_le.mpr below
    push_cast at below'
    linarith
  have powerLe : (2 : ℚ) ^ exponent ≤ 2 ^ (971 : ℤ) :=
    zpow_le_zpow_right₀ one_le_two canonical.2.2.1
  have large : (1 : ℚ) < 2 ^ (971 : ℤ) := one_lt_zpow₀ one_lt_two (by decide)
  rw [abs_toRat, overflow_eq]
  generalize (2 : ℚ) ^ (971 : ℤ) = top at powerLe large
  calc (significand : ℚ) * 2 ^ exponent + 1 / 2
      ≤ (2 ^ 53 - 1) * top + 1 / 2 := by gcongr
    _ < (2 ^ 53 - 1 / 2) * top := by linarith

end

/-! ## Scaling and adding one half -/

@[simp] theorem toRat_abs (x : Double) : x.abs.toRat = |x.toRat| := by
  cases x with
  | nan negative => simp [Double.abs, toRat]
  | infinite negative => simp [Double.abs, toRat]
  | finite negative significand exponent canonical =>
      rw [abs_toRat]
      simp [Double.abs, toRat, signed]

theorem scale_isFinite {x : Double} (number : x.isFinite = true) (factor : Nat) :
    (x.scale factor).isFinite = true ↔ |x.toRat| * factor < overflow := by
  obtain ⟨negative, significand, exponent, canonical, rfl⟩ := exists_finite number
  rw [scale, ofDyadic_isFinite, abs_toRat, Nat.cast_mul, mul_right_comm]

/-- Scaling a number beyond all doubles gives the infinity of its sign. -/
theorem scale_of_overflow {x : Double} (number : x.isFinite = true) {factor : Nat}
    (beyond : overflow ≤ |x.toRat| * factor) : ∃ negative, x.scale factor = .infinite negative := by
  have infinite : (x.scale factor).isFinite = false := by
    rw [← Bool.not_eq_true, scale_isFinite number]
    exact not_lt.mpr beyond
  obtain ⟨negative, significand, exponent, canonical, rfl⟩ := exists_finite number
  exact ⟨negative, ofRatio_of_not_isFinite infinite⟩

/-- The sum that is rounded when one half is added is exact. -/
theorem half_sum {common exponent : ℤ} (exponentLe : common ≤ exponent) (halfLe : common ≤ -1)
    (negative : Bool) (significand : Nat) :
    ((signed negative (significand * 2 ^ (exponent - common).toNat) +
        (2 ^ (-1 - common).toNat : Nat) : ℤ) : ℚ) * 2 ^ common =
      signed negative significand * 2 ^ exponent + 1 / 2 := by
  have shift : (2 : ℚ) ^ (exponent - common).toNat * 2 ^ common = 2 ^ exponent := by
    rw [← zpow_natCast, ← zpow_add₀ two_ne_zero]
    congr 1
    omega
  have half : (2 : ℚ) ^ (-1 - common).toNat * 2 ^ common = 1 / 2 := by
    have exponents : ((-1 - common).toNat : ℤ) + common = -1 := by omega
    rw [← zpow_natCast, ← zpow_add₀ two_ne_zero, exponents, zpow_neg_one, one_div]
  cases negative with
  | false =>
      simp only [signed]
      push_cast
      rw [add_mul, mul_assoc, shift, half]
  | true =>
      simp only [signed]
      push_cast
      rw [add_mul, neg_mul, mul_assoc, shift, half, neg_mul]

/-- Adding one half never overflows. -/
theorem plusHalf_isFinite {x : Double} (number : x.isFinite = true) :
    x.plusHalf.isFinite = true := by
  obtain ⟨negative, significand, exponent, canonical, rfl⟩ := exists_finite number
  simp only [plusHalf, Nat.pow_eq]
  rw [ofDyadic_isFinite]
  have power : (0 : ℚ) ≤ 2 ^ min exponent (-1) := zpow_nonneg two_pos.le _
  rw [Nat.cast_natAbs, Int.cast_abs, ← abs_of_nonneg power, ← abs_mul,
    half_sum (min_le_left _ _) (min_le_right _ _)]
  calc |(signed negative significand : ℚ) * 2 ^ exponent + 1 / 2|
      ≤ |(signed negative significand : ℚ) * 2 ^ exponent| + |1 / 2| := abs_add_le _ _
    _ = |(finite negative significand exponent canonical).toRat| + 1 / 2 := by
        rw [toRat, abs_of_pos (by norm_num : (0 : ℚ) < 1 / 2)]
    _ < overflow := abs_toRat_add_half_lt

theorem abs_toRat_lt_one {x : Double} (number : x.isFinite = true)
    (nonnegative : x.isNegative = false) (below : x.isBelowOne = true) : |x.toRat| < 1 := by
  obtain ⟨negative, significand, exponent, canonical, rfl⟩ := exists_finite number
  rw [abs_toRat]
  simp only [isNegative, Bool.and_eq_false_iff, decide_eq_false_iff_not, not_not] at nonnegative
  simp only [isBelowOne, Bool.or_eq_true, decide_eq_true_eq] at below
  rcases nonnegative with rfl | rfl
  · rcases below with impossible | scaled
    · cases impossible
    · have ratio := divideByPower_lt_iff significand one_pos (-exponent) 1
      rw [Nat.one_mul, Nat.cast_one, div_one, zpow_neg,
        lt_mul_inv_iff₀ (zpow_pos two_pos exponent)] at ratio
      exact ratio.mp scaled
  · simp

theorem floor_ok {x : Double} (number : x.isFinite = true) : ∃ whole, x.floor = .ok whole := by
  obtain ⟨negative, significand, exponent, canonical, rfl⟩ := exists_finite number
  exact ⟨_, rfl⟩

end PointTable.Double
