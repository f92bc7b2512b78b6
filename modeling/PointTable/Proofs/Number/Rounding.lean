import Mathlib.Algebra.Order.Field.Power
import Mathlib.Algebra.Order.Field.Rat
import Mathlib.Tactic.FieldSimp
import Mathlib.Tactic.Linarith
import Mathlib.Tactic.Ring
import PointTable.Number.Rounding

/-!
# When rounding overflows

Rounding is exact arithmetic on naturals; here it is read as arithmetic on rationals. A ratio has
a significand of full precision at one exponent, and the significand is rounded there. So the
ratios that a format can hold are exactly those below the middle between its greatest value and the
next power of two.
-/

namespace PointTable.Number

/-! ## Ratios of naturals -/

theorem divideByPower_ratio {base : Nat} (positive : 0 < base) (numerator denominator : Nat)
    (exponent : Int) :
    ((divideByPower base numerator denominator exponent).1 : ℚ) /
        (divideByPower base numerator denominator exponent).2 =
      (numerator : ℚ) / denominator / (base : ℚ) ^ exponent := by
  have nonzero : (base : ℚ) ≠ 0 := by exact_mod_cast positive.ne'
  unfold divideByPower
  split
  · next nonneg =>
      obtain ⟨power, rfl⟩ := Int.eq_ofNat_of_zero_le nonneg
      simp only [Int.toNat_natCast, Nat.pow_eq, Nat.cast_mul, Nat.cast_pow, zpow_natCast, div_div]
  · next negative =>
      obtain ⟨power, rfl⟩ : ∃ power : Nat, exponent = -power := ⟨(-exponent).toNat, by omega⟩
      simp only [neg_neg, Int.toNat_natCast, Nat.pow_eq, Nat.cast_mul, Nat.cast_pow, zpow_neg,
        zpow_natCast]
      field_simp

/-- A significand and an exponent scaled to a ratio of naturals keep their value. -/
theorem dyadic_ratio (significand : Nat) (exponent : ℤ) :
    ((divideByPower 2 significand 1 (-exponent)).1 : ℚ) /
      (divideByPower 2 significand 1 (-exponent)).2 = significand * 2 ^ exponent := by
  rw [divideByPower_ratio two_pos, Nat.cast_one, div_one, Nat.cast_ofNat, zpow_neg, div_inv_eq_mul]

theorem divideByPower_pos {base : Nat} (basePos : 0 < base) {denominator : Nat}
    (denominatorPos : 0 < denominator) (numerator : Nat) (exponent : Int) :
    0 < (divideByPower base numerator denominator exponent).2 := by
  unfold divideByPower
  split
  · exact Nat.mul_pos denominatorPos (Nat.pow_pos basePos)
  · exact denominatorPos

/-- A scaled ratio in bounds of naturals, said of the ratio itself. -/
theorem divideByPower_lt_iff (numerator : Nat) {denominator : Nat}
    (denominatorPos : 0 < denominator) (exponent : Int) (bound : Nat) :
    (divideByPower 2 numerator denominator exponent).1 <
        bound * (divideByPower 2 numerator denominator exponent).2 ↔
      (numerator : ℚ) / denominator < bound * (2 : ℚ) ^ exponent := by
  have ratio := divideByPower_ratio two_pos numerator denominator exponent
  have positive := divideByPower_pos two_pos denominatorPos numerator exponent
  generalize divideByPower 2 numerator denominator exponent = scaled at ratio positive
  have positive : (0 : ℚ) < scaled.2 := by exact_mod_cast positive
  rw [← div_lt_iff₀ (zpow_pos two_pos exponent), ← Nat.cast_ofNat, ← ratio, div_lt_iff₀ positive]
  exact_mod_cast Iff.rfl

theorem divideByPower_lt_two_pow_iff (numerator : Nat) {denominator : Nat}
    (denominatorPos : 0 < denominator) (exponent : Int) (power : Nat) :
    (divideByPower 2 numerator denominator exponent).1 <
        2 ^ power * (divideByPower 2 numerator denominator exponent).2 ↔
      (numerator : ℚ) / denominator < (2 : ℚ) ^ (power + exponent) := by
  rw [divideByPower_lt_iff numerator denominatorPos, Nat.cast_pow, ← zpow_natCast,
    Nat.cast_ofNat, ← zpow_add₀ two_ne_zero]

/-- The binary logarithms of both parts tell a ratio up to a factor of four. -/
theorem ratio_between_powers {numerator denominator : Nat} (numeratorPos : 0 < numerator)
    (denominatorPos : 0 < denominator) :
    (2 : ℚ) ^ ((numerator.log2 : ℤ) - denominator.log2 - 1) < (numerator : ℚ) / denominator ∧
      (numerator : ℚ) / denominator < (2 : ℚ) ^ ((numerator.log2 : ℤ) - denominator.log2 + 1) := by
  have lower : (2 : ℚ) ^ numerator.log2 ≤ numerator := by
    exact_mod_cast Nat.log2_self_le numeratorPos.ne'
  have upper : (numerator : ℚ) < 2 ^ (numerator.log2 + 1) := by
    exact_mod_cast Nat.lt_log2_self
  have lower' : (2 : ℚ) ^ denominator.log2 ≤ denominator := by
    exact_mod_cast Nat.log2_self_le denominatorPos.ne'
  have upper' : (denominator : ℚ) < 2 ^ (denominator.log2 + 1) := by
    exact_mod_cast Nat.lt_log2_self
  have positive : (0 : ℚ) < denominator := by exact_mod_cast denominatorPos
  rw [lt_div_iff₀ positive, div_lt_iff₀ positive]
  constructor
  · calc (2 : ℚ) ^ ((numerator.log2 : ℤ) - denominator.log2 - 1) * denominator
        < 2 ^ ((numerator.log2 : ℤ) - denominator.log2 - 1) * 2 ^ (denominator.log2 + 1) := by
          gcongr
      _ = 2 ^ numerator.log2 := by
          rw [← zpow_natCast, ← zpow_natCast, ← zpow_add₀ two_ne_zero]
          congr 1
          omega
      _ ≤ numerator := lower
  · calc (numerator : ℚ) < 2 ^ (numerator.log2 + 1) := upper
      _ = 2 ^ ((numerator.log2 : ℤ) - denominator.log2 + 1) * 2 ^ denominator.log2 := by
          rw [← zpow_natCast, ← zpow_natCast, ← zpow_add₀ two_ne_zero]
          congr 1
          omega
      _ ≤ 2 ^ ((numerator.log2 : ℤ) - denominator.log2 + 1) * denominator := by
          gcongr

/-! ## The rounded quotient -/

theorem div_le_roundQuotient (numerator denominator : Nat) :
    numerator / denominator ≤ roundQuotient numerator denominator := by
  simp only [roundQuotient]
  split_ifs <;> omega

theorem roundQuotient_le (numerator denominator : Nat) :
    roundQuotient numerator denominator ≤ numerator / denominator + 1 := by
  simp only [roundQuotient]
  split_ifs <;> omega

/-- A quotient below an even bound is rounded up to it from the middle of the last step on: there
the tie goes to the bound. -/
theorem roundQuotient_lt_iff {numerator denominator bound : Nat} (positive : 0 < denominator)
    (even : bound % 2 = 0) (below : numerator < bound * denominator) :
    roundQuotient numerator denominator < bound ↔
      2 * numerator < (2 * bound - 1) * denominator := by
  have remainder := Nat.mod_lt numerator positive
  have whole := Nat.div_add_mod numerator denominator
  have quotient : numerator / denominator < bound := (Nat.div_lt_iff_lt_mul positive).mpr below
  rcases Nat.lt_or_ge (numerator / denominator + 1) bound with early | last
  · have rounded := roundQuotient_le numerator denominator
    have step : (2 * (numerator / denominator) + 2) * denominator ≤
        (2 * bound - 1) * denominator := Nat.mul_le_mul_right _ (by omega)
    have expand : (2 * (numerator / denominator) + 2) * denominator =
        2 * (denominator * (numerator / denominator)) + 2 * denominator := by ring
    constructor
    · intro _
      omega
    · intro _
      omega
  · obtain rfl : bound = numerator / denominator + 1 := by omega
    have expand : (2 * (numerator / denominator + 1) - 1) * denominator =
        2 * (denominator * (numerator / denominator)) + denominator := by
      rw [show 2 * (numerator / denominator + 1) - 1 = 2 * (numerator / denominator) + 1 by omega]
      ring
    simp only [roundQuotient]
    split_ifs <;> omega

/-- The same in rationals: one half below the bound decides. -/
theorem roundQuotient_lt_iff_ratio {numerator denominator bound : Nat} (positive : 0 < denominator)
    (even : bound % 2 = 0) (below : numerator < bound * denominator) :
    roundQuotient numerator denominator < bound ↔
      (numerator : ℚ) / denominator < bound - 1 / 2 := by
  have positive' : (0 : ℚ) < denominator := by exact_mod_cast positive
  have boundPos : 0 < bound := Nat.pos_of_mul_pos_right (Nat.zero_lt_of_lt below)
  have middle : ((2 * bound - 1 : Nat) : ℚ) = 2 * bound - 1 := by
    rw [Nat.cast_sub (by omega), Nat.cast_mul, Nat.cast_ofNat, Nat.cast_one]
  rw [roundQuotient_lt_iff positive even below, div_lt_iff₀ positive', ← @Nat.cast_lt ℚ,
    Nat.cast_mul, Nat.cast_mul, middle, Nat.cast_ofNat]
  constructor
  · intro before
    linarith
  · intro before
    linarith

/-! ## Rounding to a format -/

namespace BinaryFormat

variable {format : BinaryFormat} {numerator denominator : Nat}

/-- The exponent of a positive ratio is the one at which its significand has full precision, unless
that is below the least. -/
theorem exponentOf_spec (format : BinaryFormat) (numeratorPos : 0 < numerator)
    (denominatorPos : 0 < denominator) :
    ∃ full : ℤ, format.exponentOf numerator denominator = max full format.leastExponent ∧
      (2 : ℚ) ^ (format.precision - 1 + full) ≤ (numerator : ℚ) / denominator ∧
      (numerator : ℚ) / denominator < (2 : ℚ) ^ (format.precision + full) := by
  obtain ⟨lower, upper⟩ := ratio_between_powers numeratorPos denominatorPos
  simp only [exponentOf, Nat.pow_eq]
  generalize estimated : (numerator.log2 : ℤ) - denominator.log2 - format.precision = estimate
  have positive := divideByPower_pos two_pos denominatorPos numerator estimate
  have fits := divideByPower_lt_two_pow_iff numerator denominatorPos estimate format.precision
  rw [← Nat.div_lt_iff_lt_mul positive] at fits
  split_ifs with below
  · refine ⟨estimate, rfl, ?_, fits.mp below⟩
    refine le_of_eq_of_le ?_ lower.le
    congr 1
    omega
  · -- The estimate is one too small, and the bound it misses is the lower one of its successor.
    refine ⟨estimate + 1, rfl, ?_, ?_⟩
    · refine le_of_eq_of_le ?_ (not_lt.mp (below ∘ fits.mpr))
      congr 1
      omega
    · refine lt_of_lt_of_eq upper ?_
      congr 1
      omega

/-- A significand and an exponent to which a ratio is rounded, before a carry. -/
structure Rounding (format : BinaryFormat) (ratio : ℚ) (significand : Nat) (exponent : ℤ) :
    Prop where
  least_le : format.leastExponent ≤ exponent
  ratio_lt : ratio < (2 : ℚ) ^ (format.precision + exponent)
  /-- Above the least exponent the ratio and its significand have full precision. -/
  full : exponent = format.leastExponent ∨
    (2 : ℚ) ^ (format.precision - 1 + exponent) ≤ ratio ∧ 2 ^ (format.precision - 1) ≤ significand
  significand_le : significand ≤ 2 ^ format.precision
  /-- A carry happens from the middle of the last step on. -/
  significand_lt_iff : significand < 2 ^ format.precision ↔
    ratio < (2 ^ format.precision - 1 / 2) * (2 : ℚ) ^ exponent

/-- Rounding a scaled ratio at the exponent where it has full precision, or at the least. -/
theorem rounding_of_full (precisionPos : 0 < format.precision) (denominatorPos : 0 < denominator)
    {full : ℤ}
    (lower : (2 : ℚ) ^ (format.precision - 1 + full) ≤ (numerator : ℚ) / denominator)
    (upper : (numerator : ℚ) / denominator < (2 : ℚ) ^ (format.precision + full)) :
    Rounding format ((numerator : ℚ) / denominator)
      (roundQuotient (divideByPower 2 numerator denominator (max full format.leastExponent)).1
        (divideByPower 2 numerator denominator (max full format.leastExponent)).2)
      (max full format.leastExponent) := by
  generalize greater : max full format.leastExponent = exponent
  have ratio := divideByPower_ratio two_pos numerator denominator exponent
  have positive := divideByPower_pos two_pos denominatorPos numerator exponent
  have bounds := divideByPower_lt_two_pow_iff numerator denominatorPos exponent
  generalize divideByPower 2 numerator denominator exponent = scaled at ratio positive bounds
  have ratioLt : (numerator : ℚ) / denominator < (2 : ℚ) ^ (format.precision + exponent) := by
    refine lt_of_lt_of_le upper (zpow_le_zpow_right₀ one_le_two ?_)
    omega
  have below : scaled.1 < 2 ^ format.precision * scaled.2 := (bounds _).mpr ratioLt
  have even : 2 ^ format.precision % 2 = 0 := by
    rw [← Nat.sub_add_cancel precisionPos, Nat.pow_succ]
    exact Nat.mul_mod_left _ 2
  refine ⟨by omega, ratioLt, ?_, ?_, ?_⟩
  · rcases Int.lt_or_le full format.leastExponent with small | large
    · exact .inl (by omega)
    · obtain rfl : full = exponent := by omega
      have enough : ¬scaled.1 < 2 ^ (format.precision - 1) * scaled.2 := by
        rw [bounds, not_lt, Nat.cast_sub precisionPos, Nat.cast_one]
        exact lower
      refine .inr ⟨lower, Nat.le_trans ?_ (div_le_roundQuotient scaled.1 scaled.2)⟩
      exact (Nat.le_div_iff_mul_le positive).mpr (Nat.le_of_not_lt enough)
  · have quotient : scaled.1 / scaled.2 < 2 ^ format.precision :=
      (Nat.div_lt_iff_lt_mul positive).mpr below
    exact (roundQuotient_le scaled.1 scaled.2).trans quotient
  · rw [roundQuotient_lt_iff_ratio positive even below, ratio,
      div_lt_iff₀ (zpow_pos (Nat.cast_pos.mpr two_pos) exponent), Nat.cast_pow, Nat.cast_ofNat]

/-- A significand that is one bit too long moves up by one exponent. -/
def carried (format : BinaryFormat) (significand : Nat) (exponent : ℤ) : Nat × ℤ :=
  if significand = 2 ^ format.precision then (2 ^ (format.precision - 1), exponent + 1)
  else (significand, exponent)

theorem round_eq (precisionPos : 0 < format.precision) (numeratorPos : 0 < numerator)
    (denominatorPos : 0 < denominator) :
    ∃ significand exponent, Rounding format ((numerator : ℚ) / denominator) significand exponent ∧
      format.round numerator denominator = format.carried significand exponent := by
  obtain ⟨full, exponentEq, lower, upper⟩ :=
    format.exponentOf_spec numeratorPos denominatorPos
  refine ⟨_, _, rounding_of_full precisionPos denominatorPos lower upper, ?_⟩
  simp only [round, carried, numeratorPos.ne', ↓reduceIte, exponentEq, Nat.pow_eq]

namespace Rounding

variable {ratio : ℚ} {significand : Nat} {exponent : ℤ}

/-- What is rounded is in canonical form but for its exponent, which may be too great. -/
theorem carried_canonical_iff (rounding : Rounding format ratio significand exponent)
    (precisionPos : 0 < format.precision) :
    format.Canonical (format.carried significand exponent).1
        (format.carried significand exponent).2 ↔
      exponent < format.greatestExponent ∨
        exponent = format.greatestExponent ∧ significand < 2 ^ format.precision := by
  have least := rounding.least_le
  have bound := rounding.significand_le
  unfold Canonical carried
  simp only [Nat.pow_eq]
  split
  · next carry =>
      have smaller : 2 ^ (format.precision - 1) < 2 ^ format.precision :=
        Nat.pow_lt_pow_right (by decide) (by omega)
      omega
  · next whole =>
      rcases rounding.full with equal | ⟨_, full⟩
      · omega
      · omega

theorem lt_limit_iff (rounding : Rounding format ratio significand exponent)
    (exponents : format.leastExponent ≤ format.greatestExponent) :
    ratio < (2 ^ format.precision - 1 / 2) * (2 : ℚ) ^ format.greatestExponent ↔
      exponent < format.greatestExponent ∨
        exponent = format.greatestExponent ∧ significand < 2 ^ format.precision := by
  have power : (0 : ℚ) < 2 ^ format.greatestExponent := zpow_pos two_pos _
  have one : (1 : ℚ) ≤ 2 ^ format.precision := one_le_pow₀ one_le_two
  rcases lt_trichotomy exponent format.greatestExponent with less | equal | greater
  · refine iff_of_true ?_ (.inl less)
    calc ratio < (2 : ℚ) ^ (format.precision + exponent) := rounding.ratio_lt
      _ ≤ 2 ^ ((format.precision : ℤ) + format.greatestExponent - 1) :=
          zpow_le_zpow_right₀ one_le_two (by omega)
      _ = 2 ^ format.precision / 2 * 2 ^ format.greatestExponent := by
          rw [zpow_sub_one₀ two_ne_zero, zpow_add₀ two_ne_zero, zpow_natCast]
          ring
      _ ≤ (2 ^ format.precision - 1 / 2) * 2 ^ format.greatestExponent := by
          gcongr
          linarith
  · subst equal
    rw [← rounding.significand_lt_iff]
    simp
  · refine iff_of_false (not_lt.mpr ?_) (by omega)
    have lower : (2 : ℚ) ^ (format.precision - 1 + exponent) ≤ ratio := by
      rcases rounding.full with equal | ⟨lower, _⟩
      · omega
      · exact lower
    calc (2 ^ format.precision - 1 / 2) * (2 : ℚ) ^ format.greatestExponent
        ≤ 2 ^ format.precision * 2 ^ format.greatestExponent := by
          gcongr
          linarith
      _ = 2 ^ ((format.precision : ℤ) + format.greatestExponent) := by
          rw [zpow_add₀ two_ne_zero, zpow_natCast]
      _ ≤ 2 ^ (format.precision - 1 + exponent) :=
          zpow_le_zpow_right₀ one_le_two (by omega)
      _ ≤ ratio := lower

end Rounding

/-- A format can hold a rounded ratio exactly when the ratio lies below the middle between the
greatest value of the format and the next power of two. -/
theorem round_canonical_iff (precisionPos : 0 < format.precision)
    (exponents : format.leastExponent ≤ format.greatestExponent)
    (denominatorPos : 0 < denominator) :
    format.Canonical (format.round numerator denominator).1
        (format.round numerator denominator).2 ↔
      (numerator : ℚ) / denominator <
        (2 ^ format.precision - 1 / 2) * (2 : ℚ) ^ format.greatestExponent := by
  rcases Nat.eq_zero_or_pos numerator with rfl | numeratorPos
  · have one : (1 : ℚ) ≤ 2 ^ format.precision := one_le_pow₀ one_le_two
    refine iff_of_true ?_ ?_
    · simp only [round, ↓reduceIte]
      exact ⟨Nat.pow_pos two_pos, le_rfl, exponents, .inr rfl⟩
    · rw [Nat.cast_zero, zero_div]
      exact mul_pos (by linarith) (zpow_pos two_pos _)
  · obtain ⟨significand, exponent, rounding, rounded⟩ :=
      round_eq precisionPos numeratorPos denominatorPos
    rw [rounded, rounding.carried_canonical_iff precisionPos, rounding.lt_limit_iff exponents]

end BinaryFormat

end PointTable.Number
