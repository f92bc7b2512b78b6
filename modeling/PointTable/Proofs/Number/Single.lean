import PointTable.Number.Single
import PointTable.Proofs.Number.Value

/-!
# Single precision inside double precision

A format holds all values of a narrower one, so reading a single-precision pattern is exact, and
rounding what was read gives the significand and the exponent back that the pattern spells. Patterns
that spell a number or an infinity are therefore written as they were read. Those of non-numbers are
not: all of one sign are read as one value.
-/

namespace PointTable.Number.BinaryFormat

variable {format narrow : BinaryFormat} {significand : Nat} {exponent : ℤ}

theorem Canonical.exponent_of_zero (canonical : format.Canonical 0 exponent) :
    exponent = format.leastExponent := by
  rcases canonical.2.2.2 with full | least
  · exact absurd full (Nat.not_le.mpr (Nat.pow_pos two_pos))
  · exact least

/-- A positive value of a narrow format is one of a wide format: its significand is filled up with
zeros, for which the exponents of the wide format reach down far enough. -/
theorem Canonical.widen (canonical : narrow.Canonical significand exponent)
    (positive : 0 < significand) (wide : BinaryFormat)
    (precision : narrow.precision ≤ wide.precision)
    (least : wide.leastExponent + (wide.precision - 1) ≤ narrow.leastExponent)
    (greatest : narrow.greatestExponent ≤ wide.greatestExponent) :
    ∃ significand' exponent', 0 < significand' ∧ wide.Canonical significand' exponent' ∧
      (significand' : ℚ) * 2 ^ exponent' = significand * 2 ^ exponent := by
  obtain ⟨below, leastLe, leGreatest, _⟩ := canonical
  rw [Nat.pow_eq] at below
  have lower : 2 ^ significand.log2 ≤ significand := Nat.log2_self_le positive.ne'
  have upper : significand < 2 ^ (significand.log2 + 1) := Nat.lt_log2_self
  have length : significand.log2 < narrow.precision :=
    (Nat.pow_lt_pow_iff_right (by decide)).mp (lower.trans_lt below)
  obtain ⟨shift, filled⟩ : ∃ shift, wide.precision = significand.log2 + 1 + shift :=
    Nat.exists_eq_add_of_le (by omega)
  have shiftPos : 0 < 2 ^ shift := Nat.two_pow_pos shift
  refine ⟨significand * 2 ^ shift, exponent - shift, Nat.mul_pos positive shiftPos, ?_, ?_⟩
  · refine ⟨?_, by omega, by omega, .inl ?_⟩
    · rw [Nat.pow_eq, filled, Nat.pow_add]
      exact Nat.mul_lt_mul_of_pos_right upper shiftPos
    · rw [Nat.pow_eq, filled, Nat.add_right_comm, Nat.add_sub_cancel, Nat.pow_add]
      exact Nat.mul_le_mul_right _ lower
  · rw [zpow_sub₀ two_ne_zero, zpow_natCast, Nat.cast_mul, Nat.cast_pow, Nat.cast_ofNat, mul_assoc,
      mul_div_cancel₀ _ (pow_ne_zero shift two_ne_zero)]

theorem round_of_value (canonical : format.Canonical significand exponent)
    {numerator denominator : Nat} (denominatorPos : 0 < denominator)
    (value : (numerator : ℚ) / denominator = significand * 2 ^ exponent) :
    format.round numerator denominator = (significand, exponent) := by
  rcases Nat.eq_zero_or_pos significand with rfl | positive
  · have nonzero : (denominator : ℚ) ≠ 0 := Nat.cast_ne_zero.mpr denominatorPos.ne'
    have zero : numerator = 0 := by simpa [nonzero] using value
    rw [canonical.exponent_of_zero, zero, round, if_pos rfl]
  · exact round_of_canonical canonical positive denominatorPos value

end PointTable.Number.BinaryFormat

namespace PointTable.Double

open Number

/-! ## Single-precision values -/

section

variable {significand : Nat} {exponent : ℤ}

/-- Widening a single-precision value is exact. -/
theorem ofDyadic_of_single (canonical : binary32.Canonical significand exponent) (negative : Bool) :
    ∃ significand' exponent' canonical',
      ofDyadic negative significand exponent = .finite negative significand' exponent' canonical' ∧
        (significand' : ℚ) * 2 ^ exponent' = significand * 2 ^ exponent := by
  have ratio := dyadic_ratio significand exponent
  have denominatorPos := divideByPower_pos two_pos one_pos significand (-exponent)
  rcases Nat.eq_zero_or_pos significand with rfl | positive
  · have canonical' : binary64.Canonical 0 (-1074) := by decide
    refine ⟨0, -1074, canonical', ?_, by simp⟩
    have rounded := BinaryFormat.round_of_value canonical' denominatorPos (ratio.trans (by simp))
    simp only [ofDyadic, ofRatio, rounded, canonical', ↓reduceDIte]
  · obtain ⟨significand', exponent', positive', canonical', value⟩ :=
      canonical.widen positive binary64 (by decide) (by decide) (by decide)
    refine ⟨significand', exponent', canonical', ?_, value⟩
    exact ofRatio_of_value canonical' positive' denominatorPos (ratio.trans value.symm)

/-- A double of a single-precision value is written with that value's significand and exponent. -/
theorem toSingleBits_of_value (canonical : binary32.Canonical significand exponent)
    {negative : Bool} {significand' : Nat} {exponent' : ℤ}
    {canonical' : binary64.Canonical significand' exponent'}
    (value : (significand' : ℚ) * 2 ^ exponent' = significand * 2 ^ exponent) :
    (finite negative significand' exponent' canonical').toSingleBits =
      .ok (0x80000000 * negative.toNat + singleMagnitude significand exponent) := by
  have rounded := BinaryFormat.round_of_value canonical
    (divideByPower_pos two_pos one_pos significand' (-exponent'))
    ((dyadic_ratio significand' exponent').trans value)
  simp only [toSingleBits, rounded, canonical, ↓reduceIte]

theorem toSingleBits_ofDyadic (canonical : binary32.Canonical significand exponent)
    (negative : Bool) :
    (ofDyadic negative significand exponent).toSingleBits =
      .ok (0x80000000 * negative.toNat + singleMagnitude significand exponent) := by
  obtain ⟨significand', exponent', canonical', widened, value⟩ :=
    ofDyadic_of_single canonical negative
  rw [widened, toSingleBits_of_value canonical value]

end

/-! ## Patterns -/

/-- The double is not a number. -/
def IsNan (x : Double) : Prop :=
  ∃ negative, x = .nan negative

/-- A pattern spells a non-number: its exponent bits are all set, and its fraction is not zero. -/
def SpellsNan (bits : Nat) : Prop :=
  bits / 0x800000 % 0x100 = 255 ∧ bits % 0x800000 ≠ 0

theorem ofRatio_ne_nan (negative : Bool) (numerator denominator : Nat) (sign : Bool) :
    ofRatio negative numerator denominator ≠ .nan sign := by
  simp only [ofRatio]
  split <;> simp

/-- A single-precision pattern denotes a non-number if without its sign it lies above the pattern
of infinity. -/
theorem ofSingleBits_eq_nan_iff {bits : Nat} :
    (∃ negative, ofSingleBits bits = .nan negative) ↔ 0x7F800000 < bits % 0x80000000 := by
  simp only [ofSingleBits]
  split
  · next full =>
      split
      · next empty =>
          simp only [reduceCtorEq, exists_const, false_iff]
          omega
      · next payload =>
          simp only [nan.injEq, exists_eq', true_iff]
          omega
  · next number =>
      have below : ¬0x7F800000 < bits % 0x80000000 := by omega
      split <;> simp [ofDyadic, ofRatio_ne_nan, below]

@[simp] theorem isNan_ofSingleBits_iff {bits : Nat} :
    (ofSingleBits bits).IsNan ↔ SpellsNan bits := by
  rw [IsNan, ofSingleBits_eq_nan_iff, SpellsNan]
  omega

@[simp] theorem sign_toNat (bits : Nat) :
    (bits / 0x80000000 % 2 == 1).toNat = bits / 0x80000000 % 2 := by
  rcases Nat.mod_two_eq_zero_or_one (bits / 0x80000000) with even | odd
  · rw [even]
    rfl
  · rw [odd]
    rfl

/-- Patterns of zeros, subnormal and normal numbers and infinities are written as they were read. -/
theorem toSingleBits_ofSingleBits {bits : Nat} (bound : bits < 0x100000000)
    (number : ¬SpellsNan bits) : (ofSingleBits bits).toSingleBits = .ok bits := by
  have sign := sign_toNat bits
  unfold SpellsNan at number
  simp only [ofSingleBits]
  generalize (bits / 0x80000000 % 2 == 1) = negative at sign ⊢
  split
  · next full =>
      have empty : bits % 0x800000 = 0 := by omega
      rw [if_pos empty, toSingleBits, sign]
      exact congrArg Except.ok (by omega)
  · next finite =>
      split
      · next least =>
          have canonical : binary32.Canonical (bits % 0x800000) (-149) := by
            refine ⟨?_, by decide, by decide, .inr rfl⟩
            exact (Nat.mod_lt bits (by decide)).trans (by decide)
          rw [toSingleBits_ofDyadic canonical, singleMagnitude, if_pos (by omega), sign]
          exact congrArg Except.ok (by omega)
      · next normal =>
          have canonical : binary32.Canonical (bits % 0x800000 + 0x800000)
              ((bits / 0x800000 % 0x100 : Nat) - 150) := by
            simp only [BinaryFormat.Canonical, binary32, Nat.pow_eq]
            omega
          rw [toSingleBits_ofDyadic canonical, singleMagnitude, if_neg (by omega), sign]
          exact congrArg Except.ok (by omega)

end PointTable.Double
