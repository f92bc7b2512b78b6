import PointTable.Period
import PointTable.Proofs.Number.Overflow

/-!
# Timings of periods

A finite period has a number of milliseconds unless it is below zero and a thousand times its
magnitude overflows. Such a period passes as a number, but its timing is an infinity.
-/

namespace PointTable.Period

@[simp] theorem kind_of_isNegative {period : Double} (negative : period.isNegative = true) :
    kind period = .handshake := by
  simp [kind, Double.isZero_of_isNegative negative, negative]

/-- If the period is below zero, a thousand times its magnitude still is a double. -/
def Timed (period : Double) : Prop :=
  period.isNegative = true → |period.toRat| * 1000 < Double.overflow

theorem roundHalfUp_ok {value : Double} (number : value.isFinite = true) :
    ∃ whole, roundHalfUp value = .ok whole :=
  Double.floor_ok (Double.plusHalf_isFinite number)

theorem scaled_ok {period : Double} (number : period.isFinite = true)
    (bounded : |period.toRat| * 1000 < Double.overflow) :
    ∃ whole, roundHalfUp (period.abs.scale 1000) = .ok whole := by
  have absNumber := (Double.isFinite_abs period).trans number
  apply roundHalfUp_ok
  rw [Double.scale_isFinite absNumber, Double.toRat_abs, abs_abs]
  exact_mod_cast bounded

theorem scaled_overflow {period : Double} (number : period.isFinite = true)
    (beyond : Double.overflow ≤ |period.toRat| * 1000) :
    roundHalfUp (period.abs.scale 1000) = .error .infinity := by
  have absNumber := (Double.isFinite_abs period).trans number
  have beyond' : Double.overflow ≤ |period.abs.toRat| * (1000 : Nat) := by
    rw [Double.toRat_abs, abs_abs]
    exact_mod_cast beyond
  obtain ⟨negative, infinite⟩ := Double.scale_of_overflow absNumber beyond'
  rw [infinite]
  rfl

theorem thousand_lt_overflow : (1000 : ℚ) < Double.overflow := by
  have power : (1 : ℚ) < 2 ^ (971 : ℤ) := one_lt_zpow₀ one_lt_two (by decide)
  rw [Double.overflow_eq]
  generalize (2 : ℚ) ^ (971 : ℤ) = top at power
  linarith

theorem milliseconds_ok {period : Double} (number : period.isFinite = true)
    (timed : Timed period) : ∃ timing, milliseconds period = .ok timing := by
  unfold milliseconds kind
  by_cases zero : period.isZero = true
  · simpa [zero] using roundHalfUp_ok number
  · by_cases negative : period.isNegative = true
    · simpa [zero, negative] using scaled_ok number (timed negative)
    · by_cases below : period.isBelowOne = true
      · have magnitude := Double.abs_toRat_lt_one number (Bool.eq_false_iff.mpr negative) below
        have bounded : |period.toRat| * 1000 < Double.overflow := by
          linarith [thousand_lt_overflow]
        simpa [zero, negative, below] using scaled_ok number bounded
      · simpa [zero, negative, below] using roundHalfUp_ok number

theorem nonzero_of_untimed {period : Double} (untimed : ¬Timed period) :
    period.isZero = false := by
  obtain ⟨negative, _⟩ := Classical.not_imp.mp untimed
  exact Double.isZero_of_isNegative negative

theorem milliseconds_overflow {period : Double} (number : period.isFinite = true)
    (untimed : ¬Timed period) : milliseconds period = .error .infinity := by
  have nonzero := nonzero_of_untimed untimed
  simp only [Timed, Classical.not_imp, not_lt] at untimed
  obtain ⟨negative, beyond⟩ := untimed
  simpa [milliseconds, kind, nonzero, negative] using scaled_overflow number beyond

end PointTable.Period
