import PointTable.Proofs.Number.Overflow

/-!
# Doubles as values

Doubles are compared by their values: a number is zero, below zero or below one exactly when its
rational is. Rounding depends on the ratio alone and keeps what the format can hold, so every value
has one canonical form, and numbers other than zero are equal when their rationals are.
-/

namespace PointTable.Number

/-! ## Rounding depends on the ratio alone -/

theorem roundQuotient_mul (numerator denominator : Nat) {factor : Nat} (positive : 0 < factor) :
    roundQuotient (numerator * factor) (denominator * factor) =
      roundQuotient numerator denominator := by
  simp only [roundQuotient, Nat.mul_div_mul_right _ _ positive, Nat.mul_mod_mul_right,
    ← Nat.mul_assoc, Nat.mul_lt_mul_right positive]

theorem roundQuotient_congr {numerator denominator numerator' denominator' : Nat}
    (positive : 0 < denominator) (positive' : 0 < denominator')
    (equal : (numerator : ℚ) / denominator = (numerator' : ℚ) / denominator') :
    roundQuotient numerator denominator = roundQuotient numerator' denominator' := by
  have crossed : numerator * denominator' = numerator' * denominator := by
    rw [div_eq_div_iff (Nat.cast_ne_zero.mpr positive.ne')
      (Nat.cast_ne_zero.mpr positive'.ne')] at equal
    exact_mod_cast equal
  calc roundQuotient numerator denominator
      = roundQuotient (numerator * denominator') (denominator * denominator') :=
        (roundQuotient_mul numerator denominator positive').symm
    _ = roundQuotient (numerator' * denominator) (denominator' * denominator) := by
        rw [crossed, Nat.mul_comm denominator]
    _ = roundQuotient numerator' denominator' := roundQuotient_mul _ _ positive

theorem roundQuotient_of_eq {numerator denominator whole : Nat} (positive : 0 < denominator)
    (equal : (numerator : ℚ) / denominator = whole) :
    roundQuotient numerator denominator = whole := by
  rw [← div_one (whole : ℚ), ← Nat.cast_one] at equal
  rw [roundQuotient_congr positive one_pos equal]
  simp [roundQuotient, Nat.mod_one]

namespace BinaryFormat

variable {format : BinaryFormat} {numerator denominator : Nat}

/-- Two exponents of full precision for one ratio: neither is above the other. -/
theorem full_le {ratio : ℚ} {full full' : ℤ}
    (lower : (2 : ℚ) ^ (format.precision - 1 + full) ≤ ratio)
    (upper : ratio < (2 : ℚ) ^ (format.precision + full')) : full ≤ full' := by
  have powers := (zpow_lt_zpow_iff_right₀ one_lt_two).mp (lower.trans_lt upper)
  omega

theorem exponentOf_congr {numerator' denominator' : Nat} (numeratorPos : 0 < numerator)
    (denominatorPos : 0 < denominator) (numeratorPos' : 0 < numerator')
    (denominatorPos' : 0 < denominator')
    (equal : (numerator : ℚ) / denominator = (numerator' : ℚ) / denominator') :
    format.exponentOf numerator denominator = format.exponentOf numerator' denominator' := by
  obtain ⟨full, exponent, lower, upper⟩ := format.exponentOf_spec numeratorPos denominatorPos
  obtain ⟨full', exponent', lower', upper'⟩ := format.exponentOf_spec numeratorPos' denominatorPos'
  rw [← equal] at lower' upper'
  rw [exponent, exponent', le_antisymm (full_le lower upper') (full_le lower' upper)]

/-- Equal ratios are rounded alike. -/
theorem round_congr {numerator' denominator' : Nat} (denominatorPos : 0 < denominator)
    (denominatorPos' : 0 < denominator')
    (equal : (numerator : ℚ) / denominator = (numerator' : ℚ) / denominator') :
    format.round numerator denominator = format.round numerator' denominator' := by
  have nonzero : (denominator : ℚ) ≠ 0 := Nat.cast_ne_zero.mpr denominatorPos.ne'
  have nonzero' : (denominator' : ℚ) ≠ 0 := Nat.cast_ne_zero.mpr denominatorPos'.ne'
  have zeros : numerator = 0 ↔ numerator' = 0 := by
    have ratios : (numerator : ℚ) / denominator = 0 ↔ (numerator' : ℚ) / denominator' = 0 := by
      rw [equal]
    simpa [nonzero, nonzero'] using ratios
  by_cases zero : numerator = 0
  · simp only [round, zero, zeros.mp zero, ↓reduceIte]
  · have zero' : ¬numerator' = 0 := fun other => zero (zeros.mpr other)
    have exponents : format.exponentOf numerator denominator =
        format.exponentOf numerator' denominator' :=
      exponentOf_congr (Nat.pos_of_ne_zero zero) denominatorPos (Nat.pos_of_ne_zero zero')
        denominatorPos' equal
    have significands : ∀ exponent,
        roundQuotient (divideByPower 2 numerator denominator exponent).1
            (divideByPower 2 numerator denominator exponent).2 =
          roundQuotient (divideByPower 2 numerator' denominator' exponent).1
            (divideByPower 2 numerator' denominator' exponent).2 := by
      intro exponent
      apply roundQuotient_congr (divideByPower_pos two_pos denominatorPos _ _)
        (divideByPower_pos two_pos denominatorPos' _ _)
      rw [divideByPower_ratio two_pos, divideByPower_ratio two_pos, equal]
    simp only [round, zero, zero', ↓reduceIte, exponents, significands]

/-- The exponent of a value that the format holds is the one it is held with. -/
theorem exponentOf_of_canonical {significand : Nat} {exponent : ℤ}
    (canonical : format.Canonical significand exponent) (numeratorPos : 0 < numerator)
    (denominatorPos : 0 < denominator)
    (value : (numerator : ℚ) / denominator = significand * 2 ^ exponent) :
    format.exponentOf numerator denominator = exponent := by
  obtain ⟨below, least, _, fullOrLeast⟩ := canonical
  simp only [Nat.pow_eq] at below fullOrLeast
  obtain ⟨full, spec, lower, upper⟩ := format.exponentOf_spec numeratorPos denominatorPos
  have valueLt : (numerator : ℚ) / denominator < 2 ^ (format.precision + exponent) := by
    have below' : (significand : ℚ) < 2 ^ format.precision := by exact_mod_cast below
    rw [value, zpow_add₀ two_ne_zero, zpow_natCast]
    gcongr
  have fullLe : full ≤ exponent := full_le lower valueLt
  rcases fullOrLeast with enough | equal
  · have valueGe : (2 : ℚ) ^ (format.precision - 1 + exponent) ≤ numerator / denominator := by
      rw [value, zpow_add₀ two_ne_zero]
      gcongr
      calc (2 : ℚ) ^ ((format.precision : ℤ) - 1)
          ≤ 2 ^ ((format.precision - 1 : Nat) : ℤ) := zpow_le_zpow_right₀ one_le_two (by omega)
        _ ≤ significand := by
            rw [zpow_natCast]
            exact_mod_cast enough
    have exponentLe : exponent ≤ full := full_le valueGe upper
    omega
  · omega

theorem round_of_canonical {significand : Nat} {exponent : ℤ}
    (canonical : format.Canonical significand exponent) (significandPos : 0 < significand)
    (denominatorPos : 0 < denominator)
    (value : (numerator : ℚ) / denominator = significand * 2 ^ exponent) :
    format.round numerator denominator = (significand, exponent) := by
  have power : (0 : ℚ) < 2 ^ exponent := zpow_pos two_pos _
  have numeratorPos : 0 < numerator := by
    rcases Nat.eq_zero_or_pos numerator with rfl | positive
    · have positive : (0 : ℚ) < significand * 2 ^ exponent :=
        mul_pos (Nat.cast_pos.mpr significandPos) power
      rw [← value, Nat.cast_zero, zero_div] at positive
      exact absurd positive (lt_irrefl 0)
    · exact positive
  have held := exponentOf_of_canonical canonical numeratorPos denominatorPos value
  have whole : roundQuotient (divideByPower 2 numerator denominator exponent).1
      (divideByPower 2 numerator denominator exponent).2 = significand := by
    apply roundQuotient_of_eq (divideByPower_pos two_pos denominatorPos _ _)
    rw [divideByPower_ratio two_pos, value, Nat.cast_ofNat, mul_div_cancel_right₀ _ power.ne']
  have noCarry : significand ≠ Nat.pow 2 format.precision := canonical.1.ne
  simp only [round, numeratorPos.ne', ↓reduceIte, held, whole, noCarry]

/-- A positive value has one canonical form. -/
theorem canonical_unique {significand significand' : Nat} {exponent exponent' : ℤ}
    (canonical : format.Canonical significand exponent)
    (canonical' : format.Canonical significand' exponent') (significandPos : 0 < significand)
    (significandPos' : 0 < significand')
    (equal : (significand : ℚ) * 2 ^ exponent = significand' * 2 ^ exponent') :
    significand = significand' ∧ exponent = exponent' := by
  have positive := divideByPower_pos two_pos one_pos significand (-exponent)
  have value := dyadic_ratio significand exponent
  have rounded := round_of_canonical canonical significandPos positive value
  rw [round_of_canonical canonical' significandPos' positive (value.trans equal)] at rounded
  exact ⟨congrArg Prod.fst rounded.symm, congrArg Prod.snd rounded.symm⟩

end BinaryFormat

end PointTable.Number

namespace PointTable.Double

open Number

/-! ## Rounding to doubles -/

theorem ofRatio_congr {negative : Bool} {numerator denominator numerator' denominator' : Nat}
    (denominatorPos : 0 < denominator) (denominatorPos' : 0 < denominator')
    (equal : (numerator : ℚ) / denominator = (numerator' : ℚ) / denominator') :
    ofRatio negative numerator denominator = ofRatio negative numerator' denominator' := by
  simp only [ofRatio, BinaryFormat.round_congr denominatorPos denominatorPos' equal]

theorem ofRatio_of_value {negative : Bool} {significand : Nat} {exponent : Int}
    (canonical : binary64.Canonical significand exponent) (significandPos : 0 < significand)
    {numerator denominator : Nat} (denominatorPos : 0 < denominator)
    (value : (numerator : ℚ) / denominator = significand * 2 ^ exponent) :
    ofRatio negative numerator denominator = .finite negative significand exponent canonical := by
  simp only [ofRatio,
    BinaryFormat.round_of_canonical canonical significandPos denominatorPos value, canonical,
    ↓reduceDIte]

/-! ## Comparisons -/

section

variable {x : Double}

theorem isZero_iff (number : x.isFinite = true) : x.isZero = true ↔ x.toRat = 0 := by
  obtain ⟨negative, significand, exponent, canonical, rfl⟩ := exists_finite number
  have power : (2 : ℚ) ^ exponent ≠ 0 := zpow_ne_zero _ two_ne_zero
  cases negative <;> simp [isZero, toRat, signed, power]

/-- What has another rational than zero is not zero, be it a number or not. -/
theorem isZero_of_toRat_ne_zero (nonzero : x.toRat ≠ 0) : x.isZero = false := by
  cases x with
  | nan negative | infinite negative => rfl
  | finite negative significand exponent canonical =>
      exact Bool.eq_false_iff.mpr fun zero => nonzero ((isZero_iff rfl).mp zero)

theorem isNegative_iff (number : x.isFinite = true) : x.isNegative = true ↔ x.toRat < 0 := by
  obtain ⟨negative, significand, exponent, canonical, rfl⟩ := exists_finite number
  have power : (0 : ℚ) < 2 ^ exponent := zpow_pos two_pos _
  cases negative with
  | false =>
      have nonneg : (0 : ℚ) ≤ significand * 2 ^ exponent := by positivity
      simp [isNegative, toRat, signed, nonneg]
  | true =>
      simp [isNegative, toRat, signed, power, Nat.pos_iff_ne_zero]

theorem isPositive_iff (number : x.isFinite = true) : x.isPositive = true ↔ 0 < x.toRat := by
  obtain ⟨negative, significand, exponent, canonical, rfl⟩ := exists_finite number
  have power : (0 : ℚ) < 2 ^ exponent := zpow_pos two_pos _
  cases negative with
  | false => simp [isPositive, toRat, signed, power, Nat.pos_iff_ne_zero]
  | true =>
      have nonneg : (0 : ℚ) ≤ significand * 2 ^ exponent := by positivity
      simp [isPositive, toRat, signed, nonneg]

theorem isBelowOne_iff (number : x.isFinite = true) : x.isBelowOne = true ↔ x.toRat < 1 := by
  obtain ⟨negative, significand, exponent, canonical, rfl⟩ := exists_finite number
  have power : (0 : ℚ) < 2 ^ exponent := zpow_pos two_pos _
  cases negative with
  | false =>
      have ratio := divideByPower_lt_iff significand one_pos (-exponent) 1
      rw [Nat.one_mul, Nat.cast_one, div_one, zpow_neg, lt_mul_inv_iff₀ power] at ratio
      simpa [isBelowOne, toRat, signed] using ratio
  | true =>
      have nonneg : (0 : ℚ) ≤ significand * 2 ^ exponent := by positivity
      have below : -((significand : ℚ) * 2 ^ exponent) < 1 := by linarith
      simp [isBelowOne, toRat, signed, below]

theorem eq_of_toRat_eq {x y : Double} (number : x.isFinite = true) (number' : y.isFinite = true)
    (nonzero : x.isZero = false) (equal : x.toRat = y.toRat) : x = y := by
  have zeros : y.isZero = false := by
    rw [← Bool.not_eq_true, isZero_iff number', ← equal, ← isZero_iff number, nonzero]
    exact Bool.false_ne_true
  have signs : x.isNegative = y.isNegative := by
    rw [Bool.eq_iff_iff, isNegative_iff number, isNegative_iff number', equal]
  have magnitudes : |x.toRat| = |y.toRat| := by rw [equal]
  obtain ⟨negative, significand, exponent, canonical, rfl⟩ := exists_finite number
  obtain ⟨negative', significand', exponent', canonical', rfl⟩ := exists_finite number'
  simp only [isZero, decide_eq_false_iff_not] at nonzero zeros
  rw [abs_toRat, abs_toRat] at magnitudes
  obtain ⟨rfl, rfl⟩ := BinaryFormat.canonical_unique canonical canonical'
    (Nat.pos_of_ne_zero nonzero) (Nat.pos_of_ne_zero zeros) magnitudes
  simp only [isNegative, nonzero, ne_eq, not_false_eq_true, decide_true, Bool.and_true] at signs
  rw [signs]

theorem sameValue_iff {x y : Double} (number : x.isFinite = true) (number' : y.isFinite = true) :
    x.sameValue y = true ↔ x.toRat = y.toRat := by
  cases zero : x.isZero with
  | true =>
      have value := (isZero_iff number).mp zero
      rw [value, eq_comm (a := (0 : ℚ)), ← isZero_iff number']
      obtain ⟨negative, significand, exponent, canonical, rfl⟩ := exists_finite number
      obtain ⟨negative', significand', exponent', canonical', rfl⟩ := exists_finite number'
      simp only [isZero, decide_eq_true_eq] at zero ⊢
      simp only [sameValue, zero, decide_true, Bool.true_and, Bool.or_eq_true, decide_eq_true_eq,
        Bool.and_eq_true]
      constructor
      · rintro (empty | ⟨⟨_, empty⟩, _⟩)
        · exact empty
        · exact empty.symm
      · exact .inl
  | false =>
      constructor
      · intro equal
        rw [eq_of_sameValue zero equal]
      · intro equal
        rw [eq_of_toRat_eq number number' zero equal]
        exact sameValue_refl number'

/-- A number other than zero equals just what has its rational: infinities and non-numbers have
none. -/
theorem sameValue_iff_of_nonzero {x : Double} (number : x.isFinite = true) (nonzero : x.toRat ≠ 0)
    (y : Double) : x.sameValue y = true ↔ x.toRat = y.toRat := by
  cases y with
  | nan negative | infinite negative =>
      obtain ⟨_, _, _, _, rfl⟩ := exists_finite number
      exact iff_of_false Bool.false_ne_true nonzero
  | finite negative significand exponent canonical => exact sameValue_iff number rfl

theorem equalsInt_iff {x : Double} (number : x.isFinite = true) (n : Int) :
    x.equalsInt n = true ↔ x.toRat = n := by
  obtain ⟨negative, significand, exponent, canonical, rfl⟩ := exists_finite number
  have ratio := dyadic_ratio significand exponent
  have positive := divideByPower_pos two_pos one_pos significand (-exponent)
  simp only [equalsInt, decide_eq_true_eq]
  generalize divideByPower 2 significand 1 (-exponent) = scaled at ratio positive
  have nonzero : (scaled.2 : ℚ) ≠ 0 := Nat.cast_ne_zero.mpr positive.ne'
  have value : (finite negative significand exponent canonical).toRat =
      (signed negative scaled.1 : ℚ) / scaled.2 := by
    cases negative <;> simp [toRat, signed, ← ratio, neg_div]
  rw [value, div_eq_iff nonzero]
  exact_mod_cast Iff.rfl

/-- Numbers of one magnitude and one sign are equal. -/
theorem eq_of_abs_eq {x y : Double} (number : x.isFinite = true) (number' : y.isFinite = true)
    (nonzero : x.isZero = false) (signs : x.isNegative = y.isNegative)
    (magnitudes : |x.toRat| = |y.toRat|) : x = y := by
  apply eq_of_toRat_eq number number' nonzero
  have negative := isNegative_iff number
  have negative' := isNegative_iff number'
  rw [signs] at negative
  cases sign : y.isNegative with
  | true =>
      rw [sign] at negative negative'
      rw [abs_of_neg (negative.mp rfl), abs_of_neg (negative'.mp rfl)] at magnitudes
      exact neg_injective magnitudes
  | false =>
      rw [sign] at negative negative'
      have nonneg : 0 ≤ x.toRat := not_lt.mp fun below => Bool.false_ne_true (negative.mpr below)
      have nonneg' : 0 ≤ y.toRat := not_lt.mp fun below => Bool.false_ne_true (negative'.mpr below)
      rwa [abs_of_nonneg nonneg, abs_of_nonneg nonneg'] at magnitudes

end

end PointTable.Double
