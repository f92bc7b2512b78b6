import Mathlib.Data.List.TakeWhile
import PointTable.Number.Literal
import PointTable.Proofs.Number.Value

/-!
# Decimals as text

The text of a decimal is read back as a decimal of the same value, wherever its point stands and
whatever zeros are added or left out. The shortest decimal of a double is rounded to that double
again, so a double can be told from its text.
-/

namespace PointTable

open Number Text

/-! ## Reading digits -/

namespace Number

theorem decimalValue?_of_isDigit {c : Char} (digit : c.isDigit = true) :
    decimalValue? c = some (c.toNat - '0'.toNat) := by
  have bounds : 48 ≤ c.toNat ∧ c.toNat ≤ 57 := Char.isDigit_iff_toNat.mp digit
  simp [decimalValue?, decimalZeros, bounds]

theorem takeDigits_append {digits : List Char} (numeric : ∀ c ∈ digits, c.isDigit = true)
    (rest : List Char) (ends : ∀ c ∈ rest.head?, decimalValue? c = none) :
    takeDigits (digits ++ rest) = (digits.map fun c => c.toNat - '0'.toNat, rest) := by
  induction digits with
  | nil =>
      cases rest with
      | nil => rfl
      | cons c others => simp [takeDigits, ends c rfl]
  | cons digit others ih =>
      rw [List.forall_mem_cons] at numeric
      simp [takeDigits, decimalValue?_of_isDigit numeric.1, ih numeric.2]

theorem ofDigits_map (digits : List Char) :
    ofDigits 10 (digits.map fun c => c.toNat - '0'.toNat) = Nat.ofDigitChars 10 digits 0 := by
  rw [ofDigits, List.foldl_map, Nat.ofDigitChars_eq_foldl]
  simp only [Nat.mul_comm]

theorem decimalOf?_point {whole fraction : List Char}
    (wholeNumeric : ∀ c ∈ whole, c.isDigit = true)
    (fractionNumeric : ∀ c ∈ fraction, c.isDigit = true) (filled : whole ≠ [])
    (tail : List Char) (ends : ∀ c ∈ tail.head?, decimalValue? c = none) :
    decimalOf? (whole ++ '.' :: (fraction ++ tail)) = (exponentOf? tail).map fun exponent =>
      ⟨Nat.ofDigitChars 10 (whole ++ fraction) 0, exponent - fraction.length⟩ := by
  have pointEnds : ∀ c ∈ ('.' :: (fraction ++ tail)).head?, decimalValue? c = none := by
    intro c first
    cases first
    decide
  have wholeTaken := takeDigits_append wholeNumeric _ pointEnds
  simp only [decimalOf?, wholeTaken, takeDigits_append fractionNumeric tail ends, ← List.map_append,
    ofDigits_map, List.length_map, List.isEmpty_map, List.isEmpty_eq_false_iff.mpr filled,
    Bool.false_and, Bool.false_eq_true, ↓reduceIte]

theorem decimalOf?_whole {whole : List Char} (numeric : ∀ c ∈ whole, c.isDigit = true)
    (filled : whole ≠ []) (tail : List Char)
    (ends : ∀ c ∈ tail.head?, decimalValue? c = none ∧ c ≠ '.') :
    decimalOf? (whole ++ tail) = (exponentOf? tail).map fun exponent =>
      ⟨Nat.ofDigitChars 10 whole 0, exponent⟩ := by
  have taken := takeDigits_append numeric tail fun c first => (ends c first).1
  simp only [decimalOf?, taken]
  split
  · exact absurd rfl (ends '.' rfl).2
  · simp only [List.append_nil, ofDigits_map, List.length_nil, Int.natCast_zero, Int.sub_zero,
      List.isEmpty_map, List.isEmpty_eq_false_iff.mpr filled, Bool.false_and, Bool.false_eq_true,
      ↓reduceIte]

theorem exponentOf?_signed (negative : Bool) {digits : List Char}
    (numeric : ∀ c ∈ digits, c.isDigit = true) (filled : digits ≠ []) :
    exponentOf? ('e' :: (if negative then '-' else '+') :: digits) =
      some (Double.signed negative (Nat.ofDigitChars 10 digits 0)) := by
  have taken := takeDigits_append numeric [] (by simp)
  rw [List.append_nil] at taken
  obtain ⟨first, others, rfl⟩ := List.exists_cons_of_ne_nil filled
  cases negative <;>
    simp only [exponentOf?, splitSign, taken, List.map_cons, Double.signed, ← ofDigits_map,
      decide_true, Bool.true_or, Bool.false_eq_true, ↓reduceIte]

end Number

namespace Decimal

/-- The number that a decimal stands for. -/
def value (decimal : Decimal) : ℚ :=
  decimal.digits * 10 ^ decimal.exponent

/-- A text is read as a decimal of some value. -/
def Reads (chars : List Char) (number : ℚ) : Prop :=
  ∃ decimal, decimalOf? chars = some decimal ∧ decimal.value = number

theorem reads_unique {chars : List Char} {number number' : ℚ} (reads : Reads chars number)
    (reads' : Reads chars number') : number = number' := by
  obtain ⟨decimal, read, rfl⟩ := reads
  obtain ⟨decimal', read', rfl⟩ := reads'
  rw [read, Option.some.injEq] at read'
  rw [read']

/-! ## Digits and zeros -/

theorem ofDigitChars_append_zeros (digits : List Char) (zeros : Nat) :
    Nat.ofDigitChars 10 (digits ++ List.replicate zeros '0') 0 =
      Nat.ofDigitChars 10 digits 0 * 10 ^ zeros := by
  rw [Nat.ofDigitChars_append, Nat.ofDigitChars_replicate_zero, Nat.mul_comm]

theorem ofDigitChars_zeros_append (digits : List Char) (zeros : Nat) :
    Nat.ofDigitChars 10 (List.replicate zeros '0' ++ digits) 0 = Nat.ofDigitChars 10 digits 0 := by
  rw [Nat.ofDigitChars_append, Nat.ofDigitChars_replicate_zero, Nat.mul_zero]

theorem isDigit_of_mem_zeros {zeros : Nat} {c : Char} (member : c ∈ List.replicate zeros '0') :
    c.isDigit = true := by
  rw [List.eq_of_mem_replicate member]
  decide

/-- The digits of a decimal are its significant ones and zeros behind them. -/
theorem toDigits_eq_append_zeros (decimal : Decimal) :
    ∃ zeros, Nat.toDigits 10 decimal.digits =
      decimal.significantDigits ++ List.replicate zeros '0' := by
  have parts := List.takeWhile_append_dropWhile (p := (· = '0'))
    (l := (Nat.toDigits 10 decimal.digits).reverse)
  have zeros : ((Nat.toDigits 10 decimal.digits).reverse.takeWhile (· = '0')).reverse =
      List.replicate ((Nat.toDigits 10 decimal.digits).reverse.takeWhile (· = '0')).length '0' := by
    rw [List.eq_replicate_iff]
    refine ⟨List.length_reverse, fun c member => ?_⟩
    simpa using List.mem_takeWhile_imp (List.mem_reverse.mp member)
  exact ⟨_, by rw [← zeros, significantDigits, ← List.reverse_append, parts, List.reverse_reverse]⟩

theorem isDigit_of_mem_significantDigits {decimal : Decimal} {c : Char}
    (member : c ∈ decimal.significantDigits) : c.isDigit = true := by
  obtain ⟨zeros, digits⟩ := toDigits_eq_append_zeros decimal
  apply Nat.isDigit_of_mem_toDigits (b := 10) (n := decimal.digits) (by decide) (by decide)
  rw [digits]
  exact List.mem_append_left _ member

theorem significantDigits_ne_nil {decimal : Decimal} (positive : 0 < decimal.digits) :
    decimal.significantDigits ≠ [] := by
  intro empty
  obtain ⟨zeros, digits⟩ := toDigits_eq_append_zeros decimal
  have value := Nat.ofDigitChars_ten_toDigits (n := decimal.digits)
  rw [digits, ofDigitChars_append_zeros, empty, Nat.ofDigitChars_nil, Nat.zero_mul] at value
  omega

/-- Leaving zeros out and counting them in the exponent keeps the value. -/
theorem value_eq_significantDigits (decimal : Decimal) :
    decimal.value = Nat.ofDigitChars 10 decimal.significantDigits 0 *
      10 ^ (decimal.leading + 1 - decimal.significantDigits.length) := by
  obtain ⟨zeros, digits⟩ := toDigits_eq_append_zeros decimal
  have number : decimal.digits =
      Nat.ofDigitChars 10 decimal.significantDigits 0 * 10 ^ zeros := by
    rw [← ofDigitChars_append_zeros, ← digits, Nat.ofDigitChars_ten_toDigits]
  have lengths : length decimal.digits = decimal.significantDigits.length + zeros := by
    rw [length, digits, List.length_append, List.length_replicate]
  have exponent : decimal.leading + 1 - decimal.significantDigits.length =
      zeros + decimal.exponent := by
    rw [leading, lengths]
    omega
  rw [value, number, exponent, zpow_add₀ (by norm_num), zpow_natCast, Nat.cast_mul, Nat.cast_pow,
    Nat.cast_ofNat, mul_assoc]

/-! ## Reading back -/

section

variable {digits : List Char}

theorem reads_point {whole fraction : List Char} (wholeNumeric : ∀ c ∈ whole, c.isDigit = true)
    (fractionNumeric : ∀ c ∈ fraction, c.isDigit = true) (filled : whole ≠ []) :
    Reads (whole ++ '.' :: fraction)
      (Nat.ofDigitChars 10 (whole ++ fraction) 0 * 10 ^ (-fraction.length : ℤ)) := by
  have read := decimalOf?_point wholeNumeric fractionNumeric filled [] (by simp)
  rw [List.append_nil] at read
  refine ⟨_, read, ?_⟩
  simp only [value, zero_sub]

theorem reads_whole {whole : List Char} (numeric : ∀ c ∈ whole, c.isDigit = true)
    (filled : whole ≠ []) : Reads whole (Nat.ofDigitChars 10 whole 0) := by
  have read := decimalOf?_whole numeric filled [] (by simp)
  rw [List.append_nil] at read
  refine ⟨_, read, ?_⟩
  simp only [value, zpow_zero, mul_one]

theorem reads_below (numeric : ∀ c ∈ digits, c.isDigit = true) (zeros : Nat) :
    Reads ('0' :: '.' :: (List.replicate zeros '0' ++ digits))
      (Nat.ofDigitChars 10 digits 0 * 10 ^ (-(zeros + digits.length) : ℤ)) := by
  have fraction : ∀ c ∈ List.replicate zeros '0' ++ digits, c.isDigit = true := by
    rw [List.forall_mem_append]
    exact ⟨fun _ => isDigit_of_mem_zeros, numeric⟩
  have whole : ∀ c ∈ ['0'], c.isDigit = true := List.forall_mem_singleton.mpr rfl
  have reads := reads_point whole fraction (by decide)
  rw [← List.append_assoc, show ['0'] ++ List.replicate zeros '0' = List.replicate (zeros + 1) '0'
    from rfl, ofDigitChars_zeros_append, List.length_append, List.length_replicate,
    Nat.cast_add] at reads
  exact reads

theorem reads_padded (numeric : ∀ c ∈ digits, c.isDigit = true) (filled : digits ≠ [])
    (keepsPoint : Bool) (zeros : Nat) :
    Reads (digits ++ List.replicate zeros '0' ++ if keepsPoint then ['.', '0'] else [])
      (Nat.ofDigitChars 10 digits 0 * 10 ^ (zeros : ℤ)) := by
  have whole : ∀ c ∈ digits ++ List.replicate zeros '0', c.isDigit = true := by
    rw [List.forall_mem_append]
    exact ⟨numeric, fun _ => isDigit_of_mem_zeros⟩
  have wholeFilled : digits ++ List.replicate zeros '0' ≠ [] := by simp [filled]
  cases keepsPoint with
  | false =>
      have reads := reads_whole whole wholeFilled
      rw [ofDigitChars_append_zeros, Nat.cast_mul, Nat.cast_pow, Nat.cast_ofNat] at reads
      simpa using reads
  | true =>
      have fraction : ∀ c ∈ ['0'], c.isDigit = true := List.forall_mem_singleton.mpr rfl
      have reads := reads_point whole fraction wholeFilled
      have zero : digits ++ List.replicate zeros '0' ++ ['0'] =
          digits ++ List.replicate (zeros + 1) '0' := by
        rw [List.append_assoc, ← List.replicate_succ']
      rw [zero, ofDigitChars_append_zeros, pow_succ] at reads
      simpa [mul_assoc] using reads

theorem reads_split (numeric : ∀ c ∈ digits, c.isDigit = true) (filled : digits ≠ [])
    {whole : Nat} (positive : 0 < whole) (inside : whole ≤ digits.length) :
    Reads (digits.take whole ++ '.' :: digits.drop whole)
      (Nat.ofDigitChars 10 digits 0 * 10 ^ (whole - digits.length : ℤ)) := by
  have before : ∀ c ∈ digits.take whole, c.isDigit = true := fun c member =>
    numeric c (List.mem_of_mem_take member)
  have behind : ∀ c ∈ digits.drop whole, c.isDigit = true := fun c member =>
    numeric c (List.mem_of_mem_drop member)
  have reads := reads_point before behind (by simp [filled, positive.ne'])
  rw [List.take_append_drop, List.length_drop, Nat.cast_sub inside, neg_sub] at reads
  exact reads

/-- Digits with the point at any place keep their value. -/
theorem positional_reads (numeric : ∀ c ∈ digits, c.isDigit = true) (filled : digits ≠ [])
    (keepsPoint : Bool) (leading : Int) :
    Reads (positional keepsPoint digits leading)
      (Nat.ofDigitChars 10 digits 0 * 10 ^ (leading + 1 - digits.length)) := by
  unfold positional
  split
  · next below =>
      have exponent : leading + 1 - digits.length =
          -(((-leading - 1).toNat : ℤ) + digits.length) := by omega
      rw [exponent]
      exact reads_below numeric _
  · next above =>
      simp only
      split
      · next short =>
          have exponent : leading + 1 - digits.length =
              ((leading.toNat + 1 - digits.length : Nat) : ℤ) := by omega
          rw [exponent]
          exact reads_padded numeric filled keepsPoint _
      · next long =>
          have exponent : leading + 1 - digits.length =
              ((leading.toNat + 1 : Nat) : ℤ) - digits.length := by omega
          rw [exponent]
          exact reads_split numeric filled (Nat.succ_pos _) (by omega)

theorem exponentOf?_leading (leading : Int) :
    exponentOf? ('e' :: (if leading < 0 then '-' else '+') ::
      (Nat.toDigits 10 leading.natAbs).leftpad 2 '0') = some leading := by
  have numeric : ∀ c ∈ (Nat.toDigits 10 leading.natAbs).leftpad 2 '0', c.isDigit = true := by
    rw [List.leftpad, List.forall_mem_append]
    exact ⟨fun _ => isDigit_of_mem_zeros,
      fun _ => Nat.isDigit_of_mem_toDigits (by decide) (by decide)⟩
  have filled : (Nat.toDigits 10 leading.natAbs).leftpad 2 '0' ≠ [] := by
    simp [List.leftpad]
  have read := exponentOf?_signed (decide (leading < 0)) numeric filled
  rw [List.leftpad, ofDigitChars_zeros_append, Nat.ofDigitChars_ten_toDigits] at read
  simp only [decide_eq_true_eq] at read
  rw [List.leftpad, read]
  congr 1
  simp only [Double.signed, decide_eq_true_eq]
  split <;> omega

/-- Digits with an exponent keep their value. -/
theorem scientific_reads (numeric : ∀ c ∈ digits, c.isDigit = true) (filled : digits ≠ [])
    (leading : Int) :
    Reads (scientific digits leading)
      (Nat.ofDigitChars 10 digits 0 * 10 ^ (leading + 1 - digits.length)) := by
  have markEnds : ∀ c ∈ ('e' :: (if leading < 0 then '-' else '+') ::
      (Nat.toDigits 10 leading.natAbs).leftpad 2 '0').head?,
      decimalValue? c = none ∧ c ≠ '.' := by
    intro c first
    cases first
    decide
  cases digits with
  | nil => exact absurd rfl filled
  | cons first others =>
      cases others with
      | nil =>
          have read := decimalOf?_whole numeric filled _ markEnds
          rw [exponentOf?_leading] at read
          refine ⟨_, read, ?_⟩
          simp [value]
      | cons second rest =>
          rw [List.forall_mem_cons] at numeric
          have whole : ∀ c ∈ [first], c.isDigit = true := List.forall_mem_singleton.mpr numeric.1
          have read := decimalOf?_point whole numeric.2 (List.cons_ne_nil _ _) _
            fun c head => (markEnds c head).1
          rw [exponentOf?_leading] at read
          refine ⟨_, read, ?_⟩
          have exponent : leading + 1 - ((first :: second :: rest).length : ℤ) =
              leading - (second :: rest).length := by
            simp only [List.length_cons]
            omega
          rw [exponent]
          rfl

/-- The text of a positive decimal is read back as a decimal of the same value. -/
theorem text_reads (style : Style) {decimal : Decimal} (positive : 0 < decimal.digits) :
    Reads (decimal.text style) decimal.value := by
  have filled := significantDigits_ne_nil positive
  rw [value_eq_significantDigits, text]
  split
  · exact positional_reads (fun _ => isDigit_of_mem_significantDigits) filled _ _
  · exact scientific_reads (fun _ => isDigit_of_mem_significantDigits) filled _

end

theorem not_reads_minus (chars : List Char) (number : ℚ) : ¬Reads ('-' :: chars) number := by
  have sign : decimalValue? '-' = none := by decide
  rintro ⟨decimal, read, _⟩
  simp [decimalOf?, takeDigits, sign] at read

/-! ## Characters -/

/-- The characters that numbers are written with. -/
def IsNumeral (c : Char) : Prop :=
  c.isDigit = true ∨ c ∈ ['.', 'e', '+', '-']

instance (c : Char) : Decidable (IsNumeral c) := by
  unfold IsNumeral
  infer_instance

theorem isNumeral_of_mem_positional {keepsPoint : Bool} {digits : List Char} {leading : Int}
    (numeric : ∀ c ∈ digits, c.isDigit = true) {c : Char}
    (member : c ∈ positional keepsPoint digits leading) : IsNumeral c := by
  have zeroes : ∀ {zeros : Nat}, c ∈ List.replicate zeros '0' → IsNumeral c :=
    fun zero => .inl (isDigit_of_mem_zeros zero)
  unfold positional at member
  split at member
  · simp only [List.cons_append, List.mem_cons, List.mem_append] at member
    rcases member with rfl | rfl | zero | digit
    · decide
    · decide
    · exact zeroes zero
    · exact .inl (numeric c digit)
  · simp only at member
    split at member
    · rw [List.mem_append, List.mem_append] at member
      rcases member with (digit | zero) | point
      · exact .inl (numeric c digit)
      · exact zeroes zero
      · cases keepsPoint with
        | false => cases point
        | true =>
            rw [if_pos rfl, List.mem_cons, List.mem_singleton] at point
            rcases point with rfl | rfl <;> decide
    · rw [List.mem_append, List.mem_cons] at member
      rcases member with digit | rfl | digit
      · exact .inl (numeric c (List.mem_of_mem_take digit))
      · decide
      · exact .inl (numeric c (List.mem_of_mem_drop digit))

theorem isNumeral_of_mem_scientific {digits : List Char} {leading : Int}
    (numeric : ∀ c ∈ digits, c.isDigit = true) {c : Char}
    (member : c ∈ scientific digits leading) : IsNumeral c := by
  simp only [scientific, List.leftpad, List.mem_append, List.mem_cons] at member
  rcases member with mantissa | rfl | rfl | zero | digit
  · split at mantissa
    · rw [List.mem_cons, List.mem_cons] at mantissa
      rcases mantissa with rfl | rfl | digit
      · exact .inl (numeric c List.mem_cons_self)
      · decide
      · exact .inl (numeric c (List.mem_cons_of_mem _ digit))
    · exact .inl (numeric c mantissa)
  · decide
  · split <;> decide
  · exact .inl (isDigit_of_mem_zeros zero)
  · exact .inl (Nat.isDigit_of_mem_toDigits (by decide) (by decide) digit)

theorem isNumeral_of_mem_text {style : Style} {decimal : Decimal} {c : Char}
    (member : c ∈ decimal.text style) : IsNumeral c := by
  rw [text] at member
  split at member
  · exact isNumeral_of_mem_positional (fun _ => isDigit_of_mem_significantDigits) member
  · exact isNumeral_of_mem_scientific (fun _ => isDigit_of_mem_significantDigits) member

/-! ## Shortest decimals -/

theorem divideByPower_value (decimal : Decimal) :
    ((divideByPower 10 decimal.digits 1 (-decimal.exponent)).1 : ℚ) /
      (divideByPower 10 decimal.digits 1 (-decimal.exponent)).2 = decimal.value := by
  rw [divideByPower_ratio (by decide), value, Nat.cast_one, div_one, zpow_neg, div_inv_eq_mul,
    Nat.cast_ofNat]

/-- Whatever ratio has the value of the decimal is rounded to the double. -/
def Spells (decimal : Decimal) (x : Double) : Prop :=
  ∀ numerator denominator : Nat, 0 < denominator →
    (numerator : ℚ) / denominator = decimal.value → Double.ofRatio false numerator denominator = x

theorem Spells.unique {decimal decimal' : Decimal} {x y : Double} (spells : decimal.Spells x)
    (spells' : decimal'.Spells y) (values : decimal.value = decimal'.value) : x = y := by
  have positive := divideByPower_pos (show 0 < 10 by decide) one_pos decimal.digits
    (-decimal.exponent)
  have ratio := divideByPower_value decimal
  rw [← spells _ _ positive ratio, spells' _ _ positive (ratio.trans values)]

section

variable {significand : Nat} {exponent : Int} {canonical : binary64.Canonical significand exponent}

theorem spells_of_toDouble (significandPos : 0 < significand) {decimal : Decimal}
    (read : decimal.toDouble false = .finite false significand exponent canonical) :
    decimal.Spells (.finite false significand exponent canonical) := by
  intro numerator denominator positive ratio
  rw [← read]
  unfold toDouble at read ⊢
  simp only at read ⊢
  split at read
  · cases read
    exact absurd significandPos (Nat.lt_irrefl 0)
  · split at read
    · cases read
    · next inside notBeyond =>
        rw [if_neg inside, if_neg notBeyond]
        apply Double.ofRatio_congr positive (divideByPower_pos (by decide) one_pos _ _)
        rw [ratio, divideByPower_value]

/-- Only decimals that read back are taken from a grid. -/
theorem toDouble_of_ofGrid? {target : Double} {numerator denominator : Nat} {place : Int}
    {decimal : Decimal} (found : ofGrid? target numerator denominator place = some decimal) :
    decimal.toDouble false = target := by
  simp only [ofGrid?] at found
  split at found
  · next low =>
      split at found
      · next high =>
          cases found
          simp only [Bool.and_eq_true, decide_eq_true_eq] at high
          exact high.1
      · cases found
        exact low
  · split at found
    · next high =>
        cases found
        exact high
    · cases found

theorem spells_of_value (significandPos : 0 < significand) {decimal : Decimal}
    (exact : decimal.value = significand * 2 ^ exponent) :
    decimal.Spells (.finite false significand exponent canonical) := by
  intro numerator denominator positive ratio
  exact Double.ofRatio_of_value canonical significandPos positive (ratio.trans exact)

theorem whole_value (significand : Nat) {exponent : Int} (nonneg : 0 ≤ exponent) :
    value ⟨(divideByPower 2 significand 1 (-exponent)).1, 0⟩ = significand * 2 ^ exponent := by
  have ratio := dyadic_ratio significand exponent
  have denominator : (divideByPower 2 significand 1 (-exponent)).2 = 1 := by
    unfold divideByPower
    split
    · have zero : (-exponent).toNat = 0 := by omega
      simp [zero]
    · rfl
  rw [denominator, Nat.cast_one, div_one] at ratio
  rw [value, zpow_zero, mul_one, ratio]

/-- Negative powers of two are expanded by powers of five. -/
theorem fraction_value (significand : Nat) {exponent : Int} (negative : exponent < 0) :
    value ⟨significand * Nat.pow 5 (-exponent).toNat, exponent⟩ = significand * 2 ^ exponent := by
  have magnitude : ((-exponent).toNat : ℤ) = -exponent := by omega
  have fives : (5 : ℚ) ^ (-exponent).toNat * 5 ^ exponent = 1 := by
    rw [← zpow_natCast, magnitude, zpow_neg, inv_mul_cancel₀ (zpow_ne_zero _ (by norm_num))]
  rw [value, Nat.pow_eq, Nat.cast_mul, Nat.cast_pow, Nat.cast_ofNat,
    show (10 : ℚ) = 5 * 2 by norm_num, mul_zpow, mul_assoc, ← mul_assoc _ (5 ^ exponent) _, fives,
    one_mul]

variable (canonical) in
/-- The shortest decimal is rounded to the double it is made from. -/
theorem shortest_spells (significandPos : 0 < significand) :
    (shortest (.finite false significand exponent canonical) significand exponent).Spells
      (.finite false significand exponent canonical) := by
  simp only [shortest]
  split
  · next decimal found =>
      obtain ⟨dropped, _, grid⟩ := List.exists_of_findSome?_eq_some found
      exact spells_of_toDouble significandPos (toDouble_of_ofGrid? grid)
  · apply spells_of_value significandPos
    split
    · next whole => exact whole_value significand whole
    · next fraction => exact fraction_value significand (not_le.mp fraction)

theorem Spells.digits_pos (significandPos : 0 < significand) {decimal : Decimal}
    (spells : decimal.Spells (.finite false significand exponent canonical)) :
    0 < decimal.digits := by
  rw [Nat.pos_iff_ne_zero]
  intro zero
  have rounded := spells 0 1 one_pos (by simp [value, zero])
  have nothing : Double.ofRatio false 0 1 = Double.zero false := by decide
  rw [nothing] at rounded
  cases rounded
  exact absurd significandPos (Nat.lt_irrefl 0)

end

end Decimal

namespace Double

/-- What is read has no sign, so a sign in front of it can be told. -/
theorem withSign_inj {negative negative' : Bool} {chars chars' : List Char} {value value' : ℚ}
    (reads : Decimal.Reads chars value) (reads' : Decimal.Reads chars' value')
    (equal : withSign negative chars = withSign negative' chars') :
    negative = negative' ∧ chars = chars' := by
  rw [withSign, withSign, String.ofList_inj] at equal
  cases negative with
  | false =>
      cases negative' with
      | false => exact ⟨rfl, equal⟩
      | true =>
          subst equal
          exact absurd reads (Decimal.not_reads_minus _ _)
  | true =>
      cases negative' with
      | false =>
          subst equal
          exact absurd reads' (Decimal.not_reads_minus _ _)
      | true => exact ⟨rfl, List.tail_eq_of_cons_eq equal⟩

/-- A number other than zero can be told from its text. -/
theorem text_inj {x y : Double} (number : x.isFinite = true) (number' : y.isFinite = true)
    (nonzero : x.isZero = false) (nonzero' : y.isZero = false) (equal : x.text = y.text) :
    x = y := by
  obtain ⟨negative, significand, exponent, canonical, rfl⟩ := exists_finite number
  obtain ⟨negative', significand', exponent', canonical', rfl⟩ := exists_finite number'
  simp only [isZero, decide_eq_false_iff_not] at nonzero nonzero'
  have positive := Nat.pos_of_ne_zero nonzero
  have positive' := Nat.pos_of_ne_zero nonzero'
  have spells := Decimal.shortest_spells canonical positive
  have spells' := Decimal.shortest_spells canonical' positive'
  have reads := Decimal.text_reads ⟨16, true⟩ (spells.digits_pos positive)
  have reads' := Decimal.text_reads ⟨16, true⟩ (spells'.digits_pos positive')
  simp only [text, nonzero, nonzero', ↓reduceIte] at equal
  obtain ⟨rfl, chars⟩ := withSign_inj reads reads' equal
  rw [chars] at reads
  have magnitudes := spells.unique spells' (Decimal.reads_unique reads reads')
  injection magnitudes with _ significands exponents
  subst significands exponents
  rfl

theorem mem_withSign {negative : Bool} {chars : List Char} {c : Char}
    (member : c ∈ (withSign negative chars).toList) : c = '-' ∨ c ∈ chars := by
  rw [withSign, String.toList_ofList] at member
  cases negative with
  | false => exact .inr member
  | true => exact List.mem_cons.mp member

/-- A number is written with characters of numbers. -/
theorem isNumeral_of_mem_text {x : Double} (number : x.isFinite = true) {c : Char}
    (member : c ∈ x.text.toList) : Decimal.IsNumeral c := by
  obtain ⟨negative, significand, exponent, canonical, rfl⟩ := exists_finite number
  simp only [text] at member
  split at member
  · rcases mem_withSign member with rfl | zero
    · decide
    · simp only [List.mem_cons, List.not_mem_nil, or_false] at zero
      rcases zero with rfl | rfl | rfl <;> decide
  · rcases mem_withSign member with rfl | member
    · decide
    · exact Decimal.isNumeral_of_mem_text member

end Double

end PointTable
