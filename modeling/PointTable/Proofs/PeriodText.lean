import Mathlib.Data.Nat.Cast.Field
import PointTable.Proofs.Naming
import PointTable.Proofs.Number.Decimal
import PointTable.Proofs.Text.Blank
import PointTable.Period

/-!
# Spellings of periods

A period is spelled as an integer where it is whole and as a shortest decimal elsewhere. Decimals
have a point or an exponent and integers have neither, so equal spellings are of equal values; a
name spells the period without sign and with another mark for the point, and loses nothing else. So
the name of a storage table is of one sheet and one magnitude, whatever the sheet is called.
-/

namespace PointTable

namespace Double

open Number

theorem toRat_of_toInt? {x : Double} {whole : Int} (equal : x.toInt? = some whole) :
    x.toRat = whole := by
  cases x with
  | nan negative => cases equal
  | infinite negative => cases equal
  | finite negative significand exponent canonical =>
      have ratio := dyadic_ratio significand exponent
      have positive := divideByPower_pos two_pos one_pos significand (-exponent)
      simp only [toInt?] at equal
      split at equal
      · next divides =>
          rw [← Nat.cast_div (Nat.dvd_of_mod_eq_zero divides)
            (Nat.cast_ne_zero.mpr positive.ne')] at ratio
          cases equal
          generalize (divideByPower 2 significand 1 (-exponent)).1 /
            (divideByPower 2 significand 1 (-exponent)).2 = quotient at ratio ⊢
          cases negative <;> simp [toRat, signed, ratio]
      · cases equal

theorem toInt?_of_toRat {x : Double} (number : x.isFinite = true) {whole : Int}
    (equal : x.toRat = whole) : x.toInt? = some whole := by
  have scaled := (equalsInt_iff number whole).mpr equal
  obtain ⟨negative, significand, exponent, canonical, rfl⟩ := exists_finite number
  have positive := divideByPower_pos two_pos one_pos significand (-exponent)
  simp only [equalsInt, decide_eq_true_eq] at scaled
  simp only [toInt?]
  generalize divideByPower 2 significand 1 (-exponent) = ratio at scaled positive
  have magnitude : ratio.1 = whole.natAbs * ratio.2 := by
    have same := congrArg Int.natAbs scaled
    rw [Int.natAbs_mul, Int.natAbs_natCast] at same
    rw [← same]
    cases negative <;> simp [signed]
  have product : signed negative whole.natAbs * (ratio.2 : Int) = whole * ratio.2 := by
    rw [← scaled, magnitude]
    cases negative <;> simp [signed]
  rw [magnitude, Nat.mul_mod_left, if_pos rfl, Nat.mul_div_cancel _ positive,
    Int.eq_of_mul_eq_mul_right (by omega) product]

theorem isZero_of_toInt? {x : Double} (broken : x.toInt? = none) : x.isZero = false := by
  cases x with
  | nan negative => rfl
  | infinite negative => rfl
  | finite negative significand exponent canonical =>
      rw [Bool.eq_false_iff]
      intro zero
      simp only [isZero, decide_eq_true_eq] at zero
      have numerator : (divideByPower 2 significand 1 (-exponent)).1 = 0 := by
        unfold divideByPower
        split <;> simp [zero]
      simp [toInt?, numerator] at broken

end Double

namespace Period

theorem text_ne_toString {x : Double} (number : x.isFinite = true) (whole : Int) :
    x.text ≠ toString whole := by
  intro equal
  obtain ⟨c, member, mark⟩ := Double.exists_mark_mem_text number
  rw [equal] at member
  rcases mark with rfl | rfl
  · exact Naming.not_mem_int (by decide) (by decide) whole member
  · exact Naming.not_mem_int (by decide) (by decide) whole member

theorem toRat_eq_of_text_eq {period period' : Double} (number : period.isFinite = true)
    (number' : period'.isFinite = true) (equal : text period = text period') :
    period.toRat = period'.toRat := by
  unfold text at equal
  cases whole : period.toInt? with
  | some n =>
      cases whole' : period'.toInt? with
      | some n' =>
          simp only [whole, whole'] at equal
          rw [Double.toRat_of_toInt? whole, Double.toRat_of_toInt? whole',
            Int.repr_injective equal]
      | none =>
          simp only [whole, whole'] at equal
          exact absurd equal.symm (text_ne_toString number' n)
  | none =>
      cases whole' : period'.toInt? with
      | some n' =>
          simp only [whole, whole'] at equal
          exact absurd equal (text_ne_toString number n')
      | none =>
          simp only [whole, whole'] at equal
          rw [Double.text_inj number number' (Double.isZero_of_toInt? whole)
            (Double.isZero_of_toInt? whole') equal]

/-- Periods are spelled alike exactly when they have one value: whether a period is whole, and which
integer it then is, depends on its value alone. -/
theorem text_eq_iff {period period' : Double} (number : period.isFinite = true)
    (number' : period'.isFinite = true) :
    text period = text period' ↔ period.toRat = period'.toRat := by
  refine ⟨toRat_eq_of_text_eq number number', fun equal => ?_⟩
  cases whole : period.toInt? with
  | some n =>
      have whole' :=
        Double.toInt?_of_toRat number' (equal.symm.trans (Double.toRat_of_toInt? whole))
      simp only [text, whole, whole']
  | none =>
      rw [Double.eq_of_toRat_eq number number' (Double.isZero_of_toInt? whole) equal]

theorem isNumeral_of_mem_text {period : Double} (number : period.isFinite = true) {c : Char}
    (member : c ∈ (text period).toList) : Decimal.IsNumeral c := by
  unfold text at member
  split at member
  · rcases Naming.isDigit_of_mem_int member with rfl | digit
    · decide
    · exact .inl digit
  · exact Double.isNumeral_of_mem_text number member

theorem not_mem_text {period : Double} (number : period.isFinite = true) {c : Char}
    (other : ¬Decimal.IsNumeral c) : c ∉ (text period).toList := fun member =>
  other (isNumeral_of_mem_text number member)

/-! ## Names -/

/-- The characters of a name that spell a number. -/
def IsNameNumeral (c : Char) : Prop :=
  Decimal.IsNumeral c ∨ c = '_'

instance (c : Char) : Decidable (IsNameNumeral c) := by
  unfold IsNameNumeral
  infer_instance

theorem isNameNumeral_of_mem_nameText {period : Double} (number : period.isFinite = true) {c : Char}
    (member : c ∈ (nameText period).toList) : IsNameNumeral c := by
  rw [nameText, String.toList_ofList, List.mem_map] at member
  obtain ⟨source, sourceMember, rfl⟩ := member
  split
  · exact .inr rfl
  · exact .inl (isNumeral_of_mem_text ((Double.isFinite_abs period).trans number) sourceMember)

/-- The mark is in no spelling, so putting the point back for it gives the spelling again. -/
theorem map_nameText {period : Double} (number : period.isFinite = true) :
    (nameText period).toList.map (fun c => if c = '_' then '.' else c) =
      (text period.abs).toList := by
  rw [nameText, String.toList_ofList, List.map_map]
  nth_rewrite 2 [← List.map_id (text period.abs).toList]
  apply List.map_congr_left
  intro c member
  have numeral := isNumeral_of_mem_text ((Double.isFinite_abs period).trans number) member
  have noMark : c ≠ '_' := by
    rintro rfl
    exact absurd numeral (by decide)
  by_cases point : c = '.'
  · simp [point]
  · simp [point, noMark]

/-- Periods have one spelling in names exactly when they have one magnitude. -/
theorem nameText_eq_iff {period period' : Double} (number : period.isFinite = true)
    (number' : period'.isFinite = true) :
    nameText period = nameText period' ↔ |period.toRat| = |period'.toRat| := by
  have spellings : nameText period = nameText period' ↔ text period.abs = text period'.abs := by
    constructor
    · intro equal
      rw [← String.toList_inj, ← map_nameText number, ← map_nameText number', equal]
    · intro equal
      rw [nameText, nameText, equal]
  rw [spellings, text_eq_iff ((Double.isFinite_abs period).trans number)
    ((Double.isFinite_abs period').trans number'), Double.toRat_abs, Double.toRat_abs]

/-- The name of a storage table tells its sheet and the magnitude of its period. The sheet may hold
the separator as well, but its last letter is not in the spelling of a period. -/
theorem storageName_eq_iff {sheet sheet' : String} {period period' : Double}
    (number : period.isFinite = true) (number' : period'.isFinite = true) :
    storageName sheet period = storageName sheet' period' ↔
      sheet = sheet' ∧ |period.toRat| = |period'.toRat| := by
  have letter : ∀ {period : Double}, period.isFinite = true → 's' ∉ (nameText period).toList := by
    intro period number member
    exact absurd (isNameNumeral_of_mem_nameText number member) (by decide)
  rw [storageName, storageName,
    Naming.separated_inj (c := 's') (by decide) (letter number) (letter number'),
    nameText_eq_iff number number']

/-- Names of storage tables are equal exactly if the sheets and the magnitudes of the periods are,
and spellings of periods exactly if the periods are, as values: the two zeros count as one. -/
theorem storageName_text_inj {period period' : Double} (number : period.isFinite = true)
    (number' : period'.isFinite = true) (sheet sheet' : String) :
    (storageName sheet period = storageName sheet' period' ↔
      sheet = sheet' ∧ period.abs.sameValue period'.abs = true) ∧
    (text period = text period' ↔ period.sameValue period' = true) := by
  rw [storageName_eq_iff number number', text_eq_iff number number',
    Double.sameValue_iff number number', Double.sameValue_iff
      ((Double.isFinite_abs period).trans number) ((Double.isFinite_abs period').trans number'),
    Double.toRat_abs, Double.toRat_abs]
  exact ⟨Iff.rfl, Iff.rfl⟩

/-! A period whose magnitude is written with an exponent, on sheets one of which has a name that
continues the other's by what could be a period. -/

def tinyPeriod (negative : Bool) : Double :=
  Decimal.toDouble negative ⟨15, -7⟩

theorem tinyPeriod_inj :
    ((tinyPeriod true).isFinite = true ∧ (tinyPeriod false).isFinite = true) ∧
      storageName "Line_PeriodAbs_0_5" (tinyPeriod true) =
        "Line_PeriodAbs_0_5_PeriodAbs_1_5e-06" ∧
      (storageName "Line_PeriodAbs_0_5" (tinyPeriod true) = storageName "Line" (tinyPeriod false) ↔
        "Line_PeriodAbs_0_5" = "Line" ∧
          (tinyPeriod true).abs.sameValue (tinyPeriod false).abs = true) ∧
      (text (tinyPeriod true) = text (tinyPeriod false) ↔
        (tinyPeriod true).sameValue (tinyPeriod false) = true) := by
  have numbers : (tinyPeriod true).isFinite = true ∧ (tinyPeriod false).isFinite = true := by
    decide +kernel
  exact ⟨numbers, by decide +kernel, storageName_text_inj numbers.1 numbers.2 _ _⟩

end Period

end PointTable
