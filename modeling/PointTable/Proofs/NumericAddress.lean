import PointTable.Proofs.Number.Integer
import PointTable.Proofs.PeriodText
import PointTable.Proofs.Units

/-!
# Addresses given as numbers

A number in an address cell is written out and then read like any other address. Its sign is taken
for the letter of an address space and dropped, so what is read is the magnitude of the number: a
number that is not negative is taken as it is, and a negative one names the register of its
opposite. Only a number with too many digits is refused.
-/

namespace PointTable

open Text Number

namespace Cell

/-- A cell holds a whole number, as an integer or as a double that equals it. -/
inductive Whole : Cell → Int → Prop where
  | int (n : Int) : Whole (.int n) n
  | float {x : Double} {n : Int} (number : x.isFinite = true) (value : x.toRat = n) :
      Whole (.float x) n

end Cell

/-! ## Written numbers -/

theorem toString_of_neg {n : Int} (negative : n < 0) :
    toString n = "-" ++ toString n.natAbs := by
  have magnitude : (-n).toNat = n.natAbs := by omega
  rw [Int.toString_eq_repr, Int.repr_eq_if, if_neg (Int.not_le.mpr negative), magnitude,
    Nat.toString_eq_repr]

theorem toString_of_nonneg {n : Int} (nonneg : 0 ≤ n) : toString n = toString n.natAbs := by
  have magnitude : n.toNat = n.natAbs := by omega
  rw [Int.toString_eq_repr, Int.repr_eq_if, if_pos nonneg, magnitude, Nat.toString_eq_repr]

theorem trim_toString (n : Int) : trim (toString n) = toString n := by
  have kept : ∀ c ∈ (toString n).toList, isBlank c = false := by
    intro c member
    cases Naming.isDigit_of_mem_int member with
    | inl sign =>
        rw [sign]
        decide
    | inr digit => exact not_blank_of_isDigit (isDigit_of_ascii digit)
  rw [trim, trimBy_of_kept kept, String.ofList_toList]

namespace Address

theorem normalizeText_toString (n : Int) : normalizeText (toString n) = toString n.natAbs := by
  have numeric := isNumeric_nat n.natAbs
  by_cases negative : n < 0
  · have capitals : "-".toList.flatMap upperChar = ['-'] := by decide +kernel
    have filled : ¬(toString n.natAbs).toList.isEmpty = true := by
      rw [Nat.toString_eq_repr, Nat.toList_repr, List.isEmpty_iff]
      exact Nat.toDigits_ne_nil
    rw [normalizeText, trim_toString, toString_of_neg negative, upper, String.toList_append,
      String.toList_ofList, List.flatMap_append, upper_of_digits (isDigit_of_isNumeric numeric),
      capitals, List.singleton_append, dropSpaceLetter, if_neg (by decide), if_neg filled,
      String.ofList_toList]
  · rw [toString_of_nonneg (Int.not_lt.mp negative)]
    exact normalizeText_of_isNumeric numeric

theorem normalSpelling_of_toInt? {x : Double} {n : Int} (whole : x.toInt? = some n) :
    normalSpelling (.float x) = normalizeText (toString n) := by
  delta normalSpelling
  dsimp only
  rw [whole]

/-- A written natural names that register, unless there are too many digits. -/
theorem registerOf_nat (raw : Cell) (n : Nat) :
    registerOf raw (toString n) =
      if n < 10 ^ digitLimit then .ok n
      else .error (.literal (.tooManyDigits (Nat.toDigits 10 n).length)) := by
  have read := readInteger_nat n
  by_cases few : n < 10 ^ digitLimit
  · rw [if_pos few] at read ⊢
    simp only [registerOf, isNumeric_nat, read, ↓reduceIte, Int.toNat_natCast]
  · rw [if_neg few] at read ⊢
    simp only [registerOf, isNumeric_nat, read, ↓reduceIte]

end Address

/-! ## Cells -/

/-- No double has as many digits as a text may have. -/
theorem Double.natAbs_lt_of_toRat {x : Double} (number : x.isFinite = true) {n : Int}
    (value : x.toRat = n) : n.natAbs < 10 ^ digitLimit := by
  obtain ⟨negative, significand, exponent, canonical, rfl⟩ := exists_finite number
  have below : |(n : ℚ)| < (2 : ℚ) ^ 1024 :=
    calc |(n : ℚ)| < |(n : ℚ)| + 1 / 2 := lt_add_of_pos_right _ (by norm_num)
      _ < overflow := value ▸ abs_toRat_add_half_lt
      _ < 2 ^ 1024 := sub_lt_self _ (pow_pos two_pos _)
  have short : n.natAbs < 2 ^ 1024 := by
    rw [← Int.cast_abs, Int.abs_eq_natAbs, Int.cast_natCast] at below
    exact_mod_cast below
  have powers : ∀ bits ≤ digitLimit, 2 ^ bits ≤ 10 ^ digitLimit := fun bits bound =>
    (Nat.pow_le_pow_right (by decide) bound).trans (Nat.pow_le_pow_left (by decide) digitLimit)
  exact short.trans_le (powers 1024 (by decide))

namespace Cell.Whole

variable {cell : Cell} {n : Int}

theorem isWritable_iff (whole : cell.Whole n) :
    cell.isWritable = true ↔ n.natAbs < 10 ^ digitLimit := by
  cases whole with
  | int n => exact Number.isWritable_iff
  | float number value => simp only [isWritable_float, Double.natAbs_lt_of_toRat number value]

theorem normalSpelling_eq (whole : cell.Whole n) :
    Address.normalSpelling cell = toString n.natAbs := by
  cases whole with
  | int n => exact Address.normalizeText_toString n
  | float number value =>
      rw [Address.normalSpelling_of_toInt? (Double.toInt?_of_toRat number value)]
      exact Address.normalizeText_toString n

theorem trimmedSpelling_eq (whole : cell.Whole n) : cell.trimmedSpelling = toString n := by
  cases whole with
  | int n => exact trim_toString n
  | float number value => simp only [Cell.trimmedSpelling, Double.toInt?_of_toRat number value]

/-- A whole number names the register of its magnitude, unless it has too many digits. -/
theorem register_eq (whole : cell.Whole n) :
    Address.register cell =
      if n.natAbs < 10 ^ digitLimit then .ok n.natAbs else .error (.digits .tooManyDigits) := by
  have writable := whole.isWritable_iff
  by_cases few : n.natAbs < 10 ^ digitLimit
  · rw [if_pos few, Address.register, Address.normalize, writable.mpr few, ifWritable_true,
      Outcome.mapError_ok, Outcome.ok_bind, whole.normalSpelling_eq, Address.registerOf_nat,
      if_pos few]
  · have unwritable : cell.isWritable = false :=
      Bool.eq_false_iff.mpr fun written => few (writable.mp written)
    rw [if_neg few, Address.register, Address.normalize, unwritable, ifWritable_false,
      Outcome.mapError_error, Outcome.error_bind]

theorem register_trimmedSpelling (whole : cell.Whole n) (few : n.natAbs < 10 ^ digitLimit) :
    Address.register (.text cell.trimmedSpelling) = .ok n.natAbs := by
  rw [Address.register_text, whole.trimmedSpelling_eq, Address.normalizeText_toString,
    Address.registerOf_nat, if_pos few]

end Cell.Whole

/-! ## Rows -/

/-- A row is not refused for its address, and if it is a point then all tags of the point are at
one address. It has tags in all modules whose numbers can be written. -/
structure Row.Located (row : Row) (address : Nat) : Prop where
  accepted : ∀ fault, Validation.readPoint row ≠ .error (.address fault)
  tags : ∀ point, Validation.readPoint row = .ok point → ∀ module : Int,
    module.natAbs < 10 ^ digitLimit →
      ∃ tag, SheetUnit.tagOf module point = .ok tag ∧ tag.address = address
  untagged : ∀ point, Validation.readPoint row = .ok point → ∀ module : Int,
    10 ^ digitLimit ≤ module.natAbs →
      SheetUnit.tagOf module point = .error (.digits .tooManyDigits)

namespace Validation

/-- A row is refused for its address only by what its address cell says. -/
theorem register_of_readPoint {row : Row} {fault : Address.Fault}
    (refused : readPoint row = .error (.address fault)) :
    Address.register (.text (row.get "ValueAddress").trimmedSpelling) = .error fault := by
  have numbers : ∀ cell, finiteNumber cell ≠ .error (.address fault) := fun cell failed =>
    nomatch finiteNumber_eq_error failed
  have lengths : ∀ number, readLength number ≠ .error (.address fault) := fun number failed =>
    nomatch readLength_eq_error failed
  simp only [readPoint, columnText, writableCell, Outcome.bind_eq_error, Outcome.mapError_eq_error,
    Outcome.mapError_eq_ok, Cell.trimmedText_eq_ok, Outcome.pure_eq_ok, reduceCtorEq, and_false,
    exists_const, or_false, PointFault.address.injEq, exists_eq_right, exists_false, false_or,
    numbers, lengths] at refused
  obtain ⟨_, _, _, _, _, _, _, _, _, _, _, _, _, _, _, ⟨_, rfl⟩, failed⟩ := refused
  exact failed

end Validation

theorem Row.located_of_whole {row : Row} {n : Int} (whole : (row.get "ValueAddress").Whole n)
    (few : n.natAbs < 10 ^ digitLimit) : row.Located n.natAbs := by
  have named := whole.register_trimmedSpelling few
  constructor
  · intro fault refused
    rw [Validation.register_of_readPoint refused] at named
    cases named
  · intro point read module short
    obtain ⟨describes, usable⟩ := Validation.readPoint_eq_ok read
    obtain ⟨tag, built⟩ := SheetUnit.tagOf_ok_of_usable usable (isWritable_iff.mpr short)
    have address := (SheetUnit.tagOf_eq_ok built).address
    rw [← (Cell.trimmedText_eq_ok.mp describes.address).2, named, Except.ok.injEq] at address
    exact ⟨tag, built, address.symm⟩
  · intro point _ module long
    exact SheetUnit.tagOf_of_unwritable (isWritable_eq_false_iff.mpr long) point

/-! ## Taken as they are -/

namespace Cell

/-- What one expects of a whole number in an address cell: it names its own register, or none if it
is negative, and no row that holds it has a tag at another address. -/
structure TakenAsIs (cell : Cell) (n : Int) : Prop where
  named : 0 ≤ n → Address.register cell = .ok n.toNat
  refused : n < 0 → ∃ fault, Address.register cell = .error fault
  tags : ∀ row : Row, row.get "ValueAddress" = cell → ∀ point,
    Validation.readPoint row = .ok point → ∀ module tag,
      SheetUnit.tagOf module point = .ok tag → (tag.address : Int) = n

/-- Numbers that are not negative are taken as they are. -/
theorem Whole.takenAsIs {cell : Cell} {n : Int} (whole : cell.Whole n)
    (few : n.natAbs < 10 ^ digitLimit) (nonneg : 0 ≤ n) : cell.TakenAsIs n := by
  constructor
  · intro _
    have magnitude : n.natAbs = n.toNat := by omega
    rw [whole.register_eq, if_pos few, magnitude]
  · intro negative
    exact absurd nonneg (Int.not_le.mpr negative)
  · rintro row rfl point read module tag built
    have short := Number.isWritable_iff.mp (SheetUnit.tagOf_eq_ok built).written
    obtain ⟨placed, placedBuilt, address⟩ :=
      (Row.located_of_whole whole few).tags point read module short
    obtain rfl : placed = tag := Except.ok.inj (placedBuilt.symm.trans built)
    rw [address, Int.natAbs_of_nonneg nonneg]

/-- A whole number in an address cell stands for its magnitude, and is refused only if it has too
many digits, which no double has. So it is taken as it is exactly when it is not negative. -/
theorem takenAsIs_iff {cell : Cell} {n : Int} (whole : cell.Whole n) :
    (∀ x, cell = .float x → n.natAbs < 10 ^ digitLimit) ∧
      (10 ^ digitLimit ≤ n.natAbs → Address.register cell = .error (.digits .tooManyDigits)) ∧
      (n.natAbs < 10 ^ digitLimit →
        Address.register cell = .ok n.natAbs ∧
          (∀ row : Row, row.get "ValueAddress" = cell → row.Located n.natAbs) ∧
          (cell.TakenAsIs n ↔ 0 ≤ n)) := by
  refine ⟨?_, ?_, ?_⟩
  · rintro x rfl
    cases whole with
    | float number value => exact Double.natAbs_lt_of_toRat number value
  · intro many
    rw [whole.register_eq, if_neg (Nat.not_lt.mpr many)]
  · intro few
    refine ⟨by rw [whole.register_eq, if_pos few], ?_, ?_⟩
    · rintro row rfl
      exact Row.located_of_whole whole few
    · constructor
      · intro taken
        by_contra negative
        obtain ⟨fault, refused⟩ := taken.refused (Int.not_le.mp negative)
        rw [whole.register_eq, if_pos few] at refused
        cases refused
      · exact whole.takenAsIs few

end Cell

/-! ## Two rows

One gives its address as a decimal, the other as a negative integer. -/

def seven : Double :=
  .finite false 7881299347898368 (-50) (by decide)

/-- A row that gives its address as a decimal. -/
def decimalRow : Row := [
  ("PropertyName", .text "Level"), ("Type", .text "short"), ("ValueAddress", .float seven)]

/-- A row that gives its address with a sign. -/
def signedRow : Row := [
  ("PropertyName", .text "Level"), ("Type", .text "short"), ("ValueAddress", .int (-5))]

theorem natAbs_lt_of_lt_ten {n : Int} (digit : n.natAbs < 10) : n.natAbs < 10 ^ digitLimit :=
  digit.trans_le (Nat.le_self_pow (by decide) 10)

theorem seven_whole : (Cell.float seven).Whole 7 :=
  .float rfl (by norm_num [seven, Double.toRat, Double.signed])

theorem decimalRow_taken :
    (Cell.float seven).Whole 7 ∧ Address.register (.float seven) = .ok 7 ∧
      decimalRow.Located 7 ∧ (Cell.float seven).TakenAsIs 7 := by
  have few : (7 : Int).natAbs < 10 ^ digitLimit := natAbs_lt_of_lt_ten (by decide)
  obtain ⟨named, located, taken⟩ := (Cell.takenAsIs_iff seven_whole).2.2 few
  exact ⟨seven_whole, named, located decimalRow rfl, taken.mpr (by decide)⟩

def signedPoint : Point :=
  ⟨"Level", "", "-5", ⟨.short, false⟩, none, none, none, Double.zero false⟩

/-- A negative number is not refused, and its row has a tag at another address. -/
theorem signedRow_misplaced :
    (Cell.int (-5)).Whole (-5) ∧ Address.register (.int (-5)) = .ok 5 ∧
      Validation.readPoint signedRow = .ok signedPoint ∧
      (∃ tag, SheetUnit.tagOf 1 signedPoint = .ok tag ∧ tag.address = 5) ∧
      ¬(Cell.int (-5)).TakenAsIs (-5) := by
  have few : (-5 : Int).natAbs < 10 ^ digitLimit := natAbs_lt_of_lt_ten (by decide)
  have named : Address.register (.int (-5)) = .ok 5 := by
    rw [(Cell.Whole.int (-5)).register_eq, if_pos few]
    rfl
  have read : Validation.readPoint signedRow = .ok signedPoint :=
    Outcome.eq_ok_of_toOption (by decide +kernel)
  refine ⟨.int (-5), named, read, ?_, ?_⟩
  · have whole : (signedRow.get "ValueAddress").Whole (-5) := .int (-5)
    exact (Row.located_of_whole whole few).tags signedPoint read 1
      (natAbs_lt_of_lt_ten (by decide))
  · intro taken
    obtain ⟨fault, refused⟩ := taken.refused (by decide)
    rw [named] at refused
    cases refused

end PointTable
