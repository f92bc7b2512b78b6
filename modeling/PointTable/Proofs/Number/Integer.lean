import PointTable.Proofs.Address
import PointTable.Proofs.Number.Decimal
import PointTable.Proofs.Text.Blank
import PointTable.Proofs.Text.Digit

/-!
# Integers as text

An integer can be written just if its magnitude lies below a power of ten. The digits that a natural
number is written with are read back as that number, as long as there are not more of them than a
text may have. A written number has no blanks, so trimming leaves it alone.
-/

namespace PointTable.Number

open Text

/-! ## Writing -/

theorem isWritable_iff {n : Int} : isWritable n = true ↔ n.natAbs < 10 ^ digitLimit := by
  rw [isWritable, decide_eq_true_iff]
  exact Nat.length_toDigits_le_iff (by decide) (by decide)

theorem isWritable_eq_false_iff {n : Int} : isWritable n = false ↔ 10 ^ digitLimit ≤ n.natAbs := by
  rw [Bool.eq_false_iff, Ne, isWritable_iff, Nat.not_lt]

theorem isWritable_of_lt_pow {n : Int} (digits : Nat) (few : digits ≤ digitLimit)
    (bound : n.natAbs < 10 ^ digits) : isWritable n = true :=
  isWritable_iff.mpr (Nat.lt_of_lt_of_le bound (Nat.pow_le_pow_right (by decide) few))

/-- No integer has more digits than a larger one. -/
theorem isWritable_of_natAbs_le {m n : Int} (le : m.natAbs ≤ n.natAbs)
    (writable : isWritable n = true) : isWritable m = true :=
  isWritable_iff.mpr (Nat.lt_of_le_of_lt le (isWritable_iff.mp writable))

/-! ## Reading -/

theorem isDigit_of_ascii {c : Char} (digit : c.isDigit = true) : Text.isDigit c = true := by
  rw [Text.isDigit, decimalValue?_of_isDigit digit]
  rfl

theorem isDigit_of_mem_nat {n : Nat} {c : Char} (member : c ∈ (toString n).toList) :
    c.isDigit = true := by
  rw [Nat.toString_eq_repr, Nat.toList_repr] at member
  exact Nat.isDigit_of_mem_toDigits (by decide) (by decide) member

theorem isNumeric_nat (n : Nat) : isNumeric (toString n) = true := by
  have filled : (toString n).isEmpty = false := PointTable.int_repr_isEmpty n
  simp only [isNumeric, filled, Bool.not_false, Bool.true_and, List.all_eq_true]
  intro c member
  exact isDigit_of_ascii (isDigit_of_mem_nat member)

theorem separatedDigits_of_isDigit {chars : List Char} (numeric : ∀ c ∈ chars, c.isDigit = true)
    (filled : chars ≠ []) :
    separatedDigits 10 chars = some (chars.map fun c => c.toNat - '0'.toNat) := by
  induction chars using separatedDigits.induct with
  | case1 => exact absurd rfl filled
  | case2 c =>
      have value := decimalValue?_of_isDigit (numeric c List.mem_cons_self)
      simp only [separatedDigits, digitValue?_ten, value, Option.map_some, List.map_cons,
        List.map_nil]
  | case3 c rest ih =>
      have underscore := numeric '_' (by simp)
      exact absurd underscore (by decide)
  | case4 c rest single underscored ih =>
      rw [List.forall_mem_cons] at numeric
      have more : rest ≠ [] := fun empty => single empty
      rw [separatedDigits, digitValue?_ten, decimalValue?_of_isDigit numeric.1, ih numeric.2 more]
      · rfl
      · exact single
      · exact underscored

theorem integerOf?_of_isDigit (shown : String) {chars : List Char}
    (numeric : ∀ c ∈ chars, c.isDigit = true) (filled : chars ≠ []) :
    integerOf? 10 shown chars =
      if chars.length ≤ digitLimit then .ok (Nat.ofDigitChars 10 chars 0 : Int)
      else .error (.tooManyDigits chars.length) := by
  have unsigned : splitSign chars = (false, chars) :=
    Address.splitSign_of_digits fun c member => isDigit_of_ascii (numeric c member)
  simp only [integerOf?, unsigned, Nat.reduceEqDiff, ↓reduceIte,
    separatedDigits_of_isDigit numeric filled, List.length_map, ofDigits_map]
  by_cases short : chars.length ≤ digitLimit
  · simp [short, Nat.not_lt.mpr short]
  · simp [short, Nat.not_le.mp short]

/-- A written natural is read back unless it has too many digits. -/
theorem readInteger_nat (n : Nat) :
    readInteger 10 (toString n) =
      if n < 10 ^ digitLimit then .ok (n : Int)
      else .error (.tooManyDigits (Nat.toDigits 10 n).length) := by
  have chars : (toString n).toList = Nat.toDigits 10 n := Nat.toList_repr
  have numeric : ∀ c ∈ (toString n).toList, c.isDigit = true := fun c => isDigit_of_mem_nat
  have trimmed : trimBy isNumberBlank (toString n).toList = (toString n).toList :=
    trimBy_of_digits (fun c member => isDigit_of_ascii (numeric c member)) isBlank_of_isNumberBlank
  have few : (Nat.toDigits 10 n).length ≤ digitLimit ↔ n < 10 ^ digitLimit :=
    Nat.length_toDigits_le_iff (by decide) (by decide)
  rw [readInteger, trimmed, integerOf?_of_isDigit _ numeric (chars ▸ Nat.toDigits_ne_nil)]
  simp only [chars, few, Nat.ofDigitChars_ten_toDigits]

theorem exists_mem_int (n : Int) : ∃ c ∈ (toString n).toList, Text.isBlank c = false := by
  have digits : ∀ m : Nat, ∃ c ∈ m.repr.toList, Text.isBlank c = false := by
    intro m
    obtain ⟨c, member⟩ := List.exists_mem_of_ne_nil _ (Nat.toDigits_ne_nil (n := m) (b := 10))
    rw [← Nat.toList_repr] at member
    exact ⟨c, member, not_blank_of_isDigit (isDigit_of_ascii (isDigit_of_mem_nat member))⟩
  rw [Int.toString_eq_repr, Int.repr_eq_if]
  split
  · exact digits _
  · exact ⟨'-', by simp, by decide⟩

end PointTable.Number

namespace PointTable.Cell

/-- A cell that cannot be written has an integer or brackets in it. -/
theorem isBlank_of_unwritable {cell : Cell} (unwritable : cell.isWritable = false) :
    cell.isBlank = false := by
  cases cell with
  | int value =>
      obtain ⟨c, member, kept⟩ := Number.exists_mem_int value
      exact Text.trim_isEmpty_eq_false member kept
  | list items =>
      exact Text.trim_isEmpty_eq_false (c := '[') (by simp [plainSpelling, spelling]) (by decide)
  | tuple items =>
      apply Text.trim_isEmpty_eq_false (c := '(') _ (by decide)
      simp only [plainSpelling, spelling]
      split <;> simp
  | record entries =>
      exact Text.trim_isEmpty_eq_false (c := '\x7b') (by simp [plainSpelling, spelling]) (by decide)
  | null | bool value | float value | text value | octets value => cases unwritable

end PointTable.Cell
