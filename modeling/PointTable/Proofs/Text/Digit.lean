import Mathlib.Data.Nat.Digits.Defs
import PointTable.Number.Literal
import PointTable.Proofs.Outcome
import PointTable.Text.UpperCase

/-!
# Digits and numerals

No digit is blank and no digit has a capital, which is read off the tables. A decimal digit is
determined by its script and its value, and the values of all digits by their number and how many
they are. So the digits of a number are determined by their scripts in order.
-/

namespace PointTable.Text

/-- The ranges of all digits. -/
def digitRanges : List (Nat × Nat) :=
  decimalZeros.map (fun start => (start, start + 9)) ++ unplacedDigitRanges

theorem inRanges_of_isDigit {c : Char} (digit : isDigit c = true) :
    ∃ range ∈ digitRanges, range.1 ≤ c.toNat ∧ c.toNat ≤ range.2 := by
  simp only [isDigit, Bool.or_eq_true] at digit
  rcases digit with placed | unplaced
  · simp only [decimalValue?, Option.isSome_map, List.find?_isSome, Bool.and_eq_true,
      decide_eq_true_eq] at placed
    obtain ⟨start, member, bounds⟩ := placed
    refine ⟨(start, start + 9), ?_, bounds⟩
    exact List.mem_append_left _ (List.mem_map_of_mem member)
  · simp only [inRanges, List.any_eq_true, Bool.and_eq_true, decide_eq_true_eq] at unplaced
    obtain ⟨range, member, bounds⟩ := unplaced
    exact ⟨range, List.mem_append_right _ member, bounds⟩

theorem isDigit_of_isNumeric {text : String} (numeric : isNumeric text = true) :
    ∀ c ∈ text.toList, isDigit c = true := by
  simp only [isNumeric, Bool.and_eq_true, List.all_eq_true] at numeric
  exact numeric.2

/-! ## Digits are neither blank nor letters -/

/-- No range of one table meets a range of the other. -/
def rangesApart (ranges others : List (Nat × Nat)) : Bool :=
  ranges.all fun range => others.all fun other => range.2.blt other.1 || other.2.blt range.1

/-- A digit lies in no range of a table that keeps apart from the digits. -/
theorem outside_of_isDigit (ranges : List (Nat × Nat))
    (apart : rangesApart digitRanges ranges = true) {c : Char} (digit : isDigit c = true) :
    ∀ range ∈ ranges, ¬(range.1 ≤ c.toNat ∧ c.toNat ≤ range.2) := by
  intro range member inside
  obtain ⟨digits, digitsMember, bounds⟩ := inRanges_of_isDigit digit
  simp only [rangesApart, List.all_eq_true, Bool.or_eq_true, Nat.blt_eq] at apart
  have disjoint := apart digits digitsMember range member
  omega

theorem not_blank_of_isDigit {c : Char} (digit : isDigit c = true) : isBlank c = false := by
  have outside := outside_of_isDigit blankRanges (by decide +kernel) digit
  rw [isBlank, inRanges, List.any_eq_false]
  intro blank member inside
  apply outside blank member
  simpa using inside

theorem upperChar_of_isDigit {c : Char} (digit : isDigit c = true) : upperChar c = [c] := by
  have single : expandedCapitals.lookup c.toNat = none := by
    have outside := outside_of_isDigit
      (expandedCapitals.map fun expansion => (expansion.1, expansion.1)) (by decide +kernel) digit
    rw [List.lookup_eq_none_iff]
    intro expansion member
    have apart := outside _ (List.mem_map_of_mem member)
    rw [bne_iff_ne]
    omega
  have unshifted : capitalRuns.find? (·.contains c.toNat) = none := by
    have outside := outside_of_isDigit (capitalRuns.map fun run => (run.first, run.last))
      (by decide +kernel) digit
    rw [List.find?_eq_none]
    intro run member inside
    simp only [CaseRun.contains, Bool.and_eq_true, decide_eq_true_eq] at inside
    exact outside _ (List.mem_map_of_mem member) inside.1
  simp [upperChar, single, unshifted]

theorem trimBy_of_kept {drops : Char → Bool} {chars : List Char}
    (kept : ∀ c ∈ chars, drops c = false) : trimBy drops chars = chars := by
  have dropWhile_eq : ∀ some : List Char, (∀ c ∈ some, drops c = false) →
      some.dropWhile drops = some := by
    intro some all
    cases some with
    | nil => rfl
    | cons first rest => simp [all first List.mem_cons_self]
  rw [trimBy, dropWhile_eq chars kept, dropWhile_eq, List.reverse_reverse]
  simpa using kept

theorem isBlank_of_isNumberBlank (c : Char) (blank : isNumberBlank c = true) :
    isBlank c = true := by
  simp only [isNumberBlank, Bool.and_eq_true] at blank
  exact blank.1

section

variable {chars : List Char} (digits : ∀ c ∈ chars, isDigit c = true)
include digits

theorem trimBy_of_digits {drops : Char → Bool} (blank : ∀ c, drops c = true → isBlank c = true) :
    trimBy drops chars = chars := by
  apply trimBy_of_kept
  intro c member
  rw [Bool.eq_false_iff]
  intro dropped
  exact Bool.eq_false_iff.mp (not_blank_of_isDigit (digits c member)) (blank c dropped)

theorem upper_of_digits : chars.flatMap upperChar = chars := by
  induction chars with
  | nil => rfl
  | cons first rest ih =>
      rw [List.forall_mem_cons] at digits
      rw [List.flatMap_cons, upperChar_of_isDigit digits.1, ih digits.2]
      rfl

end

/-! ## Scripts and values -/

/-- The zero of the script that a decimal digit belongs to. -/
def script? (c : Char) : Option Nat :=
  decimalZeros.find? fun start => start ≤ c.toNat && c.toNat ≤ start + 9

theorem decimalValue?_eq (c : Char) : decimalValue? c = (script? c).map (c.toNat - ·) := rfl

theorem decimalValue?_lt {c : Char} {value : Nat} (valued : decimalValue? c = some value) :
    value < 10 := by
  rw [decimalValue?_eq] at valued
  obtain ⟨start, found, rfl⟩ := Option.map_eq_some_iff.mp valued
  have inside := List.find?_some found
  simp only [Bool.and_eq_true, decide_eq_true_eq] at inside
  omega

theorem eq_of_script?_eq {c d : Char} {value : Nat} (scripts : script? c = script? d)
    (left : decimalValue? c = some value) (right : decimalValue? d = some value) : c = d := by
  rw [decimalValue?_eq] at left right
  obtain ⟨start, found, rfl⟩ := Option.map_eq_some_iff.mp left
  obtain ⟨start', found', values⟩ := Option.map_eq_some_iff.mp right
  have starts : some start' = some start := found'.symm.trans (scripts.symm.trans found)
  cases starts
  have inside := List.find?_some found
  have inside' := List.find?_some found'
  simp only [Bool.and_eq_true, decide_eq_true_eq] at inside inside'
  apply Char.toNat_inj.mp
  omega

end PointTable.Text

namespace PointTable.Number

open Text

theorem ofDigits_eq (digits : List Nat) : ofDigits 10 digits = Nat.ofDigits 10 digits.reverse := by
  rw [ofDigits, Nat.ofDigits_eq_foldr, List.foldr_reverse]
  congr 1
  funext value digit
  simp [Nat.mul_comm, Nat.add_comm]

/-- The values of digits without underscores among them are read one by one. -/
theorem forall₂_of_separatedDigits {chars : List Char} (digits : ∀ c ∈ chars, isDigit c = true)
    {values : List Nat} (read : separatedDigits 10 chars = some values) :
    List.Forall₂ (fun c value => decimalValue? c = some value) chars values := by
  induction chars using separatedDigits.induct generalizing values with
  | case1 => simp [separatedDigits] at read
  | case2 c =>
      simp only [separatedDigits, digitValue?_ten, Option.map_eq_some_iff] at read
      obtain ⟨value, valued, rfl⟩ := read
      exact .cons valued .nil
  | case3 c rest ih =>
      have underscore := digits '_' (by simp)
      exact absurd underscore (by decide)
  | case4 c rest single underscored ih =>
      rw [List.forall_mem_cons] at digits
      rw [separatedDigits, digitValue?_ten] at read
      · obtain ⟨value, valued, others, restRead, rfl⟩ : ∃ value, decimalValue? c = some value ∧
            ∃ others, separatedDigits 10 rest = some others ∧ value :: others = values := by
          simpa [Option.bind_eq_some_iff] using read
        exact .cons valued (ih digits.2 restRead)
      · exact single
      · exact underscored

/-- Characters are the decimal digits of a number, the most significant one first. -/
def DigitsOf (chars : List Char) (number : Nat) : Prop :=
  ∃ values, List.Forall₂ (fun c value => decimalValue? c = some value) chars values ∧
    ofDigits 10 values = number

/-- Digits of one number in the same scripts are the same digits. -/
theorem DigitsOf.unique {left right : List Char} {number : Nat} (leftDigits : DigitsOf left number)
    (rightDigits : DigitsOf right number) (scripts : left.map script? = right.map script?) :
    left = right := by
  obtain ⟨leftValues, leftRead, rfl⟩ := leftDigits
  obtain ⟨rightValues, rightRead, same⟩ := rightDigits
  have below : ∀ {chars : List Char} {values : List Nat},
      List.Forall₂ (fun c value => decimalValue? c = some value) chars values →
        ∀ value ∈ values.reverse, value < 10 := by
    intro chars values read value member
    obtain ⟨c, _, valued⟩ := Outcome.exists_of_mem_right read (List.mem_reverse.mp member)
    exact decimalValue?_lt valued
  have lengths : rightValues.reverse.length = leftValues.reverse.length := by
    have counts := congrArg List.length scripts
    simp only [List.length_map] at counts
    rw [List.length_reverse, List.length_reverse, ← leftRead.length_eq, ← rightRead.length_eq,
      counts]
  have values : rightValues = leftValues := by
    rw [ofDigits_eq, ofDigits_eq] at same
    exact List.reverse_injective (Nat.ofDigits_inj_of_len_eq (by decide) lengths (below rightRead)
      (below leftRead) same)
  subst rightValues
  clear below lengths same
  induction leftRead generalizing right with
  | nil =>
      cases rightRead
      rfl
  | cons first rest ih =>
      cases rightRead with
      | cons first' rest' =>
          simp only [List.map_cons, List.cons.injEq] at scripts
          rw [eq_of_script?_eq scripts.1 first first', ih scripts.2 rest']

end PointTable.Number
