import PointTable.Address
import PointTable.Proofs.Text.Digit
import PointTable.Proofs.Text.UpperCase

/-!
# Addresses and the registers they name

A normal form is a text in upper case and never empty. An address that names a register has a
normal form of digits only, so what is read from it has no sign and is the register itself.
-/

namespace PointTable.Address

open Text Number

theorem mem_of_mem_trimBy {drops : Char → Bool} {chars : List Char} {c : Char}
    (member : c ∈ trimBy drops chars) : c ∈ chars := by
  rw [trimBy, List.mem_reverse] at member
  have inner := (List.dropWhile_sublist drops).mem member
  exact (List.dropWhile_sublist drops).mem (List.mem_reverse.mp inner)

/-! ## Normal forms -/

theorem mem_dropSpaceLetter {chars : List Char} {c : Char} (member : c ∈ dropSpaceLetter chars) :
    c = '0' ∨ c ∈ chars := by
  cases chars with
  | nil => exact .inl (List.mem_singleton.mp member)
  | cons first rest =>
      simp only [dropSpaceLetter] at member
      split at member
      · exact .inr member
      · split at member
        · exact .inl (List.mem_singleton.mp member)
        · exact .inr (List.mem_cons_of_mem _ member)

theorem dropSpaceLetter_ne_nil (chars : List Char) : dropSpaceLetter chars ≠ [] := by
  cases chars with
  | nil => exact List.cons_ne_nil _ _
  | cons first rest =>
      simp only [dropSpaceLetter]
      split
      · exact List.cons_ne_nil _ _
      · split
        · exact List.cons_ne_nil _ _
        · next filled => simpa using filled

theorem not_small_of_mem_normalizeOption {address : Option String} {c : Char}
    (member : c ∈ (normalizeOption address).toList) : ¬IsSmall c.toNat := by
  cases address with
  | none =>
      obtain rfl : c = '0' := by simpa [normalizeOption] using member
      decide
  | some text =>
      simp only [normalizeOption, normalizeText, String.toList_ofList] at member
      rcases mem_dropSpaceLetter member with rfl | source
      · decide
      · exact not_small_of_mem_upper source

@[simp] theorem normalizeOption_isEmpty (address : Option String) :
    (normalizeOption address).isEmpty = false := by
  cases address with
  | none => rfl
  | some text =>
      rw [Bool.eq_false_iff, Ne, String.isEmpty_iff, ← String.toList_inj]
      simpa [normalizeOption, normalizeText] using dropSpaceLetter_ne_nil _

theorem normalizeText_of_isNumeric {text : String} (numeric : isNumeric text = true) :
    normalizeText text = text := by
  have digits := isDigit_of_isNumeric numeric
  have trimmed : trimBy isBlank text.toList = text.toList :=
    trimBy_of_digits digits fun _ blank => blank
  rw [normalizeText, trim, trimmed, String.ofList_toList, upper, upper_of_digits digits,
    String.toList_ofList]
  cases chars : text.toList with
  | nil => simp [isNumeric, ← String.toList_inj, chars] at numeric
  | cons first rest =>
      have digit := digits first (by simp [chars])
      rw [dropSpaceLetter, if_pos digit, ← chars, String.ofList_toList]

/-! ## Registers -/

theorem splitSign_of_digits {chars : List Char} (digits : ∀ c ∈ chars, isDigit c = true) :
    splitSign chars = (false, chars) := by
  unfold splitSign
  split
  · exact absurd (digits '-' List.mem_cons_self) (by decide)
  · exact absurd (digits '+' List.mem_cons_self) (by decide)
  · rfl

theorem readInteger_nonneg {text : String} (numeric : isNumeric text = true) {n : Int}
    (read : readInteger 10 text = .ok n) : 0 ≤ n := by
  simp only [isNumeric, Bool.and_eq_true, List.all_eq_true] at numeric
  have digits : ∀ c ∈ trimBy isNumberBlank text.toList, isDigit c = true := fun c member =>
    numeric.2 c (mem_of_mem_trimBy member)
  simp only [readInteger, integerOf?, splitSign_of_digits digits] at read
  split at read
  · cases read
  · split at read
    · cases read
    · cases read
      simp

/-- The register of an address is the number its normal form spells, and nothing is cut off. -/
theorem readInteger_of_registerOf {raw : Cell} {normalized : String} {number : Nat}
    (named : registerOf raw normalized = .ok number) :
    readInteger 10 normalized = .ok (number : Int) := by
  unfold registerOf at named
  split at named
  · next numeric =>
      cases read : readInteger 10 normalized with
      | error fault => simp [read] at named
      | ok n =>
          have nonneg := readInteger_nonneg numeric read
          simp only [read, Except.ok.injEq] at named
          rw [← named, Int.toNat_of_nonneg nonneg]
  · cases named

end PointTable.Address
