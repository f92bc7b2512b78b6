import Mathlib.Data.List.TakeWhile
import PointTable.Cell

/-!
# Blank texts and blank cells

Trimming leaves nothing exactly when there is nothing but blanks. Numbers are never blank, so a
cell is blank exactly when its trimmed text is empty, whatever kind of cell it is.
-/

namespace PointTable.Text

@[simp] theorem trimBy_eq_nil_iff (drops : Char → Bool) (chars : List Char) :
    trimBy drops chars = [] ↔ ∀ c ∈ chars, drops c = true := by
  rw [← List.dropWhile_eq_nil_iff]
  cases rest : chars.dropWhile drops with
  | nil => simp [trimBy, rest]
  | cons c others =>
      have kept : drops c = false := by
        have first := List.head?_dropWhile_not drops chars
        rw [rest] at first
        simpa using first
      simp only [trimBy, rest, List.reverse_eq_nil_iff, List.dropWhile_eq_nil_iff,
        List.mem_reverse, List.mem_cons, reduceCtorEq, iff_false, not_forall]
      exact ⟨c, .inl rfl, by simp [kept]⟩

theorem trim_isEmpty_iff (text : String) :
    (trim text).isEmpty = true ↔ ∀ c ∈ text.toList, isBlank c = true := by
  rw [← trimBy_eq_nil_iff, String.isEmpty_iff, trim, ← String.toList_inj, String.toList_ofList,
    String.toList_empty]

theorem trim_isEmpty_eq_false {text : String} {c : Char} (member : c ∈ text.toList)
    (kept : isBlank c = false) : (trim text).isEmpty = false := by
  rw [Bool.eq_false_iff]
  intro empty
  have dropped := (trim_isEmpty_iff text).mp empty c member
  rw [kept] at dropped
  cases dropped

end PointTable.Text

namespace PointTable

open Text Number

theorem Decimal.point_mem_positional (digits : List Char) (leading : Int) :
    '.' ∈ Decimal.positional true digits leading := by
  simp only [Decimal.positional]
  split
  · simp
  · split <;> simp

theorem Decimal.mark_mem_scientific (digits : List Char) (leading : Int) :
    'e' ∈ Decimal.scientific digits leading := by
  simp [Decimal.scientific]

/-- A finite number is written with a point or an exponent. -/
theorem Double.exists_mark_mem_text {x : Double} (number : x.isFinite = true) :
    ∃ c ∈ x.text.toList, c = '.' ∨ c = 'e' := by
  cases x with
  | nan negative => cases number
  | infinite negative => cases number
  | finite negative significand exponent canonical =>
      by_cases zero : significand = 0
      · refine ⟨'.', ?_, .inl rfl⟩
        cases negative <;> simp [Double.text, withSign, zero]
      · simp only [Double.text, zero, ↓reduceIte, Decimal.text]
        split
        · refine ⟨'.', ?_, .inl rfl⟩
          have point := Decimal.point_mem_positional
          cases negative <;> simp [withSign, point]
        · refine ⟨'e', ?_, .inr rfl⟩
          have mark := Decimal.mark_mem_scientific
          cases negative <;> simp [withSign, mark]

/-- A double is written with at least one character that is no blank. -/
theorem Double.exists_mem_text (x : Double) :
    ∃ c ∈ x.text.toList, isBlank c = false := by
  cases x with
  | nan negative => exact ⟨'n', by simp [Double.text], by decide⟩
  | infinite negative => exact ⟨'i', by cases negative <;> simp [Double.text, withSign], by decide⟩
  | finite negative significand exponent canonical =>
      obtain ⟨c, member, rfl | rfl⟩ :=
        Double.exists_mark_mem_text (x := .finite negative significand exponent canonical) rfl
      · exact ⟨'.', member, by decide⟩
      · exact ⟨'e', member, by decide⟩

theorem int_repr_isEmpty (n : Int) : (toString n).isEmpty = false := by
  simp only [Int.toString_eq_repr, Int.repr_eq_if]
  split <;> simp

namespace Cell

/-- A cell is blank exactly when its trimmed text is empty. A whole number is trimmed to another
text than it is shown by, and neither of the two is blank. -/
@[simp] theorem trimmedSpelling_isEmpty (cell : Cell) :
    cell.trimmedSpelling.isEmpty = cell.isBlank := by
  cases cell with
  | null => rfl
  | float value =>
      obtain ⟨c, member, kept⟩ := value.exists_mem_text
      have filled : (trim value.text).isEmpty = false := trim_isEmpty_eq_false member kept
      have blank : (Cell.float value).isBlank = false := by
        simpa [isBlank, plainSpelling, spelling] using filled
      rw [blank, trimmedSpelling]
      split
      · exact int_repr_isEmpty _
      · exact filled
  | bool value => rfl
  | int value => rfl
  | text value => rfl
  | list items => rfl
  | tuple items => rfl
  | octets value => rfl
  | record entries => rfl

end Cell

end PointTable
