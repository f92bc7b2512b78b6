import Mathlib
import PointTable.SheetUnit

/-!
# Names with a module number

Names of devices and tags end in a mark and the number of a module. The text before the mark is
free and may hold marks and numbers itself, so such a name is taken apart from its end: a number
has no letter in it, and the last letter of the name belongs to the mark.
-/

namespace PointTable.Naming

/-- The last character outside a class splits a text in one way. -/
theorem append_cons_inj_of_class {kind : Char → Prop} {left left' right right' : List Char}
    {c c' : Char} (inside : ∀ x ∈ right, kind x) (inside' : ∀ x ∈ right', kind x)
    (outside : ¬kind c) (outside' : ¬kind c')
    (equal : left ++ c :: right = left' ++ c' :: right') :
    left = left' ∧ c = c' ∧ right = right' := by
  rcases List.append_eq_append_iff.mp equal with ⟨between, leftEq, rightEq⟩ |
    ⟨between, leftEq, rightEq⟩
  · cases between with
    | nil => simp_all
    | cons first others =>
        simp only [List.cons_append, List.cons.injEq] at rightEq
        exact absurd (inside c' (by simp [rightEq.2])) outside'
  · cases between with
    | nil => simp_all
    | cons first others =>
        simp only [List.cons_append, List.cons.injEq] at rightEq
        exact absurd (inside' c (by simp [rightEq.2])) outside

/-- Two texts that agree around the last place of a character agree before and behind it. -/
theorem append_cons_inj_of_last {left left' right right' : List Char} {c : Char}
    (absent : c ∉ right) (absent' : c ∉ right')
    (equal : left ++ c :: right = left' ++ c :: right') : left = left' ∧ right = right' := by
  have others : ∀ x ∈ right, x ≠ c := fun x member same => absent (same ▸ member)
  have others' : ∀ x ∈ right', x ≠ c := fun x member same => absent' (same ▸ member)
  obtain ⟨lefts, _, rights⟩ :=
    append_cons_inj_of_class others others' (not_not_intro rfl) (not_not_intro rfl) equal
  exact ⟨lefts, rights⟩

theorem append_cons_inj_of_first {left left' right right' : List Char} {c : Char}
    (absent : c ∉ left) (absent' : c ∉ left')
    (equal : left ++ c :: right = left' ++ c :: right') : left = left' ∧ right = right' := by
  have reversed : right.reverse ++ c :: left.reverse = right'.reverse ++ c :: left'.reverse := by
    simpa using congrArg List.reverse equal
  obtain ⟨rights, lefts⟩ :=
    append_cons_inj_of_last (by simpa using absent) (by simpa using absent') reversed
  exact ⟨List.reverse_injective lefts, List.reverse_injective rights⟩

theorem exists_last_of_mem {c : Char} {chars : List Char} (member : c ∈ chars) :
    ∃ before behind, chars = before ++ c :: behind ∧ c ∉ behind := by
  obtain ⟨behind, before, reversed, absent⟩ :=
    List.eq_append_cons_of_mem (List.mem_reverse.mpr member)
  refine ⟨before.reverse, behind.reverse, ?_, by simpa using absent⟩
  rw [← List.reverse_reverse chars, reversed]
  simp

/-- The texts around a separator can be read off the whole if some character of the separator does
not come again behind it. -/
theorem separated_inj {separator left left' right right' : String} {c : Char}
    (marked : c ∈ separator.toList) (absent : c ∉ right.toList) (absent' : c ∉ right'.toList) :
    left ++ separator ++ right = left' ++ separator ++ right' ↔ left = left' ∧ right = right' := by
  constructor
  · intro equal
    obtain ⟨before, behind, parts, last⟩ := exists_last_of_mem marked
    have chars : (left.toList ++ before) ++ c :: (behind ++ right.toList) =
        (left'.toList ++ before) ++ c :: (behind ++ right'.toList) := by
      simpa [parts] using congrArg String.toList equal
    obtain ⟨lefts, rights⟩ := append_cons_inj_of_last
      (by simp [last, absent]) (by simp [last, absent']) chars
    rw [List.append_cancel_right_eq, String.toList_inj] at lefts
    rw [List.append_cancel_left_eq, String.toList_inj] at rights
    exact ⟨lefts, rights⟩
  · rintro ⟨rfl, rfl⟩
    rfl

/-! ## Numbers as text -/

theorem isDigit_of_mem_int {n : Int} {c : Char} (member : c ∈ (toString n).toList) :
    c = '-' ∨ c.isDigit = true := by
  rw [Int.toString_eq_repr, Int.repr_eq_if] at member
  split at member
  · right
    rw [Nat.toList_repr] at member
    exact Nat.isDigit_of_mem_toDigits (by decide) (by decide) member
  · rw [String.toList_append, List.mem_append, Nat.toList_repr] at member
    rcases member with sign | digit
    · left
      simpa using sign
    · right
      exact Nat.isDigit_of_mem_toDigits (by decide) (by decide) digit

theorem not_mem_int {c : Char} (noSign : c ≠ '-') (noDigit : c.isDigit = false) (n : Int) :
    c ∉ (toString n).toList := by
  intro member
  rcases isDigit_of_mem_int member with sign | digit
  · exact noSign sign
  · rw [noDigit] at digit
    cases digit

theorem not_mem_nat {c : Char} (noDigit : c.isDigit = false) (n : Nat) :
    c ∉ (toString n).toList := by
  intro member
  rw [Nat.toString_eq_repr, Nat.toList_repr] at member
  rw [Nat.isDigit_of_mem_toDigits (by decide) (by decide) member] at noDigit
  cases noDigit

/-! ## Names -/

/-- A stem and a module number can be read off the name they form. -/
@[simp] theorem instanceSpelling_inj {stem stem' : String} {module module' : Int} :
    instanceSpelling stem module = instanceSpelling stem' module' ↔
      stem = stem' ∧ module = module' := by
  have absent := not_mem_int (c := 'M') (by decide) (by decide)
  rw [instanceSpelling, instanceSpelling,
    separated_inj (c := 'M') (by decide) (absent module) (absent module'),
    Int.toString_eq_repr, Int.toString_eq_repr, Int.repr_inj]

end PointTable.Naming
