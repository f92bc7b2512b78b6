import PointTable.Text.UpperCase

/-!
# Upper case and ASCII

No upper case of a character, be it one character or several, has a small letter of ASCII in it.
That is read off the tables: no run and no expansion leads there, and the small letters themselves
are the first run.
-/

namespace PointTable.Text

/-- A small letter of ASCII, by its code point. -/
def IsSmall (code : Nat) : Prop :=
  97 ≤ code ∧ code ≤ 122

instance (code : Nat) : Decidable (IsSmall code) := by
  unfold IsSmall
  infer_instance

theorem expandedCapitals_not_small :
    ∀ expansion ∈ expandedCapitals, ∀ code ∈ expansion.2, ¬IsSmall code := by
  decide +kernel

/-- The capitals of a run all lie below the small letters or all above them. -/
theorem capitalRuns_not_small :
    ∀ run ∈ capitalRuns, run.last + run.shift < 97 ∨ 122 < run.first + run.shift := by
  decide +kernel

theorem not_small_ofNat {code : Nat} (capital : ¬IsSmall code) :
    ¬IsSmall (Char.ofNat code).toNat := by
  unfold Char.ofNat
  by_cases valid : code.isValidChar
  · rw [dif_pos valid]
    exact capital
  · rw [dif_neg valid]
    decide

theorem not_small_of_mem_upperChar {c upperCase : Char} (member : upperCase ∈ upperChar c) :
    ¬IsSmall upperCase.toNat := by
  unfold upperChar at member
  split at member
  · next codes found =>
      obtain ⟨code, codeMember, rfl⟩ := List.mem_map.mp member
      obtain ⟨before, behind, table, _⟩ := List.lookup_eq_some_iff.mp found
      have listed : (c.toNat, codes) ∈ expandedCapitals := by simp [table]
      exact not_small_ofNat (expandedCapitals_not_small _ listed code codeMember)
  · split at member
    · next run found =>
        obtain rfl := List.mem_singleton.mp member
        have inside := List.find?_some found
        have shifted := capitalRuns_not_small run (List.mem_of_find?_eq_some found)
        simp only [CaseRun.contains, Bool.and_eq_true, decide_eq_true_eq] at inside
        apply not_small_ofNat
        simp only [IsSmall]
        omega
    · next missing =>
        obtain rfl := List.mem_singleton.mp member
        have outside := List.find?_eq_none.mp missing ⟨97, 122, 1, -32⟩ List.mem_cons_self
        simpa [CaseRun.contains, IsSmall, Nat.mod_one] using outside

theorem not_small_of_mem_upper {text : String} {c : Char} (member : c ∈ (upper text).toList) :
    ¬IsSmall c.toNat := by
  rw [upper, String.toList_ofList, List.mem_flatMap] at member
  obtain ⟨source, _, member⟩ := member
  exact not_small_of_mem_upperChar member

end PointTable.Text
