import PointTable.Number.Double

/-!
# Equality of doubles as values

Equality as values is symmetric and transitive on all doubles and reflexive on all numbers. Since
every value has one canonical form, it is plain equality away from the two zeros.
-/

namespace PointTable.Double

open Number

theorem exists_finite {x : Double} (number : x.isFinite = true) :
    ∃ negative significand exponent canonical,
      x = .finite negative significand exponent canonical := by
  cases x with
  | nan negative => cases number
  | infinite negative => cases number
  | finite negative significand exponent canonical =>
      exact ⟨negative, significand, exponent, canonical, rfl⟩

theorem sameValue_refl {x : Double} (number : x.isFinite = true) : x.sameValue x = true := by
  obtain ⟨negative, significand, exponent, canonical, rfl⟩ := exists_finite number
  simp [sameValue]

theorem sameValue_symm {x y : Double} (equal : x.sameValue y = true) : y.sameValue x = true := by
  cases x <;> cases y <;> simp_all [sameValue]
  rcases equal with ⟨first, second⟩ | ⟨⟨signs, significands⟩, exponents⟩
  · exact .inl ⟨second, first⟩
  · exact .inr ⟨⟨signs.symm, significands.symm⟩, exponents.symm⟩

theorem sameValue_trans {x y z : Double} (first : x.sameValue y = true)
    (second : y.sameValue z = true) : x.sameValue z = true := by
  cases x <;> cases y <;> cases z <;> simp_all [sameValue]
  rcases first with ⟨xZero, yZero⟩ | ⟨⟨signs, significands⟩, exponents⟩
  · rcases second with ⟨_, zZero⟩ | ⟨⟨_, significands⟩, _⟩
    · exact .inl ⟨xZero, zZero⟩
    · exact .inl ⟨xZero, significands ▸ yZero⟩
  · rcases second with ⟨yZero, zZero⟩ | ⟨⟨signs', significands'⟩, exponents'⟩
    · exact .inl ⟨significands ▸ yZero, zZero⟩
    · exact .inr ⟨⟨signs.trans signs', significands.trans significands'⟩,
        exponents.trans exponents'⟩

/-- A number other than zero equals only itself. -/
theorem eq_of_sameValue {x y : Double} (nonzero : x.isZero = false)
    (equal : x.sameValue y = true) : x = y := by
  cases x <;> cases y <;> simp_all [sameValue, isZero]

/-! ## Signs -/

theorem isZero_of_isNegative {x : Double} (negative : x.isNegative = true) :
    x.isZero = false := by
  cases x <;> simp_all [isNegative, isZero]

theorem isPositive_of_isNegative {x : Double} (negative : x.isNegative = true) :
    x.isPositive = false := by
  cases x <;> simp_all [isNegative, isPositive]

theorem isPositive_of_not_isNegative {x : Double} (number : x.isFinite = true)
    (nonzero : x.isZero = false) (notNegative : x.isNegative = false) : x.isPositive = true := by
  obtain ⟨negative, significand, exponent, canonical, rfl⟩ := exists_finite number
  simp_all [isNegative, isZero, isPositive]

end PointTable.Double
