import PointTable.Tag

/-!
# Footprints

The stretch of registers or coils that a type and a length ask for is never empty, so a tag can be
made of it. A tag is exact when it occupies just what decoding it reads; the tags of points are.
-/

namespace PointTable

/-- The registers or coils that decoding a scalar reads. Only a string has a length of its own. -/
def BaseType.reach (base : BaseType) (registerLength : Nat) : Nat :=
  match base with
  | .bool | .short => 1
  | .int | .float => 2
  | .string => registerLength

namespace PointType

/-- A length of zero counts as none. -/
theorem lengthOr_pos {default : Int} {length : Option Int} (defaultPos : 1 ≤ default)
    (lengthNonneg : ∀ given, length = some given → 0 ≤ given) :
    1 ≤ lengthOr default length := by
  cases length with
  | none => exact defaultPos
  | some given =>
      have nonneg := lengthNonneg given rfl
      simp only [lengthOr]
      split
      · exact defaultPos
      · omega

theorem elementWidth_pos (pointType : PointType) : 0 < pointType.elementWidth := by
  unfold elementWidth
  split <;> decide

@[simp] theorem reach_elementWidth (pointType : PointType) :
    pointType.base.reach pointType.elementWidth = pointType.elementWidth := by
  unfold BaseType.reach elementWidth
  split <;> simp_all

/-- A point whose length is not negative, or not given, occupies at least one register or coil. -/
theorem registerLength_pos {pointType : PointType} {length : Option Int}
    (lengthNonneg : ∀ given, length = some given → 0 ≤ given) :
    1 ≤ pointType.registerLength length := by
  have width : (1 : Int) ≤ pointType.elementWidth := by
    exact_mod_cast elementWidth_pos pointType
  unfold registerLength
  split
  · next array =>
      have count : 1 ≤ pointType.arrayLength length := by
        rw [arrayLength, if_pos array]
        exact lengthOr_pos (by decide) lengthNonneg
      calc (1 : Int) = 1 * 1 := by decide
        _ ≤ pointType.arrayLength length * pointType.elementWidth :=
          Int.mul_le_mul count width (by decide) (by omega)
  · split
    · exact lengthOr_pos (by decide) lengthNonneg
    · exact width

end PointType

namespace Tag

theorem make_ok {name property : String} {address registerLength : Int} {pointType : PointType}
    {arrayLength : Int} (nonneg : 0 ≤ address) (positive : 1 ≤ registerLength) :
    ∃ tag, make name property address registerLength pointType arrayLength = .ok tag := by
  have notNegative : ¬address < 0 := by omega
  have footprint : 0 < registerLength.toNat := by omega
  simp [make, notNegative, footprint]

theorem table_of_not_bool {tag : Tag} (notBool : tag.pointType.base ≠ .bool) :
    tag.table = .holdingRegister := by
  simp [table, PointType.table, notBool]

/-- The registers or coils that decoding a tag reads. -/
def reach (tag : Tag) : Nat :=
  if tag.pointType.isArray then tag.arrayLength.toNat * tag.pointType.elementWidth
  else tag.pointType.base.reach tag.registerLength

/-- A tag occupies what decoding it reads. -/
def Exact (tag : Tag) : Prop :=
  tag.reach = tag.registerLength

/-- A tag with the lengths of its type is exact. -/
theorem exact_of_lengths {tag : Tag} {length : Option Int}
    (registers : (tag.registerLength : Int) = tag.pointType.registerLength length)
    (elements : tag.arrayLength = tag.pointType.arrayLength length) : tag.Exact := by
  unfold PointType.registerLength at registers
  unfold Exact reach
  split
  · next array =>
      rw [if_pos array, ← elements] at registers
      have width : (0 : Int) < tag.pointType.elementWidth := by
        exact_mod_cast PointType.elementWidth_pos tag.pointType
      have nonneg : 0 ≤ tag.arrayLength :=
        Int.nonneg_of_mul_nonneg_left (registers ▸ Int.natCast_nonneg _) width
      apply Int.ofNat.inj
      rw [Int.ofNat_eq_natCast, Int.ofNat_eq_natCast, Int.natCast_mul, Int.toNat_of_nonneg nonneg,
        registers]
  · next scalar =>
      rw [if_neg scalar] at registers
      cases base : tag.pointType.base with
      | string => rfl
      | bool | short | int | float =>
          simp [base, PointType.elementWidth] at registers
          simp only [BaseType.reach]
          omega

end Tag

end PointTable
