import PointTable.PointType

/-!
# Tags

A tag is a point of one module reduced to what a reader needs: a name, a type and the registers or
coils it occupies. It always occupies at least one.
-/

namespace PointTable

/-- A named stretch of registers or coils. -/
structure Tag where
  name : String
  property : String
  address : Nat
  registerLength : Nat
  pointType : PointType
  arrayLength : Int
  registerLength_pos : 0 < registerLength
  deriving DecidableEq, Repr

namespace Tag

/-- Why a tag is refused. -/
inductive Fault where
  | negativeAddress (address : Int)
  | emptyFootprint (registerLength : Int)
  deriving DecidableEq, Repr

def Fault.message : Fault → String
  | .negativeAddress address =>
    Number.wording address ("address must be >= 0, got " ++ toString address)
  | .emptyFootprint registerLength =>
    Number.wording registerLength ("register_length must be >= 1, got " ++ toString registerLength)

/-- Build a tag from plain integers. -/
def make (name property : String) (address registerLength : Int) (pointType : PointType)
    (arrayLength : Int) : Except Fault Tag :=
  if address < 0 then .error (.negativeAddress address)
  else if positive : 0 < registerLength.toNat then
    .ok ⟨name, property, address.toNat, registerLength.toNat, pointType, arrayLength, positive⟩
  else .error (.emptyFootprint registerLength)

def table (tag : Tag) : TableKind :=
  tag.pointType.table

def stop (tag : Tag) : Nat :=
  tag.address + tag.registerLength

end Tag

end PointTable
