import PointTable.Codec.Text

/-!
# Values of points

A point's value is decoded from a reading by its type: one scalar rule per base type, and for
arrays the scalar rule once per element width. Readings hold coil values for truth-value types and
register words for all others.
-/

namespace PointTable.Codec

/-- The two byte orders of a device. -/
structure Orders where
  bytes : ByteOrder
  strings : StringOrder
  deriving DecidableEq, Repr

/-- The truth value of a coil. -/
def decodeBool (data : List Cell) (offset : Int) : Except DecodeFault Bool := do
  requireWindow data offset 1
  return match data[offset.toNat]? with
    | some cell => cell.truthy
    | none => false

/-- Decode one scalar. The register length matters to strings only. -/
def decodeScalar (data : List Cell) (offset : Int) (base : BaseType) (registerLength : Int)
    (orders : Orders) : Except DecodeFault Cell :=
  match base with
  | .bool => (decodeBool data offset).map .bool
  | .short => (decodeShort data offset orders.bytes).map .int
  | .int => (decodeInt data offset orders.bytes).map .int
  | .float => (decodeFloat data offset orders.bytes).map .float
  | .string => (decodeString data offset registerLength orders.strings).map .text

/-- Decode elements one after the other, `width` apart; the first that does not fit ends it. -/
def decodeElements (data : List Cell) (base : BaseType) (width : Nat) (orders : Orders) :
    Int → Nat → Except DecodeFault (List Cell)
  | _, 0 => .ok []
  | offset, count + 1 => do
    let element ← decodeScalar data offset base width orders
    let rest ← decodeElements data base width orders (offset + width) count
    return element :: rest

/-- Decode a point of a type at an offset. -/
def decodeValue (data : List Cell) (offset : Int) (pointType : PointType)
    (registerLength arrayLength : Int) (orders : Orders) : Except DecodeFault Cell :=
  if pointType.isArray then
    (decodeElements data pointType.base pointType.elementWidth orders offset
      arrayLength.toNat).map .list
  else decodeScalar data offset pointType.base registerLength orders

end PointTable.Codec
