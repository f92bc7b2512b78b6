import PointTable.ByteOrder
import PointTable.Number.Single

/-!
# Register words

Words of 16 bits carry integers, floats and text under a byte order. Decoders take the two words at
an offset, bring them into canonical order (high word first, high byte first) and read the value;
encoders are their inverses. Words on the wire may be given by any integer and count modulo
`65536`.
-/

namespace PointTable.Codec

open Number

/-- Why a reading cannot be decoded. -/
inductive DecodeFault where
  /-- `needed` values at `offset` do not lie inside the `available` ones. -/
  | window (offset needed : Int) (available : Nat)
  /-- A block's response is shorter than the block. -/
  | shortResponse (table : TableKind) (start needed : Int) (available : Nat)
  /-- A register holds something other than an integer. -/
  | notAWord
  /-- The numbers that a fault would tell cannot be written. -/
  | digits (fault : WriteFault)
  deriving DecidableEq, Repr

def DecodeFault.message : DecodeFault → String
  | .window offset needed available =>
    "Need " ++ toString needed ++ " value(s) at offset " ++ toString offset ++ ", only "
      ++ toString available ++ " available"
  | .shortResponse table start needed available =>
    "Short " ++ (if table = .coil then "bit" else "register") ++ " response for block at "
      ++ toString start ++ ": got " ++ toString available ++ ", expected " ++ toString needed
  | .notAWord => "register value is not an integer"
  | .digits fault => fault.message

/-- A fault that tells some numbers, or that of writing them. -/
def DecodeFault.telling (numbers : List Int) (fault : DecodeFault) : DecodeFault :=
  match ifWritable (numbers.all isWritable) fault with
  | .ok fault => fault
  | .error unwritten => .digits unwritten

/-- The fault of `needed` values at `offset` that do not lie inside the `available` ones. -/
def DecodeFault.ofWindow (offset needed : Int) (available : Nat) : DecodeFault :=
  .telling [offset, needed, available] (.window offset needed available)

/-- An integer as the word it is on the wire. -/
def maskWord (n : Int) : Nat :=
  (n % 65536).toNat

@[simp] theorem natCast_maskWord (n : Int) : (maskWord n : Int) = n % 65536 :=
  Int.toNat_of_nonneg (Int.emod_nonneg n (by decide))

theorem maskWord_lt (n : Int) : maskWord n < 65536 := by
  have remainder := natCast_maskWord n
  omega

@[simp] theorem maskWord_natCast {word : Nat} (bound : word < 65536) : maskWord word = word := by
  have remainder := natCast_maskWord word
  omega

/-- Exchange the two bytes of a word. -/
def swapBytes (word : Nat) : Nat :=
  word % 256 * 256 + word / 256

/-- Exchange the bytes of a word if the order asks for it. -/
def orderBytes (order : ByteOrder) (word : Nat) : Nat :=
  if order.swapsBytes then swapBytes word else word

/-- The offset and the values after it lie inside the reading. -/
def requireWindow (data : List Cell) (offset needed : Int) : Except DecodeFault Unit :=
  if offset < 0 || (data.length : Int) < offset + needed then
    .error (.ofWindow offset needed data.length)
  else .ok ()

@[simp] theorem requireWindow_eq_ok_iff {data : List Cell} {offset needed : Int} :
    requireWindow data offset needed = .ok () ↔ 0 ≤ offset ∧ offset + needed ≤ data.length := by
  simp [requireWindow]

def wordOf (cell : Cell) : Except DecodeFault Nat :=
  match cell.integer? with
  | some n => .ok (maskWord n)
  | none => .error .notAWord

def wordAt (data : List Cell) (index : Nat) : Except DecodeFault Nat :=
  match data[index]? with
  | some cell => wordOf cell
  | none => .error (.window index 1 data.length)

/-- The high and the low word, in canonical order, of the value at an offset. -/
def canonicalPair (data : List Cell) (offset : Int) (order : ByteOrder) :
    Except DecodeFault (Nat × Nat) := do
  requireWindow data offset 2
  let first ← wordAt data offset.toNat
  let second ← wordAt data (offset.toNat + 1)
  let first := orderBytes order first
  let second := orderBytes order second
  return if order.swapsWords then (second, first) else (first, second)

/-- Lay out a canonical pair under an order. -/
def layPair (high low : Nat) (order : ByteOrder) : List Nat :=
  if order.swapsWords then [orderBytes order low, orderBytes order high]
  else [orderBytes order high, orderBytes order low]

def decodeShort (data : List Cell) (offset : Int) (order : ByteOrder) :
    Except DecodeFault Int := do
  requireWindow data offset 1
  let word ← wordAt data offset.toNat
  return Int.bmod (orderBytes order word) 65536

def decodeInt (data : List Cell) (offset : Int) (order : ByteOrder) :
    Except DecodeFault Int := do
  let (high, low) ← canonicalPair data offset order
  return Int.bmod (high * 65536 + low : Nat) 4294967296

def decodeFloat (data : List Cell) (offset : Int) (order : ByteOrder) :
    Except DecodeFault Double := do
  let (high, low) ← canonicalPair data offset order
  return Double.ofSingleBits (high * 65536 + low)

/-- Why a value cannot be encoded. -/
inductive EncodeFault where
  /-- The integer needs more than 32 bits. -/
  | outOfRange
  /-- The text leaves half a register open. -/
  | oddOctets
  | conversion (fault : ConversionFault)
  deriving DecidableEq, Repr

def EncodeFault.message : EncodeFault → String
  | .outOfRange => "value does not fit in 32 bits"
  | .oddOctets => "index out of range"
  | .conversion fault => fault.message

/-- The word of an integer, of which the low 16 bits count. -/
def encodeShort (value : Int) (order : ByteOrder) : List Nat :=
  [orderBytes order (maskWord value)]

def encodeBits (bits : Nat) (order : ByteOrder) : List Nat :=
  layPair (bits / 65536) (bits % 65536) order

def encodeInt (value : Int) (order : ByteOrder) : Except EncodeFault (List Nat) :=
  if -2147483648 ≤ value ∧ value < 2147483648 then
    .ok (encodeBits (value % 4294967296).toNat order)
  else .error .outOfRange

/-- The two words of the single-precision number nearest to a double. -/
def encodeFloat (value : Double) (order : ByteOrder) : Except EncodeFault (List Nat) :=
  match value.toSingleBits with
  | .ok bits => .ok (encodeBits bits order)
  | .error fault => .error (.conversion fault)

end PointTable.Codec
