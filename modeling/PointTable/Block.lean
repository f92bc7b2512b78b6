import PointTable.Codec.Value
import PointTable.Ordered
import PointTable.Tag

/-!
# Request blocks

A block is one batched read: a stretch of one table and the tags whose values lie in it. The
response is taken apart again by decoding every tag at its offset in the block.
-/

namespace PointTable

/-- One read of `length` registers or coils from `start` on. -/
structure Block where
  table : TableKind
  start : Int
  length : Int
  tags : List Tag
  deriving DecidableEq, Repr

/-- Where a tag's value sits in a block and how it is decoded. -/
structure Binding where
  name : String
  offset : Int
  typeText : String
  registerLength : Nat
  arrayLength : Int
  deriving DecidableEq, Repr

namespace Block

def stop (block : Block) : Int :=
  block.start + block.length

/-- The place of a tag in a block. -/
def offsetOf (block : Block) (tag : Tag) : Int :=
  tag.address - block.start

def bindings (block : Block) : List Binding :=
  block.tags.map fun tag =>
    ⟨tag.name, block.offsetOf tag, tag.pointType.text, tag.registerLength, tag.arrayLength⟩

end Block

namespace Codec

/-- Decode a tag at an offset. -/
def decodeTag (tag : Tag) (data : List Cell) (offset : Int) (orders : Orders) :
    Except DecodeFault Cell :=
  decodeValue data offset tag.pointType tag.registerLength tag.arrayLength orders

/-- Decode tags one after the other into a mapping by name. -/
def decodeTags (block : Block) (data : List Cell) (orders : Orders) :
    List (String × Cell) → List Tag → Except DecodeFault (List (String × Cell))
  | values, [] => .ok values
  | values, tag :: rest => do
    let value ← decodeTag tag data (block.offsetOf tag) orders
    decodeTags block data orders (Ordered.put tag.name value values) rest

/-- Take a block's response apart into values by tag name, in block order. -/
def decodeBlock (block : Block) (data : List Cell) (orders : Orders) :
    Except DecodeFault (List (String × Cell)) :=
  if (data.length : Int) < block.length then
    .error (.telling [block.start, data.length, block.length]
      (.shortResponse block.table block.start block.length data.length))
  else decodeTags block data orders [] block.tags

end Codec

end PointTable
