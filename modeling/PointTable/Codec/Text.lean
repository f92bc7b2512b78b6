import PointTable.Codec.Word

/-!
# Text in registers

A register carries two ASCII characters. Decoding drops the zero octets at the end and marks octets
beyond ASCII; encoding pads with zeros to the given number of registers, cuts what is longer and
marks characters beyond ASCII.
-/

namespace PointTable.Codec

/-- The two octets of a word in the order of their characters. -/
def octetsOf (order : StringOrder) (word : Nat) : List Nat :=
  match order with
  | .abcd => [word / 256, word % 256]
  | .badc => [word % 256, word / 256]

/-- The word of two octets given in the order of their characters. -/
def wordOfOctets (order : StringOrder) (first second : Nat) : Nat :=
  match order with
  | .abcd => first * 256 + second
  | .badc => second * 256 + first

/-- The values from `start` up to an end that counts from the back when it is negative. -/
def segment (data : List Cell) (start stop : Int) : List Cell :=
  let stop := if stop < 0 then stop + data.length else stop
  (data.take stop.toNat).drop start.toNat

theorem segment_natCast (data : List Cell) (start stop : Nat) :
    segment data start stop = (data.take stop).drop start := by
  have nonneg : ¬(stop : Int) < 0 := by omega
  simp only [segment, if_neg nonneg, Int.toNat_natCast]

@[simp] theorem length_segment {data : List Cell} {start stop : Nat} (inside : stop ≤ data.length) :
    (segment data start stop).length = stop - start := by
  rw [segment_natCast, List.length_drop, List.length_take, Nat.min_eq_left inside]

@[simp] theorem getElem?_segment {data : List Cell} {start stop index : Nat}
    (before : start + index < stop) :
    (segment data start stop)[index]? = data[start + index]? := by
  rw [segment_natCast, List.getElem?_drop, List.getElem?_take_of_lt before]

/-- Drop the zeros at the end. -/
def dropPadding (octets : List Nat) : List Nat :=
  (octets.reverse.dropWhile (· = 0)).reverse

/-- The character of an octet; beyond ASCII it is the replacement character. -/
def charOfOctet (octet : Nat) : Char :=
  if octet < 128 then Char.ofNat octet else '�'

/-- The text of `length` registers at an offset. A negative length counts from the end of the
reading. -/
def decodeString (data : List Cell) (offset length : Int) (order : StringOrder) :
    Except DecodeFault String := do
  requireWindow data offset length
  let words ← (segment data offset (offset + length)).mapM wordOf
  return String.ofList ((dropPadding (words.flatMap (octetsOf order))).map charOfOctet)

/-- The octet of a character; beyond ASCII it is a question mark. -/
def octetOfChar (c : Char) : Nat :=
  if c.toNat < 128 then c.toNat else '?'.toNat

/-- The octets of a text cut and padded to `length` registers. A negative length only cuts, from
the end. -/
def framedOctets (text : String) (length : Int) : List Nat :=
  let octets := text.toList.map octetOfChar
  if length < 0 then octets.take (octets.length - (2 * -length).toNat)
  else
    let cut := octets.take (2 * length).toNat
    cut ++ List.replicate ((2 * length).toNat - cut.length) 0

/-- Pack octets two by two. -/
def packOctets (order : StringOrder) : List Nat → Except EncodeFault (List Nat)
  | [] => .ok []
  | [_] => .error .oddOctets
  | first :: second :: rest => do
    let words ← packOctets order rest
    return wordOfOctets order first second :: words

def encodeString (text : String) (length : Int) (order : StringOrder) :
    Except EncodeFault (List Nat) :=
  packOctets order (framedOctets text length)

end PointTable.Codec
