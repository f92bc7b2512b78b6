import Mathlib.Data.Int.ModEq
import PointTable.Proofs.Codec.Window

/-!
# Integers in registers

The name of a byte order labels the four bytes of two words as they go over the wire, and the value
is the signed number whose bytes are those under `A`, `B`, `C` and `D`. Since the orders only
exchange bytes and words, laying out a pair of words is the inverse of bringing it into canonical
order, and the codecs of all orders come down to the signed remainders modulo `2 ^ 16` and `2 ^ 32`.
-/

namespace PointTable

namespace Codec

/-! ## Words -/

theorem orderBytes_lt (order : ByteOrder) {word : Nat} (bound : word < 65536) :
    orderBytes order word < 65536 := by
  unfold orderBytes swapBytes
  split <;> omega

@[simp] theorem orderBytes_orderBytes (order : ByteOrder) {word : Nat} (bound : word < 65536) :
    orderBytes order (orderBytes order word) = word := by
  unfold orderBytes swapBytes
  split
  · omega
  · rfl

/-! ## Pairs of words -/

/-- Bring two words into canonical order or lay out a canonical pair: both exchange the same bytes
and the same words. -/
def arrange (order : ByteOrder) (pair : Nat × Nat) : Nat × Nat :=
  if order.swapsWords then (orderBytes order pair.2, orderBytes order pair.1)
  else (orderBytes order pair.1, orderBytes order pair.2)

/-- Both parts of a pair are words. -/
def AreWords (pair : Nat × Nat) : Prop :=
  pair.1 < 65536 ∧ pair.2 < 65536

theorem areWords_maskWord (first second : Int) : AreWords (maskWord first, maskWord second) :=
  ⟨maskWord_lt first, maskWord_lt second⟩

theorem areWords_div_mod {bits : Nat} (bound : bits < 4294967296) :
    AreWords (bits / 65536, bits % 65536) :=
  ⟨by omega, by omega⟩

theorem areWords_arrange (order : ByteOrder) {pair : Nat × Nat} (words : AreWords pair) :
    AreWords (arrange order pair) := by
  have first := orderBytes_lt order words.1
  have second := orderBytes_lt order words.2
  unfold arrange
  split
  · exact ⟨second, first⟩
  · exact ⟨first, second⟩

theorem arrange_arrange (order : ByteOrder) {pair : Nat × Nat} (words : AreWords pair) :
    arrange order (arrange order pair) = pair := by
  have first := orderBytes_orderBytes order words.1
  have second := orderBytes_orderBytes order words.2
  unfold arrange
  split <;> simp only [first, second]

theorem layPair_eq (high low : Nat) (order : ByteOrder) :
    layPair high low order = [(arrange order (high, low)).1, (arrange order (high, low)).2] := by
  unfold layPair arrange
  split <;> rfl

theorem canonicalPair_append (before after : List Cell) (first second : Int) (order : ByteOrder) :
    canonicalPair (before ++ [.int first, .int second] ++ after) before.length order =
      .ok (arrange order (maskWord first, maskWord second)) :=
  ((sameWindow_append before [.int first, .int second] after).alike .int).canonicalPair_eq
    (by decide) order

theorem canonicalPair_layPair (before after : List Cell) {high low : Nat}
    (words : AreWords (high, low)) (order : ByteOrder) :
    canonicalPair (before ++ (layPair high low order).map .ofNat ++ after) before.length order =
      .ok (high, low) := by
  have laid := areWords_arrange order words
  have read := canonicalPair_append before after (arrange order (high, low)).1
    (arrange order (high, low)).2 order
  rw [maskWord_natCast laid.1, maskWord_natCast laid.2, Prod.eta, arrange_arrange order words]
    at read
  rw [layPair_eq]
  exact read

theorem layPair_arrange (first second : Int) (order : ByteOrder) :
    layPair (arrange order (maskWord first, maskWord second)).1
      (arrange order (maskWord first, maskWord second)).2 order =
        [maskWord first, maskWord second] := by
  rw [layPair_eq, Prod.eta, arrange_arrange order (areWords_maskWord first second)]

/-! ## Bytes on the wire -/

/-- The bytes of two words as they go over the wire, the high byte of each word first. -/
def wireBytes (first second : Int) : List Int :=
  [first % 65536 / 256, first % 65536 % 256, second % 65536 / 256, second % 65536 % 256]

/-- Of the bytes on the wire, labelled one by one with the letters of an order's name, these stand
under `A`, `B`, `C` and `D`. -/
structure Labels (order : ByteOrder) (wire : List Int) (a b c d : Int) : Prop where
  labelled_a : (order.name.toList.zip wire).lookup 'A' = some a
  labelled_b : (order.name.toList.zip wire).lookup 'B' = some b
  labelled_c : (order.name.toList.zip wire).lookup 'C' = some c
  labelled_d : (order.name.toList.zip wire).lookup 'D' = some d

/-- A value is the signed number of 32 bits that has these bytes, the most significant first. -/
structure HasBytes (value a b c d : Int) : Prop where
  lower : -2 ^ 31 ≤ value
  upper : value < 2 ^ 31
  bits : value % 2 ^ 32 = ((a * 256 + b) * 256 + c) * 256 + d

theorem natCast_swapBytes_div {word : Nat} (bound : word < 65536) :
    (swapBytes word : Int) / 256 = word % 256 := by
  unfold swapBytes
  omega

theorem natCast_swapBytes_mod {word : Nat} (bound : word < 65536) :
    (swapBytes word : Int) % 256 = word / 256 := by
  unfold swapBytes
  omega

/-- The canonical pair has the labelled bytes, two in the high word and two in the low one. -/
theorem labels_arrange (order : ByteOrder) (first second : Int) {high low : Nat}
    (arranged : arrange order (maskWord first, maskWord second) = (high, low)) :
    Labels order (wireBytes first second) (high / 256) (high % 256) (low / 256) (low % 256) := by
  have firstWord := maskWord_lt first
  have secondWord := maskWord_lt second
  unfold wireBytes
  rw [← natCast_maskWord first, ← natCast_maskWord second]
  cases order with
  | abcd | cdab =>
      obtain ⟨rfl, rfl⟩ := Prod.mk.inj arranged
      exact ⟨rfl, rfl, rfl, rfl⟩
  | badc | dcba =>
      obtain ⟨rfl, rfl⟩ := Prod.mk.inj arranged
      simp only [orderBytes, ByteOrder.swapsBytes, if_true]
      rw [natCast_swapBytes_div firstWord, natCast_swapBytes_div secondWord,
        natCast_swapBytes_mod firstWord, natCast_swapBytes_mod secondWord]
      exact ⟨rfl, rfl, rfl, rfl⟩

/-- The signed number of 32 bits that two words make up has their bytes. -/
theorem hasBytes_bmod {high low : Nat} (words : AreWords (high, low)) :
    HasBytes (Int.bmod (high * 65536 + low : Nat) 4294967296) (high / 256) (high % 256) (low / 256)
      (low % 256) := by
  have highWord : high < 65536 := words.1
  have lowWord : low < 65536 := words.2
  constructor
  · exact Int.le_bmod (by decide)
  · exact Int.bmod_lt (by decide)
  · have remainder : Int.bmod (high * 65536 + low : Nat) 4294967296 % 4294967296 = _ :=
      Int.bmod_emod
    omega

/-! ## Integers of 32 bits -/

theorem decodeInt_of_pair {data : List Cell} {offset : Int} {order : ByteOrder} {high low : Nat}
    (pair : canonicalPair data offset order = .ok (high, low)) :
    decodeInt data offset order = .ok (Int.bmod (high * 65536 + low : Nat) 4294967296) :=
  Outcome.bind_eq_ok.mpr ⟨(high, low), pair, rfl⟩

theorem decodeInt_encodeBits (before after : List Cell) {bits : Nat} (bound : bits < 4294967296)
    (order : ByteOrder) :
    decodeInt (before ++ (encodeBits bits order).map .ofNat ++ after) before.length order =
      .ok (Int.bmod bits 4294967296) := by
  have read :=
    decodeInt_of_pair (canonicalPair_layPair before after (areWords_div_mod bound) order)
  rw [Nat.div_add_mod'] at read
  exact read

theorem encodeBits_pair {high low : Nat} (words : AreWords (high, low)) (order : ByteOrder) :
    encodeBits (high * 65536 + low) order = layPair high low order := by
  have lowWord : low < 65536 := words.2
  have highPart : (high * 65536 + low) / 65536 = high := by omega
  have lowPart : (high * 65536 + low) % 65536 = low := by omega
  rw [encodeBits, highPart, lowPart]

theorem encodeInt_bmod {bits : Nat} (bound : bits < 4294967296) (order : ByteOrder) :
    encodeInt (Int.bmod bits 4294967296) order = .ok (encodeBits bits order) := by
  have lower : -2147483648 ≤ Int.bmod bits 4294967296 := Int.le_bmod (by decide)
  have upper : Int.bmod bits 4294967296 < 2147483648 := Int.bmod_lt (by decide)
  have remainder : Int.bmod bits 4294967296 % 4294967296 = _ := Int.bmod_emod
  have pattern : (Int.bmod bits 4294967296 % 4294967296).toNat = bits := by omega
  rw [encodeInt, if_pos ⟨lower, upper⟩, pattern]

/-- Two words hold the number of their labelled bytes, and it is encoded by the same words. -/
theorem decodeInt_labelled (order : ByteOrder) (before after : List Cell) (first second : Int) :
    ∃ value a b c d,
      decodeInt (before ++ [.int first, .int second] ++ after) before.length order = .ok value ∧
        Labels order (wireBytes first second) a b c d ∧ HasBytes value a b c d ∧
        encodeInt value order = .ok [(first % 65536).toNat, (second % 65536).toNat] := by
  have words := areWords_arrange order (areWords_maskWord first second)
  have pair := canonicalPair_append before after first second order
  have laid := layPair_arrange first second order
  cases arranged : arrange order (maskWord first, maskWord second) with
  | mk high low =>
      rw [arranged] at words pair laid
      have highWord : high < 65536 := words.1
      have lowWord : low < 65536 := words.2
      refine ⟨_, _, _, _, _, decodeInt_of_pair pair, labels_arrange order first second arranged,
        hasBytes_bmod words, ?_⟩
      rw [encodeInt_bmod (by omega), encodeBits_pair words, laid]
      rfl

theorem decodeInt_encodeInt (order : ByteOrder) {value : Int} (lower : -2 ^ 31 ≤ value)
    (upper : value < 2 ^ 31) :
    ∃ first second, encodeInt value order = .ok [first, second] ∧ first < 65536 ∧
      second < 65536 ∧ ∀ before after : List Cell,
        decodeInt (before ++ [.ofNat first, .ofNat second] ++ after) before.length order =
          .ok value := by
  have bound : (value % 4294967296).toNat < 4294967296 := by omega
  have signed : Int.bmod (value % 4294967296).toNat 4294967296 = value := by
    rw [Int.toNat_of_nonneg (Int.emod_nonneg value (by decide))]
    rw [show (4294967296 : Int) = (4294967296 : Nat) from rfl, Int.emod_bmod]
    exact Int.bmod_eq_of_le lower upper
  have encoded := encodeInt_bmod bound order
  have laid := areWords_arrange order (areWords_div_mod bound)
  rw [signed, encodeBits, layPair_eq] at encoded
  refine ⟨_, _, encoded, laid.1, laid.2, fun before after => ?_⟩
  have decoded := decodeInt_encodeBits before after bound order
  rw [signed, encodeBits, layPair_eq] at decoded
  exact decoded

theorem encodeInt_eq_error (order : ByteOrder) {value : Int}
    (outside : value < -2 ^ 31 ∨ 2 ^ 31 ≤ value) : encodeInt value order = .error .outOfRange := by
  unfold encodeInt
  rw [if_neg]
  omega

/-! ## Integers of 16 bits -/

theorem decodeShort_append (before after : List Cell) (word : Int) (order : ByteOrder) :
    decodeShort (before ++ [.int word] ++ after) before.length order =
      .ok (Int.bmod (orderBytes order (maskWord word)) 65536) :=
  ((sameWindow_append before [.int word] after).alike .short).decodeShort_eq (by decide) order

theorem decodeShort_encodeShort (before after : List Cell) (value : Int) (order : ByteOrder) :
    decodeShort (before ++ (encodeShort value order).map .ofNat ++ after) before.length order =
      .ok (Int.bmod value 65536) := by
  have word := maskWord_lt value
  have read := decodeShort_append before after (orderBytes order (maskWord value)) order
  rw [maskWord_natCast (orderBytes_lt order word), orderBytes_orderBytes order word,
    natCast_maskWord] at read
  rw [← Int.emod_bmod value 65536]
  exact read

theorem encodeShort_bmod {word : Nat} (bound : word < 65536) (order : ByteOrder) :
    encodeShort (Int.bmod word 65536) order = [orderBytes order word] := by
  have remainder : Int.bmod word 65536 % 65536 = _ := Int.bmod_emod
  have pattern : maskWord (Int.bmod word 65536) = word := by
    unfold maskWord
    omega
  rw [encodeShort, pattern]

/-! ## The codec of a byte order -/

/-- What a byte order promises for integers, wherever their words stand in a reading. -/
structure CodesIntegers (order : ByteOrder) : Prop where
  /-- Two words hold the signed number of the bytes that the name of the order labels, and this
  number is encoded by the same words. -/
  int_of_words : ∀ (before after : List Cell) (first second : Int), ∃ value a b c d,
    decodeInt (before ++ [.int first, .int second] ++ after) before.length order = .ok value ∧
      Labels order (wireBytes first second) a b c d ∧ HasBytes value a b c d ∧
      encodeInt value order = .ok [(first % 65536).toNat, (second % 65536).toNat]
  /-- A number of 32 bits is encoded by two words that hold it. -/
  words_of_int : ∀ value : Int, -2 ^ 31 ≤ value → value < 2 ^ 31 → ∃ first second,
    encodeInt value order = .ok [first, second] ∧ first < 65536 ∧ second < 65536 ∧
      ∀ before after : List Cell,
        decodeInt (before ++ [.ofNat first, .ofNat second] ++ after) before.length order =
          .ok value
  /-- Every other number is refused. -/
  refused : ∀ value : Int, value < -2 ^ 31 ∨ 2 ^ 31 ≤ value →
    encodeInt value order = .error .outOfRange
  /-- The word of any integer holds the number of 16 bits that is congruent to it. -/
  short_of_int : ∀ (before after : List Cell) (value : Int), ∃ number,
    decodeShort (before ++ (encodeShort value order).map .ofNat ++ after) before.length order =
        .ok number ∧
      -2 ^ 15 ≤ number ∧ number < 2 ^ 15 ∧ number ≡ value [ZMOD 2 ^ 16]
  /-- The number that a word holds is encoded by the same word. -/
  word_of_short : ∀ (before after : List Cell) (word : Int), ∃ number,
    decodeShort (before ++ [.int word] ++ after) before.length order = .ok number ∧
      encodeShort number order = [(word % 65536).toNat]

/-- Integers are laid out as the name of the byte order says, and the codec of every order is
inverse in both directions. -/
theorem codesIntegers (order : ByteOrder) : CodesIntegers order := by
  constructor
  case int_of_words => exact decodeInt_labelled order
  case words_of_int => exact fun value lower upper => decodeInt_encodeInt order lower upper
  case refused => exact fun value outside => encodeInt_eq_error order outside
  case short_of_int =>
    intro before after value
    refine ⟨_, decodeShort_encodeShort before after value order, Int.le_bmod (by decide),
      Int.bmod_lt (by decide), ?_⟩
    exact Int.bmod_emod
  case word_of_short =>
    intro before after word
    have bound := maskWord_lt word
    refine ⟨_, decodeShort_append before after word order, ?_⟩
    rw [encodeShort_bmod (orderBytes_lt order bound), orderBytes_orderBytes order bound]
    rfl

example : encodeInt (-559038737) .badc = .ok [0xADDE, 0xEFBE] := by decide

end Codec

end PointTable
