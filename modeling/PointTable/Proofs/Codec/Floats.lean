import PointTable.Proofs.Codec.Integers
import PointTable.Proofs.Number.Single

/-!
# Floats in registers

Two words spell a pattern of 32 bits, made of the bytes that the name of the byte order labels, and
the value is the double that the pattern denotes. Since the pattern of a double that was read is the
one that it was read from, words and values determine each other as long as no non-number is among
them; in particular the two zeros have words of their own.
-/

namespace PointTable.Codec

/-! ## Patterns of two words -/

/-- Two words spell a pattern under an order: it has the bytes that the name of the order labels,
the most significant first. -/
def Spells (order : ByteOrder) (first second : Int) (bits : Nat) : Prop :=
  ∃ a b c d, Labels order (wireBytes first second) a b c d ∧
    (bits : Int) = ((a * 256 + b) * 256 + c) * 256 + d

/-- The pattern of a canonical pair. -/
def patternOf (pair : Nat × Nat) : Nat :=
  pair.1 * 65536 + pair.2

theorem patternOf_lt {pair : Nat × Nat} (words : AreWords pair) : patternOf pair < 4294967296 := by
  have high := words.1
  have low := words.2
  unfold patternOf
  omega

theorem spells_arrange (order : ByteOrder) (first second : Int) :
    Spells order first second (patternOf (arrange order (maskWord first, maskWord second))) := by
  cases arranged : arrange order (maskWord first, maskWord second) with
  | mk high low =>
      refine ⟨_, _, _, _, labels_arrange order first second arranged, ?_⟩
      simp only [patternOf]
      omega

theorem areWords_of_canonicalPair {data : List Cell} {offset : Int} {order : ByteOrder}
    {pair : Nat × Nat} (read : canonicalPair data offset order = .ok pair) : AreWords pair := by
  have word_lt : ∀ {index : Nat} {word : Nat}, wordAt data index = .ok word → word < 65536 := by
    intro index word found
    unfold wordAt wordOf at found
    split at found
    · split at found
      · obtain rfl := Except.ok.inj found
        exact maskWord_lt _
      · cases found
    · cases found
  obtain ⟨_, _, read⟩ := Outcome.bind_eq_ok.mp read
  obtain ⟨first, firstFound, read⟩ := Outcome.bind_eq_ok.mp read
  obtain ⟨second, secondFound, read⟩ := Outcome.bind_eq_ok.mp read
  obtain rfl : arrange order (first, second) = pair := Except.ok.inj read
  exact areWords_arrange order ⟨word_lt firstFound, word_lt secondFound⟩

/-! ## Values of patterns -/

section

variable {order : ByteOrder} {data : List Cell} {offset : Int}

@[simp] theorem decodeFloat_eq_ok {value : Double} :
    decodeFloat data offset order = .ok value ↔
      ∃ pair, canonicalPair data offset order = .ok pair ∧
        Double.ofSingleBits (patternOf pair) = value := by
  refine Outcome.bind_eq_ok.trans (exists_congr fun pair => and_congr_right fun _ => ?_)
  exact ⟨Except.ok.inj, congrArg Except.ok⟩

/-- A canonical pair that spells a number or an infinity is laid out as it was. -/
theorem encodeFloat_patternOf (order : ByteOrder) {pair : Nat × Nat} (words : AreWords pair)
    (number : ¬Double.SpellsNan (patternOf pair)) :
    encodeFloat (Double.ofSingleBits (patternOf pair)) order =
      .ok (layPair pair.1 pair.2 order) := by
  rw [encodeFloat, Double.toSingleBits_ofSingleBits (patternOf_lt words) number]
  exact congrArg Except.ok (encodeBits_pair words order)

/-- A value that two words hold, unless it is a non-number, is encoded by the same words. -/
theorem encodeFloat_of_decodeFloat {before after : List Cell} {first second : Int} {value : Double}
    (decoded : decodeFloat (before ++ [.int first, .int second] ++ after) before.length order =
      .ok value) (number : ¬value.IsNan) :
    encodeFloat value order = .ok [(first % 65536).toNat, (second % 65536).toNat] := by
  obtain ⟨pair, read, rfl⟩ := decodeFloat_eq_ok.mp decoded
  have appended := canonicalPair_append before after first second order
  obtain rfl := Except.ok.inj (appended.symm.trans read)
  rw [Double.isNan_ofSingleBits_iff] at number
  rw [encodeFloat_patternOf order (areWords_of_canonicalPair read) number,
    layPair_arrange first second order]
  rfl

end

/-! ## The codec of a byte order -/

/-- What a byte order promises for floats, wherever their words stand in a reading. -/
structure CodesFloats (order : ByteOrder) : Prop where
  /-- Two words hold a value, which is a non-number just if they spell one; any other value is
  encoded by the same words. -/
  float_of_words : ∀ (before after : List Cell) (first second : Int), ∃ bits value,
    Spells order first second bits ∧
      decodeFloat (before ++ [.int first, .int second] ++ after) before.length order = .ok value ∧
      (value.IsNan ↔ Double.SpellsNan bits) ∧
      (¬Double.SpellsNan bits →
        encodeFloat value order = .ok [(first % 65536).toNat, (second % 65536).toNat])
  /-- Words that hold one value are the same words, unless the value is a non-number. -/
  words_unique : ∀ (before after before' after' : List Cell) (first second first' second' : Int)
    (value : Double), ¬value.IsNan →
    decodeFloat (before ++ [.int first, .int second] ++ after) before.length order = .ok value →
    decodeFloat (before' ++ [.int first', .int second'] ++ after') before'.length order =
      .ok value →
    first % 65536 = first' % 65536 ∧ second % 65536 = second' % 65536
  /-- Whatever is decoded, under any order, is encoded by two words that hold it, unless it is a
  non-number. -/
  words_of_float : ∀ (data : List Cell) (offset : Int) (other : ByteOrder) (value : Double),
    ¬value.IsNan → decodeFloat data offset other = .ok value →
    ∃ first second, encodeFloat value order = .ok [first, second] ∧ first < 65536 ∧
      second < 65536 ∧ ∀ before after : List Cell,
        decodeFloat (before ++ [.ofNat first, .ofNat second] ++ after) before.length order =
          .ok value

/-- Floats are laid out as the name of the byte order says, and but for non-numbers the codec of
every order is inverse in both directions. -/
theorem codesFloats (order : ByteOrder) : CodesFloats order := by
  constructor
  case float_of_words =>
    intro before after first second
    have decoded := decodeFloat_eq_ok.mpr
      ⟨_, canonicalPair_append before after first second order, rfl⟩
    refine ⟨_, _, spells_arrange order first second, decoded, Double.isNan_ofSingleBits_iff, ?_⟩
    intro number
    exact encodeFloat_of_decodeFloat decoded (number ∘ Double.isNan_ofSingleBits_iff.mp)
  case words_unique =>
    intro before after before' after' first second first' second' value number decoded decoded'
    have encoded := encodeFloat_of_decodeFloat decoded number
    rw [encodeFloat_of_decodeFloat decoded' number, Except.ok.injEq, List.cons.injEq,
      List.cons.injEq] at encoded
    omega
  case words_of_float =>
    intro data offset other value number decoded
    obtain ⟨pair, read, rfl⟩ := decodeFloat_eq_ok.mp decoded
    have words := areWords_of_canonicalPair read
    have laid := areWords_arrange order words
    rw [Double.isNan_ofSingleBits_iff] at number
    have encoded := encodeFloat_patternOf order words number
    rw [layPair_eq] at encoded
    refine ⟨_, _, encoded, laid.1, laid.2, fun before after => ?_⟩
    have reread := canonicalPair_layPair before after words order
    rw [layPair_eq] at reread
    exact decodeFloat_eq_ok.mpr ⟨pair, reread, rfl⟩

example : (decodeFloat [.int 0x0100, .int 0x0080] 0 .dcba).toOption.bind (fun value =>
    (encodeFloat value .dcba).toOption) = some [0x0100, 0x0080] := by
  decide +kernel

end PointTable.Codec
