import PointTable.Proofs.Codec.Arrays
import PointTable.Proofs.Codec.Extent
import PointTable.Proofs.Codec.Floats

/-!
# Values of words

What a window of words holds, said without a decoder: a scalar by the codes and bytes of its base
type, an array element by element over stretches of the element width. A window as long as a type
asks for holds one value, and this is what decoding gives wherever the window stands. Conversely a
type that asks for at least one word has a value only where such a window is. A length below zero
asks for none, and what is decoded for it belongs to no window.
-/

namespace PointTable.Codec

/-- Words hold a scalar of a base type. -/
inductive ScalarOf (orders : Orders) : BaseType → List Nat → Cell → Prop
  /-- Every word but zero is true. -/
  | bool (word : Nat) : ScalarOf orders .bool [word] (.bool (decide (word ≠ 0)))
  /-- A word holds the signed number of 16 bits that it encodes. -/
  | short {word : Nat} {value : Int} (lower : -2 ^ 15 ≤ value) (upper : value < 2 ^ 15)
      (encoded : encodeShort value orders.bytes = [word]) :
      ScalarOf orders .short [word] (.int value)
  /-- Two words hold the signed number of the bytes that the name of the order labels. -/
  | int {first second : Nat} {value a b c d : Int}
      (labels : Labels orders.bytes (wireBytes first second) a b c d)
      (bytes : HasBytes value a b c d) : ScalarOf orders .int [first, second] (.int value)
  /-- Two words hold the number of the pattern that they spell. -/
  | float {first second bits : Nat} (spells : Spells orders.bytes first second bits) :
      ScalarOf orders .float [first, second] (.float (Double.ofSingleBits bits))
  /-- Any number of words hold the text of their octets. -/
  | string (words : List Nat) :
      ScalarOf orders .string words (.text (textOfWords orders.strings words))

/-- Words hold a value of a type. -/
inductive ValueOf (orders : Orders) : PointType → List Nat → Cell → Prop
  | scalar {base : BaseType} {words : List Nat} {value : Cell}
      (scalar : ScalarOf orders base words value) : ValueOf orders ⟨base, false⟩ words value
  /-- The words of the elements stand end to end, and each has as many as its type is wide. -/
  | array {base : BaseType} {parts : List (List Nat)} {values : List Cell}
      (width : ∀ part ∈ parts, part.length = PointType.elementWidth ⟨base, true⟩)
      (elements : List.Forall₂ (ScalarOf orders base) parts values) :
      ValueOf orders ⟨base, true⟩ parts.flatten (.list values)

/-! ## A window holds one value -/

theorem Labels.unique {order : ByteOrder} {wire : List Int} {a b c d a' b' c' d' : Int}
    (labels : Labels order wire a b c d) (labels' : Labels order wire a' b' c' d') :
    a = a' ∧ b = b' ∧ c = c' ∧ d = d' :=
  ⟨Option.some.inj (labels.labelled_a.symm.trans labels'.labelled_a),
    Option.some.inj (labels.labelled_b.symm.trans labels'.labelled_b),
    Option.some.inj (labels.labelled_c.symm.trans labels'.labelled_c),
    Option.some.inj (labels.labelled_d.symm.trans labels'.labelled_d)⟩

theorem HasBytes.unique {value value' a b c d : Int} (bytes : HasBytes value a b c d)
    (bytes' : HasBytes value' a b c d) : value = value' := by
  obtain ⟨lower, upper, bits⟩ := bytes
  obtain ⟨lower', upper', bits'⟩ := bytes'
  omega

theorem encodeShort_inj {order : ByteOrder} {value value' : Int} (lower : -2 ^ 15 ≤ value)
    (upper : value < 2 ^ 15) (lower' : -2 ^ 15 ≤ value') (upper' : value' < 2 ^ 15)
    (equal : encodeShort value order = encodeShort value' order) : value = value' := by
  have masks : maskWord value = maskWord value' := by
    rw [← orderBytes_orderBytes order (maskWord_lt value), List.singleton_inj.mp equal,
      orderBytes_orderBytes order (maskWord_lt value')]
  have remainders : value % 65536 = value' % 65536 := by
    rw [← natCast_maskWord, masks, natCast_maskWord]
  omega

theorem ScalarOf.unique {orders : Orders} {base : BaseType} {words : List Nat}
    {value value' : Cell} (scalar : ScalarOf orders base words value)
    (scalar' : ScalarOf orders base words value') : value = value' := by
  cases scalar with
  | bool | string =>
      cases scalar'
      rfl
  | short lower upper encoded =>
      cases scalar' with
      | short lower' upper' encoded' =>
          rw [encodeShort_inj lower upper lower' upper' (encoded.trans encoded'.symm)]
  | int labels bytes =>
      cases scalar' with
      | int labels' bytes' =>
          obtain ⟨rfl, rfl, rfl, rfl⟩ := labels.unique labels'
          rw [bytes.unique bytes']
  | float spells =>
      cases scalar' with
      | float spells' =>
          obtain ⟨_, _, _, _, labels, bits⟩ := spells
          obtain ⟨_, _, _, _, labels', bits'⟩ := spells'
          obtain ⟨rfl, rfl, rfl, rfl⟩ := labels.unique labels'
          rw [Int.ofNat.inj (bits.trans bits'.symm)]

/-- Stretches of one width can be told apart in the whole. -/
theorem flatten_inj_of_width {width : Nat} (positive : 0 < width) {parts parts' : List (List Nat)}
    (widths : ∀ part ∈ parts, part.length = width)
    (widths' : ∀ part ∈ parts', part.length = width) (equal : parts.flatten = parts'.flatten) :
    parts = parts' := by
  have filled : ∀ {part rest : List Nat}, part.length = width → part ++ rest ≠ [] := by
    intro part rest length empty
    rw [(List.append_eq_nil_iff.mp empty).1] at length
    exact positive.ne length
  induction parts generalizing parts' with
  | nil =>
      cases parts' with
      | nil => rfl
      | cons part' rest' => exact absurd equal.symm (filled (widths' part' List.mem_cons_self))
  | cons part rest ih =>
      cases parts' with
      | nil => exact absurd equal (filled (widths part List.mem_cons_self))
      | cons part' rest' =>
          rw [List.forall_mem_cons] at widths widths'
          obtain ⟨rfl, rests⟩ := List.append_inj equal (widths.1.trans widths'.1.symm)
          rw [ih widths.2 widths'.2 rests]

theorem ValueOf.unique {orders : Orders} {pointType : PointType} {words : List Nat}
    {value value' : Cell} (holds : ValueOf orders pointType words value)
    (holds' : ValueOf orders pointType words value') : value = value' := by
  cases holds with
  | scalar scalar =>
      cases holds' with
      | scalar scalar' => exact scalar.unique scalar'
  | @array base parts values widths elements =>
      generalize flat : parts.flatten = words at holds'
      cases holds' with
      | @array _ parts' values' widths' elements' =>
          obtain rfl := flatten_inj_of_width (PointType.elementWidth_pos ⟨base, true⟩) widths
            widths' flat
          have functional : Relator.RightUnique (ScalarOf orders base) := fun _ _ _ =>
            ScalarOf.unique
          rw [functional.forall₂ elements elements']

/-! ## Windows hold what is decoded from them -/

section

variable (orders : Orders) {base : BaseType} {words : List Nat}

theorem exists_scalarOf (before after : List Cell) (bounded : ∀ word ∈ words, word < 65536)
    (size : words.length = base.reach words.length) :
    ∃ value, decodeScalar (before ++ words.map .ofNat ++ after) before.length base words.length
      orders = .ok value ∧ ScalarOf orders base words value := by
  cases base with
  | bool =>
      obtain ⟨word, rfl⟩ := List.length_eq_one_iff.mp size
      refine ⟨_, Outcome.map_eq_ok.mpr ⟨_, decodeBool_append before after (.ofNat word), rfl⟩, ?_⟩
      have truth : (Cell.ofNat word).truthy = decide (word ≠ 0) := by simp [Cell.ofNat, Cell.truthy]
      rw [truth]
      exact .bool word
  | short =>
      obtain ⟨word, rfl⟩ := List.length_eq_one_iff.mp size
      have bound := bounded word List.mem_cons_self
      have read := decodeShort_append before after word orders.bytes
      rw [maskWord_natCast bound] at read
      refine ⟨_, Outcome.map_eq_ok.mpr ⟨_, read, rfl⟩,
        .short (Int.le_bmod (by decide)) (Int.bmod_lt (by decide)) ?_⟩
      rw [encodeShort_bmod (orderBytes_lt _ bound), orderBytes_orderBytes _ bound]
  | int =>
      obtain ⟨first, second, rfl⟩ := List.length_eq_two.mp size
      obtain ⟨value, a, b, c, d, read, labels, bytes, _⟩ :=
        decodeInt_labelled orders.bytes before after first second
      exact ⟨_, Outcome.map_eq_ok.mpr ⟨value, read, rfl⟩, .int labels bytes⟩
  | float =>
      obtain ⟨first, second, rfl⟩ := List.length_eq_two.mp size
      have read := decodeFloat_eq_ok.mpr
        ⟨_, canonicalPair_append before after first second orders.bytes, rfl⟩
      exact ⟨_, Outcome.map_eq_ok.mpr ⟨_, read, rfl⟩,
        .float (spells_arrange orders.bytes first second)⟩
  | string =>
      have read := decodeString_append before after bounded orders.strings
      exact ⟨_, Outcome.map_eq_ok.mpr ⟨_, read, rfl⟩, .string words⟩

/-- The elements are decoded from their own words, one element after the other. -/
theorem exists_elements {count : Nat} (before after : List Cell)
    (bounded : ∀ word ∈ words, word < 65536)
    (size : words.length = count * PointType.elementWidth ⟨base, true⟩) :
    ∃ parts values, words = parts.flatten ∧
      (∀ part ∈ parts, part.length = PointType.elementWidth ⟨base, true⟩) ∧
      List.Forall₂ (ScalarOf orders base) parts values ∧
      decodeElements (before ++ words.map .ofNat ++ after) base
        (PointType.elementWidth ⟨base, true⟩) orders before.length count = .ok values := by
  induction count generalizing before words with
  | zero =>
      rw [Nat.zero_mul, List.length_eq_zero_iff] at size
      exact ⟨[], [], size, by simp, .nil, rfl⟩
  | succ count ih =>
      rw [Nat.succ_mul, Nat.add_comm] at size
      obtain ⟨part, rest, rfl, width, restSize⟩ : ∃ part rest, words = part ++ rest ∧
          part.length = PointType.elementWidth ⟨base, true⟩ ∧
          rest.length = count * PointType.elementWidth ⟨base, true⟩ :=
        ⟨_, _, (List.take_append_drop (PointType.elementWidth ⟨base, true⟩) words).symm,
          by rw [List.length_take]; omega, by rw [List.length_drop]; omega⟩
      rw [List.forall_mem_append] at bounded
      have partSize : part.length = base.reach part.length := by
        rw [width, PointType.reach_elementWidth ⟨base, true⟩]
      obtain ⟨value, first, scalar⟩ :=
        exists_scalarOf orders before (rest.map .ofNat ++ after) bounded.1 partSize
      obtain ⟨parts, values, flat, widths, elements, others⟩ :=
        ih (before ++ part.map .ofNat) bounded.2 restSize
      rw [List.length_append, List.length_map, width, Int.natCast_add] at others
      rw [width] at first
      refine ⟨part :: parts, value :: values, by rw [List.flatten_cons, flat],
        List.forall_mem_cons.mpr ⟨width, widths⟩, .cons scalar elements, ?_⟩
      simp only [List.map_append, List.append_assoc] at first others ⊢
      refine Outcome.bind_eq_ok.mpr ⟨value, first, ?_⟩
      exact Outcome.bind_eq_ok.mpr ⟨values, others, rfl⟩

/-- A window as long as its type and length ask for holds a value, and this is decoded from it. -/
theorem exists_valueOf {pointType : PointType} {length : Option Int} (before after : List Cell)
    (bounded : ∀ word ∈ words, word < 65536)
    (size : (words.length : Int) = pointType.registerLength length) :
    ∃ value, decodeValue (before ++ words.map .ofNat ++ after) before.length pointType
      (pointType.registerLength length) (pointType.arrayLength length) orders = .ok value ∧
        ValueOf orders pointType words value := by
  obtain ⟨base, isArray⟩ := pointType
  cases isArray with
  | true =>
      have width := PointType.elementWidth_pos ⟨base, true⟩
      have product : (words.length : Int) =
          PointType.arrayLength ⟨base, true⟩ length * PointType.elementWidth ⟨base, true⟩ := size
      have nonneg : 0 ≤ PointType.arrayLength ⟨base, true⟩ length :=
        Int.nonneg_of_mul_nonneg_left (product ▸ Int.natCast_nonneg _) (by exact_mod_cast width)
      obtain ⟨count, counted⟩ := Int.eq_ofNat_of_zero_le nonneg
      have total : words.length = count * PointType.elementWidth ⟨base, true⟩ := by
        rw [counted] at product
        exact_mod_cast product
      obtain ⟨parts, values, rfl, widths, elements, decoded⟩ :=
        exists_elements orders before after bounded total
      refine ⟨.list values, Outcome.map_eq_ok.mpr ⟨values, ?_, rfl⟩, .array widths elements⟩
      rw [counted]
      exact decoded
  | false =>
      have fits : words.length = base.reach words.length := by
        cases base with
        | string => rfl
        | bool | short | int | float => exact Int.ofNat.inj size
      obtain ⟨value, decoded, scalar⟩ := exists_scalarOf orders before after bounded fits
      refine ⟨value, ?_, .scalar scalar⟩
      rw [← size]
      exact decoded

end

/-! ## Values stand in windows -/

/-- A type that asks for at least one cell has a value only where all that it asks for lies inside
the reading. -/
theorem inside_of_decodeValue {data : List Cell} {offset : Int} {pointType : PointType}
    {length : Option Int} {orders : Orders} {value : Cell} (serves : Serves data pointType.base)
    (positive : 1 ≤ pointType.registerLength length)
    (decoded : decodeValue data offset pointType (pointType.registerLength length)
      (pointType.arrayLength length) orders = .ok value) :
    0 ≤ offset ∧ offset + pointType.registerLength length ≤ data.length := by
  let tag : Tag := ⟨"", "", 0, (pointType.registerLength length).toNat, pointType,
    pointType.arrayLength length, by omega⟩
  have registers : (tag.registerLength : Int) = pointType.registerLength length :=
    Int.toNat_of_nonneg (by omega)
  have exactTag : tag.Exact := Tag.exact_of_lengths registers rfl
  have decodedTag : decodeTag tag data offset orders = .ok value := by
    rw [decodeTag, registers]
    exact decoded
  have inside := inside_of_decodeTag exactTag serves decodedTag
  rwa [Inside, registers] at inside

/-- A window of at least one word starts at an offset and lies inside the words. -/
structure WindowAt (words : List Nat) (offset size : Int) (window : List Nat) : Prop where
  positive : 1 ≤ size
  length_eq : (window.length : Int) = size
  placed : ∃ before after, words = before ++ window ++ after ∧ (before.length : Int) = offset

theorem exists_windowAt {words : List Nat} {offset size : Int} (positive : 1 ≤ size)
    (nonneg : 0 ≤ offset) (fits : offset + size ≤ words.length) :
    ∃ window, WindowAt words offset size window := by
  refine ⟨(words.drop offset.toNat).take size.toNat, positive, ?_, words.take offset.toNat,
    (words.drop offset.toNat).drop size.toNat, ?_, ?_⟩
  · rw [List.length_take, List.length_drop]
    omega
  · rw [List.append_assoc, List.take_append_drop, List.take_append_drop]
  · rw [List.length_take]
    omega

section

variable {words : List Nat} {offset : Int} {pointType : PointType} {length : Option Int}
  {orders : Orders} {value : Cell}

theorem serves_words (words : List Nat) (base : BaseType) : Serves (words.map .ofNat) base := by
  apply serves_of_integers
  intro _ cell member
  obtain ⟨word, _, rfl⟩ := List.mem_map.mp member
  exact ⟨word, rfl⟩

theorem WindowAt.exists_decodeValue {window : List Nat}
    (placed : WindowAt words offset (pointType.registerLength length) window)
    (bounded : ∀ word ∈ words, word < 65536) (orders : Orders) :
    ∃ value, decodeValue (words.map .ofNat) offset pointType (pointType.registerLength length)
      (pointType.arrayLength length) orders = .ok value ∧
        ValueOf orders pointType window value := by
  obtain ⟨_, size, before, after, rfl, rfl⟩ := placed
  rw [List.forall_mem_append, List.forall_mem_append] at bounded
  rw [List.map_append, List.map_append, ← List.length_map (f := Cell.ofNat)]
  exact exists_valueOf orders (before.map .ofNat) (after.map .ofNat) bounded.1.2 size

/-- Where a type asks for at least one word, its value is that of the window at the offset, and
there is none without such a window. -/
theorem decodeValue_eq_ok_iff_window (bounded : ∀ word ∈ words, word < 65536)
    (positive : 1 ≤ pointType.registerLength length) :
    decodeValue (words.map .ofNat) offset pointType (pointType.registerLength length)
        (pointType.arrayLength length) orders = .ok value ↔
      ∃ window, WindowAt words offset (pointType.registerLength length) window ∧
        ValueOf orders pointType window value := by
  constructor
  · intro decoded
    obtain ⟨nonneg, fits⟩ := inside_of_decodeValue (serves_words words _) positive decoded
    rw [List.length_map] at fits
    obtain ⟨window, placed⟩ := exists_windowAt positive nonneg fits
    obtain ⟨other, decoded', holds⟩ := placed.exists_decodeValue bounded orders
    rw [decoded] at decoded'
    exact ⟨window, placed, Except.ok.inj decoded' ▸ holds⟩
  · rintro ⟨window, placed, holds⟩
    obtain ⟨other, decoded, holds'⟩ := placed.exists_decodeValue bounded orders
    rw [decoded, holds.unique holds']

/-! ## Lengths below zero -/

/-- What is decoded for a length below zero: no element of an array, and the text of those words
of a string that stand from the offset up to an end before it. An end below zero counts from the
end of the words. -/
inductive StrayValue (orders : Orders) (words : List Nat) (offset : Int) :
    Option Int → PointType → Cell → Prop
  | array {given : Int} (negative : given < 0) (base : BaseType) :
      StrayValue orders words offset (some given) ⟨base, true⟩ (.list [])
  | emptied {given : Int} (negative : given < 0) (nonneg : 0 ≤ offset + given)
      (fits : offset + given ≤ words.length) :
      StrayValue orders words offset (some given) ⟨.string, false⟩ (.text "")
  | cut {given : Int} (nonneg : 0 ≤ offset) (below : offset + given < 0) :
      StrayValue orders words offset (some given) ⟨.string, false⟩
        (.text (textOfWords orders.strings
          ((words.take (offset + given + words.length).toNat).drop offset.toNat)))

theorem StrayValue.registerLength_lt
    (stray : StrayValue orders words offset length pointType value) :
    pointType.registerLength length < 1 := by
  cases stray with
  | array negative base =>
      have width : (0 : Int) < PointType.elementWidth ⟨base, true⟩ := by
        exact_mod_cast PointType.elementWidth_pos ⟨base, true⟩
      simp only [PointType.registerLength, PointType.arrayLength, PointType.lengthOr, if_true,
        if_neg negative.ne]
      exact (Int.mul_neg_of_neg_of_pos negative width).trans Int.one_pos
  | emptied negative | cut nonneg below =>
      simp only [PointType.registerLength, PointType.lengthOr, Bool.false_eq_true, if_false,
        if_true]
      split <;> omega

theorem decodeString_words (bounded : ∀ word ∈ words, word < 65536) (order : StringOrder)
    {given stop : Int} (nonneg : 0 ≤ offset) (fits : offset + given ≤ words.length)
    (stops : (if offset + given < 0 then offset + given + words.length else offset + given) =
      stop) :
    decodeString (words.map .ofNat) offset given order =
      .ok (textOfWords order ((words.take stop.toNat).drop offset.toNat)) := by
  have inside : requireWindow (words.map .ofNat) offset given = .ok () :=
    requireWindow_eq_ok_iff.mpr ⟨nonneg, by rwa [List.length_map]⟩
  have kept : segment (words.map .ofNat) offset (offset + given) =
      ((words.take stop.toNat).drop offset.toNat).map .ofNat := by
    rw [segment, List.length_map, stops, List.map_drop, List.map_take]
  refine Outcome.bind_eq_ok.mpr ⟨(), inside, Outcome.bind_eq_ok.mpr ⟨_, ?_, rfl⟩⟩
  rw [kept]
  apply mapM_wordOf_ofNat
  intro word member
  exact bounded word (List.mem_of_mem_take (List.mem_of_mem_drop member))

theorem decodeValue_string_of_neg {given : Int} (negative : given < 0) :
    decodeValue (words.map .ofNat) offset ⟨.string, false⟩
        (PointType.registerLength ⟨.string, false⟩ (some given))
        (PointType.arrayLength ⟨.string, false⟩ (some given)) orders =
      (decodeString (words.map .ofNat) offset given orders.strings).map .text := by
  have size : PointType.registerLength ⟨.string, false⟩ (some given) = given := if_neg negative.ne
  rw [size]
  rfl

theorem StrayValue.decodeValue_eq_ok (bounded : ∀ word ∈ words, word < 65536)
    (stray : StrayValue orders words offset length pointType value) :
    decodeValue (words.map .ofNat) offset pointType (pointType.registerLength length)
      (pointType.arrayLength length) orders = .ok value := by
  cases stray with
  | @array given negative base =>
      have none : (PointType.arrayLength ⟨base, true⟩ (some given)).toNat = 0 := by
        simp only [PointType.arrayLength, PointType.lengthOr, if_true, if_neg negative.ne]
        omega
      rw [decodeValue, if_pos rfl, none]
      rfl
  | @emptied given negative nonneg fits =>
      have text := decodeString_words bounded orders.strings (by omega) fits
        (if_neg nonneg.not_gt)
      have empty : (words.take (offset + given).toNat).drop offset.toNat = [] :=
        List.drop_eq_nil_of_le (by rw [List.length_take]; omega)
      rw [decodeValue_string_of_neg negative, text, empty]
      rfl
  | @cut given nonneg below =>
      have text := decodeString_words bounded orders.strings nonneg (by omega) (if_pos below)
      rw [decodeValue_string_of_neg (by omega), text]
      rfl

theorem strayValue_of_decodeValue (bounded : ∀ word ∈ words, word < 65536)
    (short : pointType.registerLength length < 1)
    (decoded : decodeValue (words.map .ofNat) offset pointType (pointType.registerLength length)
      (pointType.arrayLength length) orders = .ok value) :
    StrayValue orders words offset length pointType value := by
  obtain ⟨given, rfl, negative⟩ : ∃ given, length = some given ∧ given < 0 := by
    by_contra none
    push Not at none
    exact short.not_ge (PointType.registerLength_pos none)
  suffices ∃ other, StrayValue orders words offset (some given) pointType other by
    obtain ⟨other, stray⟩ := this
    rw [stray.decodeValue_eq_ok bounded] at decoded
    exact Except.ok.inj decoded ▸ stray
  obtain ⟨base, isArray⟩ := pointType
  cases isArray with
  | true => exact ⟨_, .array negative base⟩
  | false =>
      cases base with
      | bool | short | int | float =>
          simp [PointType.registerLength, PointType.elementWidth] at short
      | string =>
          rw [decodeValue_string_of_neg negative, Outcome.map_eq_ok] at decoded
          obtain ⟨text, decoded, -⟩ := decoded
          obtain ⟨_, inside, -⟩ := Outcome.bind_eq_ok.mp decoded
          obtain ⟨nonneg, fits⟩ := requireWindow_eq_ok_iff.mp inside
          rw [List.length_map] at fits
          by_cases below : offset + given < 0
          · exact ⟨_, .cut nonneg below⟩
          · exact ⟨_, .emptied negative (by omega) fits⟩

/-- Words decode to the value of a window, and for a length below zero to a stray one. -/
theorem decodeValue_eq_ok_iff (bounded : ∀ word ∈ words, word < 65536) :
    decodeValue (words.map .ofNat) offset pointType (pointType.registerLength length)
        (pointType.arrayLength length) orders = .ok value ↔
      (∃ window, WindowAt words offset (pointType.registerLength length) window ∧
        ValueOf orders pointType window value) ∨
      StrayValue orders words offset length pointType value := by
  constructor
  · intro decoded
    by_cases positive : 1 ≤ pointType.registerLength length
    · exact .inl ((decodeValue_eq_ok_iff_window bounded positive).mp decoded)
    · exact .inr (strayValue_of_decodeValue bounded (by omega) decoded)
  · rintro (⟨window, placed, holds⟩ | stray)
    · exact (decodeValue_eq_ok_iff_window bounded placed.positive).mpr ⟨window, placed, holds⟩
    · exact stray.decodeValue_eq_ok bounded

end

end PointTable.Codec
