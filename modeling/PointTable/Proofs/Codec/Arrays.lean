import PointTable.Proofs.Codec.Strings

/-!
# Arrays in readings

An array is read element by element, one element width apart, while each element is written by the
encoder of its base type. The encoders write just one element width, so elements written one after
the other are read back in order, wherever they stand and whatever register length comes with them.
-/

namespace PointTable.Codec

theorem decodeBool_append (before after : List Cell) (cell : Cell) :
    decodeBool (before ++ [cell] ++ after) before.length = .ok cell.truthy :=
  ((sameWindow_append before [cell] after).alike .bool).decodeBool_eq

/-- A value that an array of a base type can hold and that has an encoding of its own. -/
inductive Element : BaseType → Type
  | bit (value : Bool) : Element .bool
  | short (value : Int) (lower : -2 ^ 15 ≤ value) (upper : value < 2 ^ 15) : Element .short
  | int (value : Int) (lower : -2 ^ 31 ≤ value) (upper : value < 2 ^ 31) : Element .int
  /-- Two ASCII characters or fewer, the last of them no NUL. -/
  | text (value : String) (ascii : ∀ c ∈ value.toList, c.toNat < 128) (fits : value.length ≤ 2)
      (bare : value.toList.getLast? ≠ some '\x00') : Element .string

namespace Element

variable {base : BaseType}

/-- The element as it is decoded. -/
def cell : Element base → Cell
  | bit value => .bool value
  | short value _ _ => .int value
  | int value _ _ => .int value
  | text value _ _ _ => .text value

/-- The cells that an element is encoded by: a bit stands for itself, and a text has one
register. -/
def encode (orders : Orders) : Element base → Except EncodeFault (List Cell)
  | bit value => .ok [.bool value]
  | short value _ _ => .ok ((encodeShort value orders.bytes).map .ofNat)
  | int value _ _ => (encodeInt value orders.bytes).map (List.map .ofNat)
  | text value _ _ _ => (encodeString value 1 orders.strings).map (List.map .ofNat)

/-- The code of an element is as wide as elements of its type are apart, and holds the element
wherever it stands. -/
structure Coded (orders : Orders) (element : Element base) (code : List Cell) : Prop where
  encoded : element.encode orders = .ok code
  width : code.length = PointType.elementWidth ⟨base, true⟩
  decoded : ∀ before after : List Cell,
    decodeScalar (before ++ code ++ after) before.length base (PointType.elementWidth ⟨base, true⟩)
      orders = .ok element.cell

theorem exists_coded (orders : Orders) (element : Element base) :
    ∃ code, element.Coded orders code := by
  cases element with
  | bit value =>
      refine ⟨[.bool value], rfl, rfl, fun before after => ?_⟩
      exact Outcome.map_eq_ok.mpr ⟨value, decodeBool_append before after (.bool value), rfl⟩
  | short value lower upper =>
      refine ⟨_, rfl, rfl, fun before after => ?_⟩
      have read := decodeShort_encodeShort before after value orders.bytes
      rw [Int.bmod_eq_of_le lower upper] at read
      exact Outcome.map_eq_ok.mpr ⟨value, read, rfl⟩
  | int value lower upper =>
      obtain ⟨first, second, written, _, _, read⟩ := decodeInt_encodeInt orders.bytes lower upper
      refine ⟨_, Outcome.map_eq_ok.mpr ⟨_, written, rfl⟩, rfl, fun before after => ?_⟩
      exact Outcome.map_eq_ok.mpr ⟨value, read before after, rfl⟩
  | text value ascii fits bare =>
      obtain ⟨words, written, counted, bounded, framed⟩ := encodeString_eq_ok value 1 orders.strings
      refine ⟨_, Outcome.map_eq_ok.mpr ⟨_, written, rfl⟩, ?_, fun before after => ?_⟩
      · rw [List.length_map, counted]
        rfl
      · have read := decodeString_append before after bounded orders.strings
        rw [counted, textOfWords_framed framed, keptText_eq_self ascii fits bare] at read
        exact Outcome.map_eq_ok.mpr ⟨value, read, rfl⟩

theorem decodeElements_codes {orders : Orders} {elements : List (Element base)}
    {codes : List (List Cell)} (coded : List.Forall₂ (Coded orders) elements codes)
    (before after : List Cell) :
    decodeElements (before ++ codes.flatten ++ after) base (PointType.elementWidth ⟨base, true⟩)
      orders before.length elements.length = .ok (elements.map cell) := by
  induction coded generalizing before with
  | nil => rfl
  | @cons element code elements codes first _ ih =>
      have here := first.decoded before (codes.flatten ++ after)
      have others := ih (before ++ code)
      rw [List.length_append, first.width, Int.natCast_add] at others
      simp only [List.flatten_cons, List.append_assoc] at here others ⊢
      refine Outcome.bind_eq_ok.mpr ⟨element.cell, here, ?_⟩
      exact Outcome.bind_eq_ok.mpr ⟨_, others, rfl⟩

end Element

/-- The elements of an array, encoded one after the other anywhere in a reading, are the value of
the array there, whatever register length it is given. -/
theorem decodeValue_encoded {base : BaseType} (elements : List (Element base))
    (before after : List Cell) (registerLength : Int) (orders : Orders) :
    ∃ codes, elements.mapM (Element.encode orders) = .ok codes ∧
      decodeValue (before ++ codes.flatten ++ after) before.length ⟨base, true⟩ registerLength
        elements.length orders = .ok (.list (elements.map Element.cell)) := by
  obtain ⟨codes, coded⟩ := Outcome.exists_forall₂ fun element (_ : element ∈ elements) =>
    element.exists_coded orders
  refine ⟨codes, Outcome.mapM_eq_ok.mpr (coded.imp fun _ _ code => code.encoded), ?_⟩
  exact Outcome.map_eq_ok.mpr ⟨_, Element.decodeElements_codes coded before after, rfl⟩

example :
    decodeValue [.null, .int 0x4241, .int 0x10043, .int 9] 1 ⟨.string, true⟩ 7 2 ⟨.abcd, .badc⟩ =
      .ok (.list [.text "AB", .text "C"]) := by
  rfl

end PointTable.Codec
