import PointTable.Block
import PointTable.Proofs.Footprint
import PointTable.Proofs.Outcome

/-!
# Windows of a reading

Decoding a tag looks at one window of a reading and at nothing else. Of the cells in it, truth
values see only whether they are true and all other types see only the words. So two windows that
are alike to a type give the same value, wherever they lie in their readings. A window that lies
inside a reading of words, or of coils for truth values, always has a value.
-/

namespace PointTable.Codec

theorem offset_succ (offset : Int) (width index : Nat) :
    offset + width + width * index = offset + width * ((index + 1 : Nat) : Int) := by
  rw [Int.natCast_add, Int.mul_add]
  omega

/-! ## Equal windows -/

/-- Two readings hold the same cells in a window of either of them. -/
structure SameWindow (left : List Cell) (leftOffset : Nat) (right : List Cell) (rightOffset : Nat)
    (count : Nat) : Prop where
  fits_left : leftOffset + count ≤ left.length
  fits_right : rightOffset + count ≤ right.length
  cells : ∀ index < count, left[leftOffset + index]? = right[rightOffset + index]?

/-- A segment holds a window of its reading at the distance from its start. -/
theorem sameWindow_segment {data : List Cell} {start stop offset count : Nat}
    (inside : stop ≤ data.length) (fits : start + offset + count ≤ stop) :
    SameWindow (segment data start stop) offset data (start + offset) count := by
  refine ⟨?_, by omega, fun index bound => ?_⟩
  · rw [length_segment inside]
    omega
  · rw [getElem?_segment (by omega), Nat.add_assoc]

theorem sameWindow_append (before window after : List Cell) :
    SameWindow (before ++ window ++ after) before.length window 0 window.length := by
  refine ⟨by simp, by simp, fun index inside => ?_⟩
  rw [List.append_assoc, List.getElem?_append_right (Nat.le_add_right _ _), Nat.add_sub_cancel_left,
    List.getElem?_append_left inside, Nat.zero_add]

/-! ## Alike windows -/

/-- Two cells say the same to a base type. -/
def Alike (base : BaseType) (left right : Cell) : Prop :=
  match base with
  | .bool => left.truthy = right.truthy
  | .short | .int | .float | .string => wordOf left = wordOf right

theorem Alike.refl (base : BaseType) (cell : Cell) : Alike base cell cell := by
  cases base <;> rfl

theorem alike_iff_of_ne_bool {base : BaseType} (notBool : base ≠ .bool) {left right : Cell} :
    Alike base left right ↔ wordOf left = wordOf right := by
  cases base with
  | bool => exact absurd rfl notBool
  | short | int | float | string => exact Iff.rfl

/-- Two readings hold cells that say the same to a base type in a window of either of them. -/
structure AlikeWindow (base : BaseType) (left : List Cell) (leftOffset : Nat) (right : List Cell)
    (rightOffset : Nat) (count : Nat) : Prop where
  fits_left : leftOffset + count ≤ left.length
  fits_right : rightOffset + count ≤ right.length
  cells : ∀ index < count, ∃ first second, left[leftOffset + index]? = some first ∧
    right[rightOffset + index]? = some second ∧ Alike base first second

theorem SameWindow.alike {left right : List Cell} {leftOffset rightOffset count : Nat}
    (same : SameWindow left leftOffset right rightOffset count) (base : BaseType) :
    AlikeWindow base left leftOffset right rightOffset count := by
  refine ⟨same.fits_left, same.fits_right, fun index inside => ?_⟩
  have present : rightOffset + index < right.length := by
    have fits := same.fits_right
    omega
  have cell := List.getElem?_eq_getElem present
  exact ⟨_, _, (same.cells index inside).trans cell, cell, Alike.refl base _⟩

namespace AlikeWindow

variable {base : BaseType} {left right : List Cell} {leftOffset rightOffset count : Nat}

theorem first (alike : AlikeWindow base left leftOffset right rightOffset count) {part : Nat}
    (bound : part ≤ count) : AlikeWindow base left leftOffset right rightOffset part := by
  have fitsLeft := alike.fits_left
  have fitsRight := alike.fits_right
  exact ⟨by omega, by omega, fun index inside => alike.cells index (by omega)⟩

theorem rest {part : Nat}
    (alike : AlikeWindow base left leftOffset right rightOffset (part + count)) :
    AlikeWindow base left (leftOffset + part) right (rightOffset + part) count := by
  have fitsLeft := alike.fits_left
  have fitsRight := alike.fits_right
  refine ⟨by omega, by omega, fun index inside => ?_⟩
  rw [Nat.add_assoc, Nat.add_assoc]
  exact alike.cells (part + index) (by omega)

theorem wordAt_eq (alike : AlikeWindow base left leftOffset right rightOffset count)
    (notBool : base ≠ .bool) (index : Nat) (inside : index < count) :
    wordAt left (leftOffset + index) = wordAt right (rightOffset + index) := by
  obtain ⟨first, second, atLeft, atRight, word⟩ := alike.cells index inside
  unfold wordAt
  rw [atLeft, atRight]
  exact (alike_iff_of_ne_bool notBool).mp word

theorem words_eq (alike : AlikeWindow base left leftOffset right rightOffset count)
    (notBool : base ≠ .bool) :
    (segment left leftOffset (leftOffset + count : Nat)).mapM wordOf =
      (segment right rightOffset (rightOffset + count : Nat)).mapM wordOf := by
  have lengthLeft : (segment left leftOffset (leftOffset + count : Nat)).length = _ :=
    length_segment alike.fits_left
  have lengthRight : (segment right rightOffset (rightOffset + count : Nat)).length = _ :=
    length_segment alike.fits_right
  apply Outcome.mapM_congr
  rw [List.forall₂_iff_get]
  refine ⟨by omega, fun index inLeft inRight => ?_⟩
  have inside : index < count := by omega
  obtain ⟨first, second, atLeft, atRight, word⟩ := alike.cells index inside
  rw [← getElem?_segment (Nat.add_lt_add_left inside leftOffset)] at atLeft
  rw [← getElem?_segment (Nat.add_lt_add_left inside rightOffset)] at atRight
  obtain ⟨_, rfl⟩ := List.getElem?_eq_some_iff.mp atLeft
  obtain ⟨_, rfl⟩ := List.getElem?_eq_some_iff.mp atRight
  exact (alike_iff_of_ne_bool notBool).mp word

end AlikeWindow

/-! ## Values depend on what they see of their window -/

theorem requireWindow_eq_ok {data : List Cell} {offset : Nat} {needed : Int}
    (fits : offset + needed ≤ data.length) : requireWindow data offset needed = .ok () :=
  requireWindow_eq_ok_iff.mpr ⟨Int.natCast_nonneg offset, fits⟩

namespace AlikeWindow

variable {base : BaseType} {left right : List Cell} {leftOffset rightOffset count : Nat}

theorem canonicalPair_eq (alike : AlikeWindow base left leftOffset right rightOffset 2)
    (notBool : base ≠ .bool) (order : ByteOrder) :
    canonicalPair left leftOffset order = canonicalPair right rightOffset order := by
  have fitsLeft := alike.fits_left
  have fitsRight := alike.fits_right
  have high := alike.wordAt_eq notBool 0 (by decide)
  have low := alike.wordAt_eq notBool 1 (by decide)
  simp only [canonicalPair, Int.toNat_natCast]
  rw [requireWindow_eq_ok (by omega), requireWindow_eq_ok (by omega), ← low]
  simp only [Nat.add_zero] at high
  rw [high]

theorem decodeShort_eq (alike : AlikeWindow base left leftOffset right rightOffset 1)
    (notBool : base ≠ .bool) (order : ByteOrder) :
    decodeShort left leftOffset order = decodeShort right rightOffset order := by
  have fitsLeft := alike.fits_left
  have fitsRight := alike.fits_right
  have word := alike.wordAt_eq notBool 0 Nat.one_pos
  simp only [Nat.add_zero] at word
  simp only [decodeShort, Int.toNat_natCast, word]
  rw [requireWindow_eq_ok (by omega), requireWindow_eq_ok (by omega)]

theorem decodeString_eq (alike : AlikeWindow base left leftOffset right rightOffset count)
    (notBool : base ≠ .bool) (order : StringOrder) :
    decodeString left leftOffset count order = decodeString right rightOffset count order := by
  have fitsLeft := alike.fits_left
  have fitsRight := alike.fits_right
  have words := alike.words_eq notBool
  simp only [Int.natCast_add] at words
  simp only [decodeString, words]
  rw [requireWindow_eq_ok (by omega), requireWindow_eq_ok (by omega)]

theorem decodeBool_eq (alike : AlikeWindow .bool left leftOffset right rightOffset 1) :
    decodeBool left leftOffset = decodeBool right rightOffset := by
  have fitsLeft := alike.fits_left
  have fitsRight := alike.fits_right
  obtain ⟨first, second, atLeft, atRight, truth⟩ := alike.cells 0 Nat.one_pos
  simp only [Nat.add_zero] at atLeft atRight
  simp only [decodeBool, Int.toNat_natCast, atLeft, atRight]
  rw [requireWindow_eq_ok (by omega), requireWindow_eq_ok (by omega),
    show first.truthy = second.truthy from truth]

theorem decodeScalar_eq {registerLength : Nat}
    (alike : AlikeWindow base left leftOffset right rightOffset (base.reach registerLength))
    (orders : Orders) :
    decodeScalar left leftOffset base registerLength orders =
      decodeScalar right rightOffset base registerLength orders := by
  cases base with
  | bool => exact congrArg (Except.map Cell.bool) alike.decodeBool_eq
  | short => exact congrArg (Except.map Cell.int) (alike.decodeShort_eq (by decide) orders.bytes)
  | int => simp only [decodeScalar, decodeInt, alike.canonicalPair_eq (by decide) orders.bytes]
  | float => simp only [decodeScalar, decodeFloat, alike.canonicalPair_eq (by decide) orders.bytes]
  | string =>
      exact congrArg (Except.map Cell.text) (alike.decodeString_eq (by decide) orders.strings)

/-- Alike windows hold equal elements: the first lies in front, the others in what is left. -/
theorem decodeElements_eq {pointType : PointType}
    (alike : AlikeWindow pointType.base left leftOffset right rightOffset
      (count * pointType.elementWidth)) (orders : Orders) :
    decodeElements left pointType.base pointType.elementWidth orders leftOffset count =
      decodeElements right pointType.base pointType.elementWidth orders rightOffset count := by
  induction count generalizing leftOffset rightOffset with
  | zero => rfl
  | succ count ih =>
      rw [Nat.succ_mul, Nat.add_comm] at alike
      have element := alike.first (Nat.le_add_right pointType.elementWidth _)
      rw [← pointType.reach_elementWidth] at element
      have others := ih alike.rest
      simp only [Int.natCast_add] at others
      simp only [decodeElements, element.decodeScalar_eq orders, others]

theorem decodeTag_eq {tag : Tag}
    (alike : AlikeWindow tag.pointType.base left leftOffset right rightOffset tag.reach)
    (orders : Orders) :
    decodeTag tag left leftOffset orders = decodeTag tag right rightOffset orders := by
  unfold Tag.reach at alike
  unfold decodeTag decodeValue
  split at alike
  · next array =>
      rw [if_pos array, if_pos array, alike.decodeElements_eq orders]
  · next scalar =>
      rw [if_neg scalar, if_neg scalar, alike.decodeScalar_eq orders]

end AlikeWindow

theorem SameWindow.decodeTag_eq {left right : List Cell} {leftOffset rightOffset : Nat} {tag : Tag}
    (same : SameWindow left leftOffset right rightOffset tag.reach) (orders : Orders) :
    decodeTag tag left leftOffset orders = decodeTag tag right rightOffset orders :=
  (same.alike tag.pointType.base).decodeTag_eq orders

/-! ## Windows of words and coils have values -/

/-- A reading serves a base type: truth values are read from any cells, the other types from
words. -/
def Serves (data : List Cell) (base : BaseType) : Prop :=
  base ≠ .bool → ∀ cell ∈ data, ∃ word, wordOf cell = .ok word

section

variable {data : List Cell} {offset : Nat}

theorem serves_of_integers {base : BaseType}
    (integers : base ≠ .bool → ∀ cell ∈ data, ∃ word, cell.integer? = some word) :
    Serves data base := by
  intro notBool cell member
  obtain ⟨word, read⟩ := integers notBool cell member
  exact ⟨maskWord word, by rw [wordOf, read]⟩

theorem wordAt_ok (words : ∀ cell ∈ data, ∃ word, wordOf cell = .ok word) {index : Nat}
    (inside : index < data.length) : ∃ word, wordAt data index = .ok word := by
  unfold wordAt
  rw [List.getElem?_eq_getElem inside]
  exact words _ (List.getElem_mem inside)

theorem canonicalPair_ok (words : ∀ cell ∈ data, ∃ word, wordOf cell = .ok word)
    (fits : offset + 2 ≤ data.length) (order : ByteOrder) :
    ∃ pair, canonicalPair data offset order = .ok pair := by
  obtain ⟨high, first⟩ := wordAt_ok words (by omega : offset < data.length)
  obtain ⟨low, second⟩ := wordAt_ok words (by omega : offset + 1 < data.length)
  simp only [canonicalPair, Int.toNat_natCast, first, second]
  rw [requireWindow_eq_ok (by omega)]
  exact ⟨_, rfl⟩

theorem decodeScalar_ok {base : BaseType} {registerLength : Nat} (serves : Serves data base)
    (fits : offset + base.reach registerLength ≤ data.length) (orders : Orders) :
    ∃ value, decodeScalar data offset base registerLength orders = .ok value := by
  cases base with
  | bool =>
      simp only [BaseType.reach] at fits
      simp only [decodeScalar, decodeBool]
      rw [requireWindow_eq_ok (by omega)]
      exact ⟨_, rfl⟩
  | short =>
      simp only [BaseType.reach] at fits
      obtain ⟨word, read⟩ := wordAt_ok (serves (by decide)) (by omega : offset < data.length)
      simp only [decodeScalar, decodeShort, Int.toNat_natCast, read]
      rw [requireWindow_eq_ok (by omega)]
      exact ⟨_, rfl⟩
  | int =>
      obtain ⟨pair, read⟩ := canonicalPair_ok (serves (by decide)) fits orders.bytes
      simp only [decodeScalar, decodeInt, read]
      exact ⟨_, rfl⟩
  | float =>
      obtain ⟨pair, read⟩ := canonicalPair_ok (serves (by decide)) fits orders.bytes
      simp only [decodeScalar, decodeFloat, read]
      exact ⟨_, rfl⟩
  | string =>
      simp only [BaseType.reach] at fits
      obtain ⟨words, read⟩ : ∃ words,
          (segment data offset (offset + registerLength : Nat)).mapM wordOf = .ok words := by
        apply Outcome.mapM_ok_of_forall
        intro cell member
        rw [segment_natCast] at member
        exact serves (by decide) cell (List.mem_of_mem_take (List.mem_of_mem_drop member))
      simp only [Int.natCast_add] at read
      simp only [decodeScalar, decodeString, read]
      rw [requireWindow_eq_ok (by omega)]
      exact ⟨_, rfl⟩

theorem decodeElements_ok {pointType : PointType} {count : Nat}
    (serves : Serves data pointType.base)
    (fits : offset + count * pointType.elementWidth ≤ data.length) (orders : Orders) :
    ∃ values, decodeElements data pointType.base pointType.elementWidth orders offset count =
      .ok values := by
  induction count generalizing offset with
  | zero => exact ⟨[], rfl⟩
  | succ count ih =>
      rw [Nat.succ_mul] at fits
      have here : offset + pointType.base.reach pointType.elementWidth ≤ data.length := by
        rw [pointType.reach_elementWidth]
        omega
      obtain ⟨element, first⟩ := decodeScalar_ok serves here orders
      obtain ⟨values, others⟩ := ih (by omega : offset + pointType.elementWidth + _ ≤ _)
      simp only [Int.natCast_add] at others
      simp only [decodeElements, first, others]
      exact ⟨_, rfl⟩

theorem decodeTag_ok {tag : Tag} (serves : Serves data tag.pointType.base)
    (fits : offset + tag.reach ≤ data.length) (orders : Orders) :
    ∃ value, decodeTag tag data offset orders = .ok value := by
  unfold Tag.reach at fits
  unfold decodeTag decodeValue
  split
  · next array =>
      rw [if_pos array] at fits
      obtain ⟨values, decoded⟩ := decodeElements_ok serves fits orders
      exact ⟨.list values, by rw [decoded]; rfl⟩
  · next scalar =>
      rw [if_neg scalar] at fits
      exact decodeScalar_ok serves fits orders

end

end PointTable.Codec
