import PointTable.Proofs.Codec.Window
import PointTable.Proofs.Number.Integer
import PointTable.Proofs.Units

/-!
# The extent of a value

What a point occupies is settled by its type and length; what decoding it reads is settled by the
decoder, element by element. Both are the same stretch: a tag of a point has a value exactly where
the whole of it lies inside the reading, and elsewhere the fault names the first element that does
not, if the numbers it tells can be written. The value is that of the stretch alone, and words count
modulo `65536` in it.
-/

namespace PointTable

/-- The registers or coils that each element of a tag occupies; a scalar is its only element. -/
def Tag.elementReach (tag : Tag) : Nat :=
  if tag.pointType.isArray then tag.pointType.elementWidth else tag.registerLength

/-- The number of elements of a tag. -/
def Tag.elementCount (tag : Tag) : Nat :=
  if tag.pointType.isArray then tag.arrayLength.toNat else 1

namespace Codec

open Number

theorem DecodeFault.ofWindow_eq (offset needed : Int) (available : Nat) :
    DecodeFault.ofWindow offset needed available =
      if offset.natAbs < 10 ^ digitLimit ∧ needed.natAbs < 10 ^ digitLimit ∧
          available < 10 ^ digitLimit then .window offset needed available
      else .digits .tooManyDigits := by
  have writable : [offset, needed, (available : Int)].all isWritable = true ↔
      offset.natAbs < 10 ^ digitLimit ∧ needed.natAbs < 10 ^ digitLimit ∧
        available < 10 ^ digitLimit := by
    simp [isWritable_iff]
  rw [ofWindow, telling]
  split
  · next told =>
      obtain ⟨all, rfl⟩ := ifWritable_eq_ok.mp told
      rw [if_pos (writable.mp all)]
  · next untold =>
      obtain ⟨some, rfl⟩ := ifWritable_eq_error.mp untold
      rw [if_neg]
      simp [← writable, some]

/-- A stretch lies inside a reading. -/
def Inside (data : List Cell) (offset : Int) (count : Nat) : Prop :=
  0 ≤ offset ∧ offset + count ≤ data.length

/-- Of `count` stretches of one width, end to end, the one at a place is the first that does not
lie inside a reading. -/
def FirstOutside (data : List Cell) (offset : Int) (width count : Nat) (place : Int) : Prop :=
  ∃ index < count, place = offset + width * index ∧ ¬Inside data place width ∧
    ∀ earlier < index, Inside data (offset + width * earlier) width

variable {data : List Cell} {offset : Int} {width count : Nat}

/-! ## Stretches end to end -/

theorem Inside.exists_nat (inside : Inside data offset count) :
    ∃ start : Nat, offset = start ∧ start + count ≤ data.length := by
  obtain ⟨nonneg, fits⟩ := inside
  exact ⟨offset.toNat, by omega, by omega⟩

theorem Inside.append (inside : Inside data offset width)
    (rest : Inside data (offset + width) count) : Inside data offset (width + count) := by
  refine ⟨inside.1, ?_⟩
  have stop := rest.2
  rw [Int.natCast_add]
  omega

theorem firstOutside_here (outside : ¬Inside data offset width) :
    FirstOutside data offset width (count + 1) offset :=
  ⟨0, Nat.succ_pos count, by simp, outside, fun earlier before => absurd before (by omega)⟩

theorem FirstOutside.later {place : Int} (inside : Inside data offset width)
    (first : FirstOutside data (offset + width) width count place) :
    FirstOutside data offset width (count + 1) place := by
  obtain ⟨index, bound, placed, outside, before⟩ := first
  refine ⟨index + 1, by omega, by rw [placed, offset_succ], outside, fun earlier bound => ?_⟩
  cases earlier with
  | zero => simpa using inside
  | succ earlier =>
      rw [← offset_succ]
      exact before earlier (by omega)

/-! ## Faults name what does not fit -/

theorem requireWindow_eq_error (outside : ¬Inside data offset count) :
    requireWindow data offset count = .error (.ofWindow offset count data.length) := by
  unfold requireWindow
  rw [if_pos]
  simp only [Inside] at outside
  simp only [Bool.or_eq_true, decide_eq_true_eq]
  omega

/-- A scalar that does not fit is a fault, whatever the cells hold. -/
theorem decodeScalar_eq_error {base : BaseType} {registerLength : Nat}
    (outside : ¬Inside data offset (base.reach registerLength)) (orders : Orders) :
    decodeScalar data offset base registerLength orders =
      .error (.ofWindow offset (base.reach registerLength) data.length) := by
  have refused := requireWindow_eq_error outside
  cases base with
  | bool | short | string =>
      exact Outcome.map_eq_error.mpr (Outcome.bind_eq_error.mpr (.inl refused))
  | int | float =>
      have unpaired : canonicalPair data offset orders.bytes = .error _ :=
        Outcome.bind_eq_error.mpr (.inl refused)
      exact Outcome.map_eq_error.mpr (Outcome.bind_eq_error.mpr (.inl unpaired))

theorem decodeElements_eq_error_here {pointType : PointType}
    (outside : ¬Inside data offset pointType.elementWidth) (orders : Orders) :
    decodeElements data pointType.base pointType.elementWidth orders offset (count + 1) =
      .error (.ofWindow offset pointType.elementWidth data.length) := by
  rw [← pointType.reach_elementWidth] at outside
  have failed := decodeScalar_eq_error outside orders
  rw [pointType.reach_elementWidth] at failed
  exact Outcome.bind_eq_error.mpr (.inl failed)

/-- The first element that does not fit is the fault of all: those before it have values. -/
theorem decodeElements_eq_error {pointType : PointType} (serves : Serves data pointType.base)
    (outside : ¬Inside data offset ((count + 1) * pointType.elementWidth)) (orders : Orders) :
    ∃ place, FirstOutside data offset pointType.elementWidth (count + 1) place ∧
      decodeElements data pointType.base pointType.elementWidth orders offset (count + 1) =
        .error (.ofWindow place pointType.elementWidth data.length) := by
  induction count generalizing offset with
  | zero =>
      rw [Nat.zero_add, Nat.one_mul] at outside
      exact ⟨offset, firstOutside_here outside, decodeElements_eq_error_here outside orders⟩
  | succ count ih =>
      rw [Nat.succ_mul, Nat.add_comm _ pointType.elementWidth] at outside
      by_cases inside : Inside data offset pointType.elementWidth
      · obtain ⟨place, first, fault⟩ := ih fun rest => outside (inside.append rest)
        refine ⟨place, first.later inside, ?_⟩
        obtain ⟨start, rfl, fits⟩ := inside.exists_nat
        rw [← pointType.reach_elementWidth] at fits
        obtain ⟨element, read⟩ := decodeScalar_ok serves fits orders
        refine Outcome.bind_eq_error.mpr (.inr ⟨element, read, ?_⟩)
        exact Outcome.bind_eq_error.mpr (.inl fault)
      · exact ⟨offset, firstOutside_here inside, decodeElements_eq_error_here inside orders⟩

theorem decodeTag_eq_error {tag : Tag} (exactTag : tag.Exact)
    (serves : Serves data tag.pointType.base) (outside : ¬Inside data offset tag.registerLength)
    (orders : Orders) :
    ∃ place, FirstOutside data offset tag.elementReach tag.elementCount place ∧
      decodeTag tag data offset orders = .error (.ofWindow place tag.elementReach data.length) := by
  have positive := tag.registerLength_pos
  unfold Tag.Exact Tag.reach at exactTag
  unfold Tag.elementReach Tag.elementCount decodeTag decodeValue
  split at exactTag
  · next array =>
      rw [if_pos array, if_pos array, if_pos array]
      rw [← exactTag] at outside positive
      obtain ⟨count, elements⟩ := Nat.exists_eq_succ_of_ne_zero
        (Nat.pos_of_mul_pos_right positive).ne'
      rw [elements] at outside ⊢
      obtain ⟨place, first, fault⟩ := decodeElements_eq_error serves outside orders
      exact ⟨place, first, Outcome.map_eq_error.mpr fault⟩
  · next scalar =>
      rw [if_neg scalar, if_neg scalar, if_neg scalar]
      refine ⟨offset, firstOutside_here outside, ?_⟩
      rw [← exactTag] at outside
      rw [decodeScalar_eq_error outside orders, exactTag]

/-! ## Words count modulo `65536` -/

/-- Two cells hold integers that are equal modulo `65536`. -/
def SameWord (left right : Cell) : Prop :=
  ∃ m n, left.integer? = some m ∧ right.integer? = some n ∧ m % 65536 = n % 65536

theorem SameWord.wordOf_eq {left right : Cell} (same : SameWord left right) :
    wordOf left = wordOf right := by
  obtain ⟨m, n, atLeft, atRight, equal⟩ := same
  simp only [wordOf, atLeft, atRight, maskWord, equal]

theorem alikeWindow_of_sameWords {other : List Cell} (same : List.Forall₂ SameWord data other)
    {base : BaseType} (notBool : base ≠ .bool) {start : Nat} (fits : start + count ≤ data.length) :
    AlikeWindow base data start other start count := by
  obtain ⟨lengths, words⟩ := List.forall₂_iff_get.mp same
  refine ⟨fits, lengths ▸ fits, fun index inside => ?_⟩
  have atLeft : start + index < data.length := by omega
  have atRight : start + index < other.length := by omega
  refine ⟨_, _, List.getElem?_eq_getElem atLeft, List.getElem?_eq_getElem atRight, ?_⟩
  exact (alike_iff_of_ne_bool notBool).mpr (words _ atLeft atRight).wordOf_eq

/-! ## Tags of points -/

/-- A tag is read from just what it occupies. It has a value where the whole of it lies inside the
reading, and elsewhere the fault carries the place and the size of the first element that does not,
unless one of the numbers cannot be written. The value is the one of the stretch alone, and of the
words in it only their remainders count. -/
structure ReadsExtent (tag : Tag) (data : List Cell) (offset : Int) (orders : Orders) : Prop where
  ok_iff : (∃ value, decodeTag tag data offset orders = .ok value) ↔
    Inside data offset tag.registerLength
  fault : ¬Inside data offset tag.registerLength → ∃ place,
    FirstOutside data offset tag.elementReach tag.elementCount place ∧
      decodeTag tag data offset orders =
        .error (if place.natAbs < 10 ^ digitLimit ∧ tag.elementReach < 10 ^ digitLimit ∧
            data.length < 10 ^ digitLimit then .window place tag.elementReach data.length
          else .digits .tooManyDigits)
  slice : ∀ value, decodeTag tag data offset orders = .ok value →
    decodeTag tag (segment data offset (offset + tag.registerLength)) 0 orders = .ok value
  words : tag.pointType.base ≠ .bool → ∀ other, List.Forall₂ SameWord data other →
    ∀ value, decodeTag tag data offset orders = .ok value →
      decodeTag tag other offset orders = .ok value

theorem inside_of_decodeTag {tag : Tag} (exactTag : tag.Exact)
    (serves : Serves data tag.pointType.base) {orders : Orders} {value : Cell}
    (decoded : decodeTag tag data offset orders = .ok value) :
    Inside data offset tag.registerLength := by
  by_contra outside
  obtain ⟨place, _, failed⟩ := decodeTag_eq_error exactTag serves outside orders
  rw [failed] at decoded
  cases decoded

theorem readsExtent_of_exact {tag : Tag} (exactTag : tag.Exact)
    (serves : Serves data tag.pointType.base) (offset : Int) (orders : Orders) :
    ReadsExtent tag data offset orders := by
  constructor
  case ok_iff =>
    constructor
    · rintro ⟨value, decoded⟩
      exact inside_of_decodeTag exactTag serves decoded
    · intro inside
      obtain ⟨start, rfl, fits⟩ := Inside.exists_nat inside
      rw [← exactTag] at fits
      exact decodeTag_ok serves fits orders
  case fault =>
    intro outside
    obtain ⟨place, first, failed⟩ := decodeTag_eq_error exactTag serves outside orders
    exact ⟨place, first, by rw [failed, DecodeFault.ofWindow_eq, Int.natAbs_natCast]⟩
  case slice =>
    intro value decoded
    obtain ⟨start, rfl, fits⟩ := (inside_of_decodeTag exactTag serves decoded).exists_nat
    have window : SameWindow (segment data start (start + tag.registerLength : Nat)) 0 data
        (start + 0) tag.reach := by
      apply sameWindow_segment fits
      rw [exactTag, Nat.add_zero]
    rw [← decoded]
    exact window.decodeTag_eq orders
  case words =>
    intro notBool other same value decoded
    obtain ⟨start, rfl, fits⟩ := (inside_of_decodeTag exactTag serves decoded).exists_nat
    rw [← exactTag] at fits
    rw [← (alikeWindow_of_sameWords same notBool fits).decodeTag_eq orders]
    exact decoded

/-- Decoding reads the declared footprint. A point whose address names a register, and whose length
is absent or not negative, has a tag in every module whose number can be written, and from every
reading, of integers unless the point is a truth value, the tag is read from just what it occupies.
In every other module it has no tag. -/
theorem tagOf_readsExtent {point : Point} {register : Nat}
    (named : Address.register (.text point.address) = .ok register)
    (lengthNonneg : ∀ given, point.length = some given → 0 ≤ given) (module : Int)
    {data : List Cell}
    (integers : point.pointType.base ≠ .bool → ∀ cell ∈ data, ∃ word, cell.integer? = some word)
    (offset : Int) (orders : Orders) :
    (module.natAbs < 10 ^ digitLimit →
      ∃ tag, SheetUnit.tagOf module point = .ok tag ∧ ReadsExtent tag data offset orders) ∧
    (10 ^ digitLimit ≤ module.natAbs →
      SheetUnit.tagOf module point = .error (.digits .tooManyDigits)) := by
  constructor
  · intro short
    obtain ⟨tag, made⟩ := SheetUnit.tagOf_ok named lengthNonneg (isWritable_iff.mpr short)
    have tagged := SheetUnit.tagOf_eq_ok made
    have serves : Serves data tag.pointType.base :=
      serves_of_integers (tagged.pointType ▸ integers)
    exact ⟨tag, made, readsExtent_of_exact tagged.exact serves offset orders⟩
  · intro long
    exact SheetUnit.tagOf_of_unwritable (isWritable_eq_false_iff.mpr long) point

/-! ## An array that runs past the end

The length of the point is zero, so it is an array of five; the reading holds only the first four of
its elements. -/

def flowPoint : Point :=
  ⟨"Flow", "Flow", " d007", ⟨.int, true⟩, some 0, none, none, Double.zero false⟩

/-- Words of any width, one of them given by a truth value. -/
def flowWords : List Cell :=
  [.int (-1), .bool true, .int 65535, .int 70000, .int 0, .int 3, .int (-40000), .int 12, .int 7,
    .int 1000000, .int 2]

theorem flowPoint_readsExtent :
    Address.register (.text flowPoint.address) = .ok 7 ∧
      (∀ cell ∈ flowWords, ∃ word, cell.integer? = some word) ∧
      (∃ tag, SheetUnit.tagOf 3 flowPoint = .ok tag ∧
        ReadsExtent tag flowWords 2 ⟨.dcba, .badc⟩) ∧
      SheetUnit.tagOf (10 ^ digitLimit : Nat) flowPoint = .error (.digits .tooManyDigits) := by
  have named : Address.register (.text flowPoint.address) = .ok 7 :=
    Outcome.eq_ok_of_toOption (by decide +kernel)
  have integers : ∀ cell ∈ flowWords, ∃ word, cell.integer? = some word := by
    simp [flowWords, Cell.integer?]
  have nonneg : ∀ given, flowPoint.length = some given → 0 ≤ given := by
    intro given present
    obtain rfl := Option.some.inj present
    exact Int.le_refl 0
  have extent := fun module =>
    tagOf_readsExtent named nonneg module (fun _ => integers) 2 ⟨.dcba, .badc⟩
  have few : (3 : Int).natAbs < 10 ^ digitLimit := isWritable_iff.mp (by decide +kernel)
  exact ⟨named, integers, (extent 3).1 few, (extent _).2 (Int.natAbs_natCast _).ge⟩

/-- One register. -/
def levelPoint : Point :=
  ⟨"Level", "", "D1", ⟨.short, false⟩, none, none, none, Double.zero false⟩

/-- Of a register that is looked for at an offset of one digit too many it is not said that it lies
outside. -/
theorem levelPoint_untold :
    ∃ tag, SheetUnit.tagOf 1 levelPoint = .ok tag ∧
      ¬Inside [.int 1] (10 ^ digitLimit : Nat) tag.registerLength ∧
      decodeTag tag [.int 1] (10 ^ digitLimit : Nat) ⟨.abcd, .badc⟩ =
        .error (.digits .tooManyDigits) := by
  have named : Address.register (.text levelPoint.address) = .ok 1 :=
    Outcome.eq_ok_of_toOption (by decide +kernel)
  have written : isWritable 1 = true := by decide
  obtain ⟨tag, made⟩ := SheetUnit.tagOf_ok named (by simp [levelPoint]) written
  have tagged := SheetUnit.tagOf_eq_ok made
  have serves : Serves [.int 1] tag.pointType.base :=
    serves_of_integers (by simp [Cell.integer?])
  have outside : ¬Inside [.int 1] (10 ^ digitLimit : Nat) tag.registerLength := by
    rintro ⟨_, fits⟩
    have positive := tag.registerLength_pos
    have far : 1 ≤ 10 ^ digitLimit := Nat.one_le_pow _ _ (by decide)
    simp only [List.length_singleton] at fits
    omega
  obtain ⟨place, ⟨index, bound, placed, _⟩, failed⟩ :=
    decodeTag_eq_error tagged.exact serves outside ⟨.abcd, .badc⟩
  have scalar : tag.elementCount = 1 := by
    simp [Tag.elementCount, tagged.pointType, levelPoint]
  obtain rfl : index = 0 := by omega
  refine ⟨tag, made, outside, ?_⟩
  rw [failed, DecodeFault.ofWindow_eq, if_neg]
  rintro ⟨short, _⟩
  rw [placed, Int.natCast_zero, Int.mul_zero, Int.add_zero, Int.natAbs_natCast] at short
  exact Nat.lt_irrefl _ short

end Codec

end PointTable
