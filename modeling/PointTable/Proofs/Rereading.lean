import Mathlib.Data.List.Forall2
import PointTable.ChangeLog
import PointTable.Proofs.Number.Single
import PointTable.Proofs.Readings

/-!
# Reading the same data twice

A value is alike to itself unless it is a non-number, or a list that holds one. Among the values
that registers and coils can spell, only floats are such: their exponent bits are all set and their
fraction is not zero. So a block that is read twice from the same data gives a snapshot that counts
as changed exactly when the words of one of its float tags spell a non-number.
-/

namespace PointTable

/-! ## Values alike to themselves -/

theorem Cell.sameItems_self_eq_false {items : List Cell} :
    Cell.sameItems items items = false ↔ ∃ item ∈ items, item.same item = false := by
  induction items with
  | nil => simp [Cell.sameItems]
  | cons item rest ih =>
      rw [Cell.sameItems, Bool.and_eq_false_iff, ih, List.exists_mem_cons_iff]

namespace Snapshot

/-- A snapshot counts as changed from itself exactly if one of its values differs from itself. -/
theorem hasChanged_self {snapshot : Snapshot} (distinct : (snapshot.map Prod.fst).Nodup) :
    hasChanged (some snapshot) snapshot = true ↔
      ∃ entry ∈ snapshot, differs entry.2 entry.2 = true := by
  have found : ∀ entry ∈ snapshot, snapshot.lookup entry.1 = some entry.2 := fun entry member =>
    Ordered.lookup_eq_some_of_mem distinct member
  have names : sameNames snapshot snapshot = true := by
    simp only [sameNames, Bool.and_self, List.all_eq_true]
    intro entry member
    rw [found entry member, Option.isSome_some]
  simp only [hasChanged, names, Bool.not_true, Bool.false_or, List.any_eq_true]
  apply exists_congr
  intro entry
  apply and_congr_right
  intro member
  rw [found entry member]

end Snapshot

/-! ## Non-numbers in a reading -/

namespace Codec

/-- The two words at an offset spell a single-precision non-number. -/
def NanAt (data : List Cell) (offset : Int) (order : ByteOrder) : Prop :=
  ∃ high low, canonicalPair data offset order = .ok (high, low) ∧
    0x7F800000 < (high * 65536 + low) % 0x80000000

section

variable {data : List Cell} {offset : Int} {base : BaseType} {orders : Orders}

theorem decodeFloat_same_self {order : ByteOrder} {value : Double}
    (decoded : decodeFloat data offset order = .ok value) :
    value.sameValue value = false ↔ NanAt data offset order := by
  obtain ⟨⟨high, low⟩, pair, result⟩ := Outcome.bind_eq_ok.mp decoded
  obtain rfl := Except.ok.inj result
  rw [Double.sameValue_self_eq_false, Double.ofSingleBits_eq_nan_iff]
  constructor
  · intro spelled
    exact ⟨high, low, pair, spelled⟩
  · rintro ⟨high', low', pair', spelled⟩
    obtain ⟨rfl, rfl⟩ := Prod.mk.inj (Except.ok.inj (pair.symm.trans pair'))
    exact spelled

/-- A scalar is no sequence, and it differs from itself exactly if it is a float that is a
non-number. -/
theorem decodeScalar_same_self {registerLength : Int} {value : Cell}
    (decoded : decodeScalar data offset base registerLength orders = .ok value) :
    value.items? = none ∧
      (value.same value = false ↔ base = .float ∧ NanAt data offset orders.bytes) := by
  cases base with
  | float =>
      obtain ⟨number, read, rfl⟩ := Outcome.map_eq_ok.mp decoded
      exact ⟨rfl, by simpa [Cell.same, Cell.number?, Numeral.same] using decodeFloat_same_self read⟩
  | bool | short | int | string =>
      obtain ⟨plain, _, rfl⟩ := Outcome.map_eq_ok.mp decoded
      exact ⟨rfl, by simp [Cell.same, Cell.number?, Numeral.same]⟩

/-- Elements hold one that differs from itself exactly if one of them is such a float. -/
theorem decodeElements_same_self {width count : Nat} {values : List Cell}
    (decoded : decodeElements data base width orders offset count = .ok values) :
    (∃ value ∈ values, value.same value = false) ↔
      base = .float ∧ ∃ index < count, NanAt data (offset + width * index) orders.bytes := by
  induction count generalizing offset values with
  | zero =>
      obtain rfl := Except.ok.inj decoded
      simp
  | succ count ih =>
      simp only [decodeElements, Outcome.bind_eq_ok, Outcome.pure_eq_ok, Except.ok.injEq] at decoded
      obtain ⟨element, first, rest, others, rfl⟩ := decoded
      rw [List.exists_mem_cons_iff, (decodeScalar_same_self first).2, ih others,
        Nat.exists_lt_succ_left, ← and_or_left]
      simp only [offset_succ, Int.natCast_zero, Int.mul_zero, Int.add_zero]

/-- One of a tag's floats in a reading is a non-number. -/
def HoldsNan (tag : Tag) (data : List Cell) (offset : Int) (orders : Orders) : Prop :=
  tag.pointType.base = .float ∧
    ∃ index < tag.arrayLength.toNat, NanAt data (offset + 2 * index) orders.bytes

/-- The value of a tag differs from itself exactly if one of its floats is a non-number. -/
theorem decodeTag_differs_self {tag : Tag}
    (single : tag.pointType.isArray = false → tag.arrayLength = 1) {value : Cell}
    (decoded : decodeTag tag data offset orders = .ok value) :
    Snapshot.differs value value = true ↔ HoldsNan tag data offset orders := by
  unfold decodeTag decodeValue at decoded
  split at decoded
  · obtain ⟨values, elements, rfl⟩ := Outcome.map_eq_ok.mp decoded
    simp only [Snapshot.differs, Cell.items?, Bool.not_eq_true', Cell.sameItems_self_eq_false,
      decodeElements_same_self elements, HoldsNan]
    apply and_congr_right
    intro float
    have width : tag.pointType.elementWidth = 2 := by simp only [PointType.elementWidth, float]
    rw [width]
    rfl
  · next scalar =>
      obtain ⟨plain, spelled⟩ := decodeScalar_same_self decoded
      simp only [Snapshot.differs, plain, Bool.not_eq_true', spelled, HoldsNan,
        single (Bool.eq_false_iff.mpr scalar)]
      simp

end

end Codec

/-! ## Blocks read twice -/

theorem SheetUnit.TagOf.arrayLength_of_scalar {module : Int} {point : Point} {tag : Tag}
    (tagged : TagOf module point tag) (scalar : tag.pointType.isArray = false) :
    tag.arrayLength = 1 := by
  rw [tagged.pointType] at scalar
  rw [tagged.arrayLength, PointType.arrayLength, scalar]
  rfl

/-- The value of a tag is the one filed under its name: the tag is the last of that name. -/
def Block.Files (block : Block) (tag : Tag) : Prop :=
  block.tags.reverse.find? (fun other => other.name = tag.name) = some tag

namespace Codec

/-- A pair holds the name of a tag and its value in the response to a block's request. -/
structure Holds (block : Block) (data : List Cell) (orders : Orders) (tag : Tag)
    (pair : String × Cell) : Prop where
  name : pair.1 = tag.name
  value : decodeTag tag data (block.offsetOf tag) orders = .ok pair.2

variable {block : Block} {data : List Cell} {orders : Orders}

theorem lookup_eq_some_iff {tags : List Tag} {pairs : List (String × Cell)}
    (held : List.Forall₂ (Holds block data orders) tags pairs) {name : String} {value : Cell} :
    pairs.lookup name = some value ↔
      ∃ tag, tags.find? (fun tag => tag.name = name) = some tag ∧
        Holds block data orders tag (name, value) := by
  induction held with
  | nil => simp
  | @cons tag pair tags pairs first _ ih =>
      obtain ⟨key, content⟩ := pair
      obtain ⟨rfl, read⟩ := first
      rw [Ordered.lookup_cons_eq_ite, List.find?_cons]
      by_cases equal : name = tag.name
      · subst name
        simp only [if_true, decide_true, Option.some.injEq, exists_eq_left']
        constructor
        · rintro rfl
          exact ⟨rfl, read⟩
        · intro holds
          exact Except.ok.inj (read.symm.trans holds.value)
      · have different : ¬tag.name = name := fun same => equal same.symm
        simp only [if_neg equal, decide_eq_false different, ih]

/-- A tag of a block that spans its tags lies inside every response that is long enough. -/
theorem exists_offset (spans : block.Spans) (enough : block.length ≤ data.length) {tag : Tag}
    (member : tag ∈ block.tags) :
    ∃ offset : Nat, block.offsetOf tag = offset ∧ offset + tag.registerLength ≤ data.length := by
  have lower := spans.start_le tag member
  have upper := spans.le_stop tag member
  have stop : block.stop = block.start + block.length := rfl
  have tagStop : tag.stop = tag.address + tag.registerLength := rfl
  refine ⟨(block.offsetOf tag).toNat, ?_, ?_⟩
  · rw [Block.offsetOf]
    omega
  · rw [Block.offsetOf]
    omega

variable (orders) in
/-- A response that is long enough and serves the types of a block's tags is decoded: every tag
has a value, and the last value of a name is filed under it. -/
theorem decodeBlock_ok (spans : block.Spans) (exactTags : ∀ tag ∈ block.tags, tag.Exact)
    (enough : block.length ≤ data.length)
    (serves : ∀ tag ∈ block.tags, Serves data tag.pointType.base) :
    ∃ pairs, decodeBlock block data orders = .ok (Ordered.ofPairs pairs) ∧
      List.Forall₂ (Holds block data orders) block.tags pairs := by
  obtain ⟨pairs, held⟩ : ∃ pairs, List.Forall₂ (Holds block data orders) block.tags pairs := by
    apply Outcome.exists_forall₂
    intro tag member
    obtain ⟨offset, placed, fits⟩ := exists_offset spans enough member
    rw [← exactTags tag member] at fits
    obtain ⟨value, read⟩ := decodeTag_ok (serves tag member) fits orders
    exact ⟨(tag.name, value), rfl, placed ▸ read⟩
  refine ⟨pairs, ?_, held⟩
  rw [decodeBlock, if_neg (by omega),
    decodeTags_eq_ok (held.imp fun tag pair holds => ⟨holds.name, holds.value⟩)]
  rfl

/-- Decoding the same response again counts as a change exactly if one of the values that are filed
belongs to a float tag with a non-number. -/
theorem hasChanged_ofPairs_iff {pairs : List (String × Cell)}
    (held : List.Forall₂ (Holds block data orders) block.tags pairs)
    (single : ∀ tag ∈ block.tags, tag.pointType.isArray = false → tag.arrayLength = 1) :
    Snapshot.hasChanged (some (Ordered.ofPairs pairs)) (Ordered.ofPairs pairs) = true ↔
      ∃ tag, block.Files tag ∧ HoldsNan tag data (block.offsetOf tag) orders := by
  have reversed := List.forall₂_reverse_iff.mpr held
  rw [Snapshot.hasChanged_self (Ordered.ofPairs_keys_nodup pairs)]
  constructor
  · rintro ⟨⟨name, value⟩, member, differs⟩
    rw [Ordered.mem_ofPairs_iff, lookup_eq_some_iff reversed] at member
    obtain ⟨tag, last, rfl, read⟩ := member
    have known := List.mem_reverse.mp (List.mem_of_find?_eq_some last)
    exact ⟨tag, last, (decodeTag_differs_self (single tag known) read).mp differs⟩
  · rintro ⟨tag, last, spelled⟩
    have known := List.mem_reverse.mp (List.mem_of_find?_eq_some last)
    obtain ⟨⟨_, value⟩, _, rfl, read⟩ := Outcome.exists_of_mem_left held known
    refine ⟨(tag.name, value), ?_, (decodeTag_differs_self (single tag known) read).mpr spelled⟩
    rw [Ordered.mem_ofPairs_iff, lookup_eq_some_iff reversed]
    exact ⟨tag, last, rfl, read⟩

/-- Rereading unchanged memory. A block of a plan is decoded from every response that is long
enough and holds integers where registers are read. The snapshot counts as changed from itself
exactly if one of the values that are filed belongs to a float tag with a non-number. -/
theorem reread_hasChanged_iff {limits : Limits} {tags : List Tag}
    (made : ∀ tag ∈ tags, ∃ module point, SheetUnit.tagOf module point = .ok tag)
    (planned : block ∈ (Batching.plan limits tags).flatMap Prod.snd)
    (enough : block.length ≤ data.length)
    (words : block.table = .holdingRegister → ∀ cell ∈ data, ∃ word, cell.integer? = some word)
    (orders : Orders) :
    ∃ values, decodeBlock block data orders = .ok values ∧
      (Snapshot.hasChanged (some values) values = true ↔
        ∃ tag, block.Files tag ∧ HoldsNan tag data (block.offsetOf tag) orders) := by
  have spans := Batching.plan_spans limits tags block planned
  have tagged : ∀ tag ∈ block.tags, ∃ module point, SheetUnit.TagOf module point tag := by
    intro tag member
    have known : tag ∈ tags := (Batching.plan_tags_perm limits tags).mem_iff.mp
      (List.mem_flatMap.mpr ⟨block, planned, member⟩)
    obtain ⟨module, point, built⟩ := made tag known
    exact ⟨module, point, SheetUnit.tagOf_eq_ok built⟩
  have exactTags : ∀ tag ∈ block.tags, tag.Exact := by
    intro tag member
    obtain ⟨module, point, built⟩ := tagged tag member
    exact built.exact
  have serves : ∀ tag ∈ block.tags, Serves data tag.pointType.base := by
    intro tag member notBool cell cellMember
    have registers : block.table = .holdingRegister := by
      rw [← spans.table tag member, Tag.table_of_not_bool notBool]
    obtain ⟨word, read⟩ := words registers cell cellMember
    exact ⟨maskWord word, by rw [wordOf, read]⟩
  obtain ⟨pairs, response, held⟩ := decodeBlock_ok orders spans exactTags enough serves
  refine ⟨_, response, hasChanged_ofPairs_iff held ?_⟩
  intro tag member
  obtain ⟨module, point, built⟩ := tagged tag member
  exact built.arrayLength_of_scalar

/-! ## A gauge that reads a non-number

An array of two floats stands behind a counter. The second float is a non-number with a payload,
its sign bit set and its low word first. -/

/-- A counter and an array of two floats. -/
def gaugePoints : List Point :=
  [⟨"Count", "Count", "D1", ⟨.short, false⟩, none, none, none, Double.zero false⟩,
    ⟨"Ramp", "Ramp", "D2", ⟨.float, true⟩, some 2, none, none, Double.zero false⟩]

def gaugeTags : List Tag :=
  (SheetUnit.tagsOf 1 gaugePoints).toOption.getD []

def gaugeBlock : Block :=
  ⟨.holdingRegister, 1, 5, gaugeTags⟩

/-- One register more than the block asks for, and a counter below zero. -/
def gaugeWords : List Cell :=
  [.int (-3), .int 0, .int 0x3F80, .int 1, .int 0xFF80, .int 7]

def gaugeOrders : Orders := ⟨.cdab, .abcd⟩

theorem gaugeTags_made :
    ∀ tag ∈ gaugeTags, ∃ module point, SheetUnit.tagOf module point = .ok tag := by
  have built : SheetUnit.tagsOf 1 gaugePoints = .ok gaugeTags :=
    Outcome.eq_ok_of_toOption (by decide +kernel)
  rw [SheetUnit.tagsOf_eq_mapM, Outcome.mapM_eq_ok] at built
  intro tag member
  obtain ⟨point, _, made⟩ := Outcome.exists_of_mem_right built member
  exact ⟨1, point, made⟩

theorem gaugeBlock_planned :
    gaugeBlock ∈ (Batching.plan ⟨10, 100⟩ gaugeTags).flatMap Prod.snd := by
  have registers : Batching.tagsOf .holdingRegister gaugeTags = gaugeTags := by decide +kernel
  have sorted : Batching.sortTags gaugeTags = gaugeTags :=
    List.mergeSort_of_pairwise (by decide +kernel)
  rw [Batching.plan_flatMap_blocks, List.mem_flatMap]
  refine ⟨.holdingRegister, by decide, ?_⟩
  rw [registers, Batching.batch, sorted]
  decide +kernel

theorem gaugeBlock_reread :
    gaugeBlock ∈ (Batching.plan ⟨10, 100⟩ gaugeTags).flatMap Prod.snd ∧
      gaugeBlock.length ≤ gaugeWords.length ∧
      ∃ values, decodeBlock gaugeBlock gaugeWords gaugeOrders = .ok values ∧
        (Snapshot.hasChanged (some values) values = true ↔
          ∃ tag, gaugeBlock.Files tag ∧
            HoldsNan tag gaugeWords (gaugeBlock.offsetOf tag) gaugeOrders) := by
  have enough : gaugeBlock.length ≤ gaugeWords.length := by decide
  have words : ∀ cell ∈ gaugeWords, ∃ word, cell.integer? = some word := by
    simp [gaugeWords, Cell.integer?]
  exact ⟨gaugeBlock_planned, enough, reread_hasChanged_iff gaugeTags_made gaugeBlock_planned enough
    (fun _ => words) gaugeOrders⟩

/-- The same words twice make two readings that count as different. -/
theorem gaugeBlock_hasChanged :
    gaugeBlock ∈ (Batching.plan ⟨10, 100⟩ gaugeTags).flatMap Prod.snd ∧
      ∃ values, decodeBlock gaugeBlock gaugeWords gaugeOrders = .ok values ∧
        Snapshot.hasChanged (some values) values = true := by
  refine ⟨gaugeBlock_planned, ?_⟩
  have changed : ∃ values ∈ (decodeBlock gaugeBlock gaugeWords gaugeOrders).toOption,
      Snapshot.hasChanged (some values) values = true := by
    decide +kernel
  obtain ⟨values, known, result⟩ := changed
  exact ⟨values, Outcome.eq_ok_of_toOption known, result⟩

end Codec

end PointTable
