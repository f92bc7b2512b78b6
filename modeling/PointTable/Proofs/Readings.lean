import PointTable.Proofs.Codec.Window
import PointTable.Proofs.Program

/-!
# Readings of a device

An image is all that a device holds in its tables. The requests of a unit cut stretches out of the
image and decode every tag at its offset there; the same tag can be decoded in the image itself, at
its address. Both give the same values, so how tags are batched never shows in what is read.
-/

namespace PointTable

open Text

/-- What a device holds: coils of any kind of cell, and registers of any integers. -/
structure Image where
  coils : List Cell
  registers : List Int

namespace Image

def table (image : Image) : TableKind → List Cell
  | .coil => image.coils
  | .holdingRegister => image.registers.map .int

/-- The image reaches to the end of every tag. -/
def Covers (image : Image) (tags : List Tag) : Prop :=
  ∀ tag ∈ tags, tag.stop ≤ (image.table tag.table).length

/-- What a device answers to the request of a block. -/
def answer (image : Image) (block : Block) : List Cell :=
  Codec.segment (image.table block.table) block.start block.stop

/-- A pair holds the name of a tag and its value in the image. -/
structure Holds (image : Image) (orders : Codec.Orders) (tag : Tag) (pair : String × Cell) :
    Prop where
  name : pair.1 = tag.name
  value : Codec.decodeTag tag (image.table tag.table) tag.address orders = .ok pair.2

end Image

/-- Read a unit: request its blocks one after the other and unite the values of all answers. -/
def Program.read (program : Program) (unit : SheetUnit) (image : Image) :
    Except Codec.DecodeFault (List (String × Cell)) := do
  let answers ← (program.blocksFor unit.sheet unit.module none).mapM fun block =>
    Codec.decodeBlock block (image.answer block) program.options.orders
  return Ordered.ofPairs answers.flatten

/-! ## Values in an image -/

namespace Image

variable {image : Image} {orders : Codec.Orders}

theorem table_serves (image : Image) (tag : Tag) :
    Codec.Serves (image.table tag.table) tag.pointType.base := by
  intro notBool cell member
  rw [Tag.table_of_not_bool notBool] at member
  obtain ⟨word, _, rfl⟩ := List.mem_map.mp member
  exact ⟨Codec.maskWord word, rfl⟩

theorem exists_holds {tag : Tag} (exactTag : tag.Exact)
    (reached : tag.stop ≤ (image.table tag.table).length) :
    ∃ pair, image.Holds orders tag pair := by
  have fits : tag.address + tag.reach ≤ (image.table tag.table).length := by
    rw [exactTag]
    exact reached
  obtain ⟨value, decoded⟩ := Codec.decodeTag_ok (image.table_serves tag) fits orders
  exact ⟨(tag.name, value), rfl, decoded⟩

theorem holds_rightUnique : Relator.RightUnique (image.Holds orders) := by
  intro tag left right leftHolds rightHolds
  apply Prod.ext
  · rw [leftHolds.name, rightHolds.name]
  · exact Except.ok.inj (leftHolds.value.symm.trans rightHolds.value)

theorem names_eq {tags : List Tag} {pairs : List (String × Cell)}
    (held : List.Forall₂ (image.Holds orders) tags pairs) :
    pairs.map Prod.fst = tags.map Tag.name := by
  symm
  apply Outcome.map_eq_map held
  intro tag pair holds
  exact holds.name.symm

end Image

/-! ## Answers to one request -/

namespace Codec

theorem decodeTags_eq_ok {block : Block} {data : List Cell} {orders : Orders} {tags : List Tag}
    {pairs : List (String × Cell)}
    (decoded : List.Forall₂ (fun tag pair => pair.1 = tag.name ∧
      decodeTag tag data (block.offsetOf tag) orders = .ok pair.2) tags pairs)
    (values : List (String × Cell)) :
    decodeTags block data orders values tags =
      .ok (pairs.foldl (fun mapping pair => Ordered.put pair.1 pair.2 mapping) values) := by
  induction decoded generalizing values with
  | nil => rfl
  | cons first _ ih =>
      simp only [decodeTags, first.2, ← first.1, List.foldl_cons]
      exact ih _

end Codec

namespace Image

variable {image : Image} {orders : Codec.Orders} {block : Block}

/-- The answer to a block's request is as long as the block and holds the window of each of its
tags. -/
theorem answer_window (spans : block.Spans) (exactTags : ∀ tag ∈ block.tags, tag.Exact)
    (covers : image.Covers block.tags) :
    ((image.answer block).length : Int) = block.length ∧
      ∀ tag ∈ block.tags, ∃ offset : Nat, block.offsetOf tag = offset ∧
        Codec.SameWindow (image.answer block) offset (image.table tag.table) tag.address
          tag.reach := by
  obtain ⟨first, firstMember, starts⟩ := spans.starts
  obtain ⟨last, lastMember, stops⟩ := spans.stops
  have ordered := spans.start_le last lastMember
  have inside : last.stop ≤ (image.table block.table).length := by
    rw [← spans.table last lastMember]
    exact covers last lastMember
  have answer : image.answer block =
      Codec.segment (image.table block.table) first.address last.stop := by
    rw [Image.answer, starts, stops]
  have stop : block.stop = block.start + block.length := rfl
  constructor
  · rw [answer, Codec.length_segment inside]
    have nonempty : last.address ≤ last.stop := Nat.le_add_right _ _
    omega
  · intro tag member
    have lower := spans.start_le tag member
    have upper := spans.le_stop tag member
    have reach : tag.stop = tag.address + tag.reach := by rw [exactTags tag member, Tag.stop]
    refine ⟨tag.address - first.address, ?_, ?_⟩
    · rw [Block.offsetOf]
      omega
    · have place : first.address + (tag.address - first.address) = tag.address := by omega
      have fits : first.address + (tag.address - first.address) + tag.reach ≤ last.stop := by
        omega
      have window := Codec.sameWindow_segment inside fits
      rw [place] at window
      rw [answer, spans.table tag member]
      exact window

/-- Decoding the answer to a block's request gives the values that its tags have in the image. -/
theorem decodeBlock_answer (spans : block.Spans) (exactTags : ∀ tag ∈ block.tags, tag.Exact)
    (covers : image.Covers block.tags) (distinct : (block.tags.map Tag.name).Nodup)
    {pairs : List (String × Cell)} (held : List.Forall₂ (image.Holds orders) block.tags pairs) :
    Codec.decodeBlock block (image.answer block) orders = .ok pairs := by
  obtain ⟨length, windows⟩ := answer_window spans exactTags covers
  have enough : ¬((image.answer block).length : Int) < block.length := by omega
  have decoded : List.Forall₂ (fun tag pair => pair.1 = tag.name ∧
      Codec.decodeTag tag (image.answer block) (block.offsetOf tag) orders = .ok pair.2)
      block.tags pairs := by
    refine ((List.forall₂_and_left _ _).mpr ⟨windows, held⟩).imp ?_
    rintro tag pair ⟨⟨offset, placed, window⟩, holds⟩
    refine ⟨holds.name, ?_⟩
    rw [placed, window.decodeTag_eq orders]
    exact holds.value
  rw [Codec.decodeBlock, if_neg enough, Codec.decodeTags_eq_ok decoded []]
  rw [← names_eq held] at distinct
  exact congrArg Except.ok (Ordered.ofPairs_of_nodup distinct)

variable (orders) in
/-- Every one of some blocks can be decoded, and the answers together hold the values of all
tags. -/
theorem exists_answers {blocks : List Block} (spans : ∀ block ∈ blocks, block.Spans)
    (exactTags : ∀ tag ∈ blocks.flatMap Block.tags, tag.Exact)
    (covers : image.Covers (blocks.flatMap Block.tags))
    (distinct : ((blocks.flatMap Block.tags).map Tag.name).Nodup) :
    ∃ answers,
      (blocks.mapM fun block => Codec.decodeBlock block (image.answer block) orders) =
          .ok answers ∧
        List.Forall₂ (image.Holds orders) (blocks.flatMap Block.tags) answers.flatten := by
  have answered : ∀ block ∈ blocks, ∃ pairs,
      Codec.decodeBlock block (image.answer block) orders = .ok pairs ∧
        List.Forall₂ (image.Holds orders) block.tags pairs := by
    intro block member
    have inside : ∀ tag ∈ block.tags, tag ∈ blocks.flatMap Block.tags := fun tag tagMember =>
      List.mem_flatMap.mpr ⟨block, member, tagMember⟩
    obtain ⟨pairs, held⟩ : ∃ pairs, List.Forall₂ (image.Holds orders) block.tags pairs := by
      apply Outcome.exists_forall₂
      intro tag tagMember
      exact exists_holds (exactTags tag (inside tag tagMember))
        (covers tag (inside tag tagMember))
    refine ⟨pairs, decodeBlock_answer (spans block member) ?_ ?_ ?_ held, held⟩
    · intro tag tagMember
      exact exactTags tag (inside tag tagMember)
    · intro tag tagMember
      exact covers tag (inside tag tagMember)
    · rw [List.map_flatMap, List.nodup_flatMap] at distinct
      exact distinct.1 block member
  obtain ⟨answers, related⟩ := Outcome.exists_forall₂ answered
  refine ⟨answers, Outcome.mapM_eq_ok.mpr (related.imp fun block pairs both => both.1), ?_⟩
  apply List.rel_flatten
  rw [List.forall₂_map_left_iff]
  exact related.imp fun block pairs both => both.2

end Image

/-! ## All requests of a unit -/

namespace Program

/-- A mapping is what the requests of a unit read from an image: no answer fails to decode, and
there is one entry for every tag, under its name and with the value of the tag in the image. -/
structure Reads (program : Program) (unit : SheetUnit) (image : Image)
    (mapping : List (String × Cell)) : Prop where
  answers : ∀ block ∈ program.blocksFor unit.sheet unit.module none, ∃ values,
    Codec.decodeBlock block (image.answer block) program.options.orders = .ok values
  read : program.read unit image = .ok mapping
  names : (mapping.map Prod.fst).Perm (unit.tags.map Tag.name)
  nodup : (mapping.map Prod.fst).Nodup
  values : ∀ tag ∈ unit.tags, ∃ value,
    Codec.decodeTag tag (image.table tag.table) tag.address program.options.orders = .ok value ∧
      mapping.lookup tag.name = some value

section

variable {tables : Tables} {options : Options} {program : Program} {unit : SheetUnit}
  {image : Image}

theorem Built.accepted (built : Built tables options program) :
    Validation.Accepted tables options.maxModules program.config :=
  Validation.validate_eq_ok built.validated

/-- The requests of a unit hold every tag once, and the answers hold its value. -/
theorem Built.exists_reads (built : Built tables options program)
    (distinct : (tables.sheets.map fun table => trim table.1).Nodup)
    (member : unit ∈ program.units) (covers : image.Covers unit.tags) :
    ∃ mapping, program.Reads unit image mapping ∧
      ∃ direct, List.Forall₂ (image.Holds options.orders) unit.tags direct ∧
        direct.Perm mapping := by
  have keys := SheetUnit.keys_nodup built.units (built.accepted.sheetNames_eq ▸ distinct)
  have perm := Batching.plan_tags_perm options.limits unit.tags
  have spans := Batching.plan_spans options.limits unit.tags
  have names := SheetUnit.tagNames_nodup built.accepted built.units member
  rw [← blocksFor_eq built.requestBlocks keys member] at perm spans
  have blockNames := (perm.map Tag.name).nodup_iff.mpr names
  obtain ⟨answers, decoded, held⟩ := Image.exists_answers options.orders spans
    (fun tag tagMember => SheetUnit.tags_exact built.units member tag (perm.mem_iff.mp tagMember))
    (fun tag tagMember => covers tag (perm.mem_iff.mp tagMember)) blockNames
  have keysEq := Image.names_eq held
  have nodup : (answers.flatten.map Prod.fst).Nodup := keysEq ▸ blockNames
  obtain ⟨direct, directHeld, reordered⟩ := List.perm_comp_forall₂ perm.symm held
  refine ⟨answers.flatten, ⟨?_, ?_, ?_, nodup, ?_⟩, direct, directHeld, reordered⟩
  · intro block blockMember
    rw [built.options_eq]
    obtain ⟨values, _, value⟩ :=
      Outcome.exists_of_mem_left (Outcome.mapM_eq_ok.mp decoded) blockMember
    exact ⟨values, value⟩
  · rw [read, built.options_eq, decoded]
    exact congrArg Except.ok (Ordered.ofPairs_of_nodup nodup)
  · rw [keysEq]
    exact perm.map Tag.name
  · intro tag tagMember
    obtain ⟨pair, pairMember, holds⟩ := Outcome.exists_of_mem_left directHeld tagMember
    rw [built.options_eq, ← holds.name]
    exact ⟨pair.2, holds.value,
      Ordered.lookup_eq_some_of_mem nodup (reordered.mem_iff.mp pairMember)⟩

end

/-- Batching preserves meaning. Whatever a device holds, as long as it reaches to the end of every
tag, the requests of a unit read from it one value for each tag, the value that the tag has in the
image; and under any other limits of batching the build gives the same units and they read the
same. -/
theorem build_reads {tables : Tables} {options : Options} {program : Program}
    (built : build tables options = .ok program)
    (distinct : (tables.sheets.map fun table => trim table.1).Nodup) {unit : SheetUnit}
    (member : unit ∈ program.units) {image : Image} (covers : image.Covers unit.tags) :
    ∃ mapping, program.Reads unit image mapping ∧
      ∀ (maxGap maxBatchSize : Nat) (positive : 0 < maxBatchSize), ∃ other,
        build tables (options.withLimits maxGap maxBatchSize positive) = .ok other ∧
          other.units = program.units ∧
          ∃ reordered, other.Reads unit image reordered ∧ reordered.Perm mapping := by
  have stages := build_eq_ok.mp built
  obtain ⟨mapping, reads, direct, held, perm⟩ := stages.exists_reads distinct member covers
  refine ⟨mapping, reads, fun maxGap maxBatchSize positive => ?_⟩
  obtain ⟨other, otherStages, units⟩ :
      ∃ other, Built tables (options.withLimits maxGap maxBatchSize positive) other ∧
        other.units = program.units := stages.withLimits
  obtain ⟨reordered, otherReads, direct', held', perm'⟩ :=
    otherStages.exists_reads distinct (units ▸ member) covers
  have same : direct = direct' := List.right_unique_forall₂' Image.holds_rightUnique held held'
  refine ⟨other, build_eq_ok.mpr otherStages, units, reordered, otherReads, ?_⟩
  exact perm'.symm.trans (same ▸ perm)

/-! ## A device that is read

The tags of a sheet stand in descending order of address, and a hole lies between them that is
read along. The registers hold integers of any width. -/

/-- Registers up to the end of the last tag, and coils likewise. -/
def sampleImage : Image where
  coils := [.int 0, .null, .text "", .bool true]
  registers := (List.range 110).map fun index : Nat => 70000 * index - 5

theorem sampleImage_reads :
    ∃ program, build Validation.sampleTables Options.sample = .ok program ∧
      ∃ unit ∈ program.units, unit.tags.map Tag.name = ["Speed_M2", "12_M2"] ∧
        ∃ mapping, program.Reads unit sampleImage mapping ∧
          ∀ (maxGap maxBatchSize : Nat) (positive : 0 < maxBatchSize), ∃ other,
            build Validation.sampleTables
                (Options.sample.withLimits maxGap maxBatchSize positive) = .ok other ∧
              other.units = program.units ∧
              ∃ reordered, other.Reads unit sampleImage reordered ∧ reordered.Perm mapping := by
  obtain ⟨program, built⟩ := build_sampleTables
  have present : ∃ unit ∈ ((SheetUnit.ofConfig Validation.sampleConfig).toOption.getD []),
      unit.tags.map Tag.name = ["Speed_M2", "12_M2"] ∧
        ∀ tag ∈ unit.tags, tag.stop ≤ (sampleImage.table tag.table).length := by
    decide +kernel
  have stages := build_eq_ok.mp built
  have config : program.config = Validation.sampleConfig :=
    Except.ok.inj (stages.validated.symm.trans Validation.validate_sampleTables)
  rw [← config, stages.units] at present
  obtain ⟨unit, member, names, covers⟩ := present
  exact ⟨program, built, unit, member, names, build_reads built (by decide +kernel) member covers⟩

end Program

end PointTable
