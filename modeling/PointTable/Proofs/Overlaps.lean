import PointTable.Proofs.FewestBlocks
import PointTable.Proofs.Holes

/-!
# Where blocks overlap

Blocks ascend, and a tag that begins inside the block before it joins that block unless the span
forbids it. So a block ends before the next one starts wherever the span does not cut through tags
that overlap, and tags that share no address are read in blocks that share none. Two blocks start at
one address only beside a tag that alone is beyond the span.
-/

namespace PointTable

/-- Two tags share no address. -/
def Tag.Apart (tag other : Tag) : Prop :=
  ∀ address, ¬(tag.Occupies address ∧ other.Occupies address)

theorem Tag.Apart.symm {tag other : Tag} (apart : tag.Apart other) : other.Apart tag :=
  fun address shared => apart address ⟨shared.2, shared.1⟩

namespace Batching

/-! ## Tags of two blocks -/

/-- What holds between tags in their order holds between tags of a block and of a later one. -/
theorem batch_pairwise (limits : Limits) {tags : List Tag} {relation : Tag → Tag → Prop}
    (sorted : (sortTags tags).Pairwise relation) :
    (batch limits tags).Pairwise fun left right =>
      ∀ tag ∈ left.tags, ∀ other ∈ right.tags, relation tag other := by
  rw [← batch_flatMap_tags limits, List.pairwise_flatMap] at sorted
  exact sorted.2

/-- A block that reaches past the start of a later one does so by a tag that lies over it. -/
theorem exists_occupies_start {left right : Block} (leftSpans : left.Spans)
    (rightSpans : right.Spans)
    (ordered : ∀ tag ∈ left.tags, ∀ other ∈ right.tags, tag.address ≤ other.address)
    (overlap : right.start < left.stop) :
    ∃ tag ∈ left.tags, tag.Occupies right.start := by
  obtain ⟨last, lastMember, stops⟩ := leftSpans.stops
  obtain ⟨first, firstMember, starts⟩ := rightSpans.starts
  refine ⟨last, lastMember, ?_, ?_⟩
  · rw [← starts]
    exact Int.ofNat_le.mpr (ordered last lastMember first firstMember)
  · rw [stops]
    exact overlap

/-! ## Neighbours -/

/-- The span splits an overlap: the first tag of the next block begins where a tag of the block
lies, but the block would become too long with it. -/
def SplitsOverlap (limits : Limits) (block next : Block) : Prop :=
  ∃ tag later, next.tags = tag :: later ∧ (∃ last ∈ block.tags, last.Occupies tag.address) ∧
    limits.maxSpan < max block.stop tag.stop - block.start

/-- How a block is followed by the next one. -/
structure Follows (limits : Limits) (block next : Block) : Prop where
  start_le : block.start ≤ next.start
  /-- Both start at one address only if one of them is a tag that is beyond the span. -/
  start_eq : block.start = next.start →
    ∃ wide, limits.maxSpan < wide.registerLength ∧ (block.tags = [wide] ∨ next.tags = [wide])
  /-- The block reaches past the start of the next one just where the span splits an overlap. -/
  start_lt_stop : next.start < block.stop ↔ SplitsOverlap limits block next

section

variable {limits : Limits} {block next : Block}

theorem splitsOverlap_iff (nonneg : 0 ≤ limits.maxGap) (spans : block.Spans)
    (nextSpans : next.Spans) (nextGrown : next.Grown limits) (forced : Forced limits block next)
    (ordered : ∀ tag ∈ block.tags, ∀ other ∈ next.tags, tag.address ≤ other.address) :
    next.start < block.stop ↔ SplitsOverlap limits block next := by
  obtain ⟨first, _, firstEq, _, starts⟩ := nextGrown.covers.opens
  constructor
  · intro overlap
    obtain ⟨tag, later, tagsEq, refused⟩ := forced
    obtain rfl : first = tag := (List.cons.inj (firstEq.symm.trans tagsEq)).1
    obtain ⟨last, member, occupies⟩ := exists_occupies_start spans nextSpans ordered overlap
    refine ⟨first, later, tagsEq, ⟨last, member, starts ▸ occupies⟩, ?_⟩
    omega
  · rintro ⟨tag, later, tagsEq, ⟨last, member, occupies⟩, _⟩
    obtain rfl : first = tag := (List.cons.inj (firstEq.symm.trans tagsEq)).1
    rw [starts]
    exact Int.lt_of_lt_of_le occupies.2 (spans.le_stop last member)

theorem exists_wide (grown : block.Grown limits) (long : limits.maxSpan < block.length) :
    ∃ wide, limits.maxSpan < wide.registerLength ∧ block.tags = [wide] := by
  obtain ⟨tag, rfl⟩ := grown.eq_single long
  exact ⟨tag, long, rfl⟩

theorem follows_of_forced (nonneg : 0 ≤ limits.maxGap) (grown : block.Grown limits)
    (spans : block.Spans) (nextGrown : next.Grown limits) (nextSpans : next.Spans)
    (forced : Forced limits block next)
    (ordered : ∀ tag ∈ block.tags, ∀ other ∈ next.tags, tag.address ≤ other.address) :
    Follows limits block next := by
  have splits := splitsOverlap_iff nonneg spans nextSpans nextGrown forced ordered
  obtain ⟨head, headMember, headStarts⟩ := spans.starts
  obtain ⟨first, firstMember, firstStarts⟩ := nextSpans.starts
  have headFirst := ordered head headMember first firstMember
  refine ⟨by omega, ?_, splits⟩
  intro level
  have positive := head.registerLength_pos
  have headStops := spans.le_stop head headMember
  have inside : next.start < block.stop := by
    rw [Tag.stop] at headStops
    omega
  obtain ⟨tag, later, tagsEq, _, beyond⟩ := splits.mp inside
  have tagStops := nextSpans.le_stop tag (by simp [tagsEq])
  have long : limits.maxSpan < block.length ∨ limits.maxSpan < next.length := by
    simp only [Block.stop] at tagStops beyond
    omega
  rcases long with blockLong | nextLong
  · obtain ⟨wide, width, only⟩ := exists_wide grown blockLong
    exact ⟨wide, width, .inl only⟩
  · obtain ⟨wide, width, only⟩ := exists_wide nextGrown nextLong
    exact ⟨wide, width, .inr only⟩

end

/-! ## All blocks of a table -/

/-- A block lies before another: it starts before it, and ends no later than the other starts. -/
def Before (left right : Block) : Prop :=
  left.start < right.start ∧ left.stop ≤ right.start

/-- Blocks follow one another, and those of tags that share no address lie one before the other. -/
structure Staggered (limits : Limits) (tags : List Tag) (blocks : List Block) : Prop where
  follows : blocks.IsChain (Follows limits)
  /-- Without a tag that is beyond the span, no two blocks start at one address. -/
  ascends : (∀ tag ∈ tags, (tag.registerLength : Int) ≤ limits.maxSpan) →
    blocks.Pairwise fun left right => left.start < right.start
  before : tags.Pairwise Tag.Apart → blocks.Pairwise Before

theorem Follows.start_lt {limits : Limits} {block next : Block}
    (follows : Follows limits block next)
    (blockNarrow : ∀ tag ∈ block.tags, (tag.registerLength : Int) ≤ limits.maxSpan)
    (nextNarrow : ∀ tag ∈ next.tags, (tag.registerLength : Int) ≤ limits.maxSpan) :
    block.start < next.start := by
  apply lt_of_le_of_ne follows.start_le
  intro level
  obtain ⟨wide, width, only | only⟩ := follows.start_eq level
  · have narrow := blockNarrow wide (by simp [only])
    omega
  · have narrow := nextNarrow wide (by simp [only])
    omega

section

variable {limits : Limits} {table : TableKind} {tags : List Tag}

theorem batch_isChain_follows (nonneg : 0 ≤ limits.maxGap)
    (tables : ∀ tag ∈ tags, tag.table = table) :
    (batch limits tags).IsChain (Follows limits) := by
  have grown := batch_grown limits tags
  have spans := batch_spans limits tables
  have ordered := batch_pairwise limits (sortTags_pairwise tags)
  have forced := batch_isChain limits tags
  rw [List.isChain_iff_forall_rel_of_append_cons_cons] at forced ⊢
  intro block next before after split
  rw [split, List.pairwise_append, List.pairwise_cons] at ordered
  have member : block ∈ batch limits tags := by simp [split]
  have nextMember : next ∈ batch limits tags := by simp [split]
  exact follows_of_forced nonneg (grown block member) (spans block member).1
    (grown next nextMember) (spans next nextMember).1 (forced split)
    (ordered.2.1.1 next List.mem_cons_self)

theorem batch_pairwise_start_lt (nonneg : 0 ≤ limits.maxGap)
    (tables : ∀ tag ∈ tags, tag.table = table)
    (narrow : ∀ tag ∈ tags, (tag.registerLength : Int) ≤ limits.maxSpan) :
    (batch limits tags).Pairwise fun left right => left.start < right.start := by
  have inside : ∀ block ∈ batch limits tags, ∀ tag ∈ block.tags,
      (tag.registerLength : Int) ≤ limits.maxSpan := fun block member tag tagMember =>
    narrow tag (mem_of_mem_batch member tagMember)
  have ascends : (batch limits tags).IsChain fun left right => left.start < right.start := by
    refine (batch_isChain_follows nonneg tables).imp_of_mem_imp ?_
    intro block next member nextMember follows
    exact follows.start_lt (inside block member) (inside next nextMember)
  exact ascends.pairwise

theorem batch_pairwise_before (tables : ∀ tag ∈ tags, tag.table = table)
    (apart : tags.Pairwise Tag.Apart) : (batch limits tags).Pairwise Before := by
  have spans := batch_spans limits tables
  have ordered := batch_pairwise limits (sortTags_pairwise tags)
  have sortedApart := ((sortTags_perm tags).pairwise_iff Tag.Apart.symm).mpr apart
  have disjoint := batch_pairwise limits sortedApart
  refine (ordered.and disjoint).imp_of_mem fun {left right} leftMember rightMember both => ?_
  have leftSpans := (spans left leftMember).1
  have rightSpans := (spans right rightMember).1
  obtain ⟨head, headMember, headStarts⟩ := leftSpans.starts
  obtain ⟨first, firstMember, firstStarts⟩ := rightSpans.starts
  have ends : left.stop ≤ right.start := by
    by_contra overlap
    obtain ⟨tag, member, occupies⟩ :=
      exists_occupies_start leftSpans rightSpans both.1 (Int.not_le.mp overlap)
    exact both.2 tag member first firstMember right.start
      ⟨occupies, firstStarts ▸ first.occupies_address⟩
  have positive := head.registerLength_pos
  have headStops := leftSpans.le_stop head headMember
  rw [Tag.stop] at headStops
  exact ⟨by omega, ends⟩

end

/-- Tags of one table are read in blocks that ascend, and that overlap only where the span cuts
through overlapping tags. -/
theorem optimize_staggered (limits : Limits) (nonneg : 0 ≤ limits.maxGap) {table : TableKind}
    {tags : List Tag} (tables : ∀ tag ∈ tags, tag.table = table) :
    ∃ blocks, optimize limits tags = .ok blocks ∧ Staggered limits tags blocks :=
  ⟨batch limits tags, optimize_of_table limits tables, batch_isChain_follows nonneg tables,
    batch_pairwise_start_lt nonneg tables, batch_pairwise_before tables⟩

/-! ## Lapped tags

The first two tags overlap and are too long together; the third shares its address with the second
and is too long alone. -/

/-- Three tags, each of which begins inside the one before it. -/
def lappedTags : List Tag := [textTag "Low" 0 7, textTag "High" 5 7, textTag "Wide" 5 19]

/-- Their blocks if a span of ten registers is read. -/
def lappedBlocks : List Block := [
  ⟨.holdingRegister, 0, 8, [textTag "Low" 0 7]⟩,
  ⟨.holdingRegister, 5, 8, [textTag "High" 5 7]⟩,
  ⟨.holdingRegister, 5, 20, [textTag "Wide" 5 19]⟩]

theorem lappedTags_tables : ∀ tag ∈ lappedTags, tag.table = .holdingRegister := by
  decide

theorem optimize_lappedTags : optimize ⟨20, 10⟩ lappedTags = .ok lappedBlocks := by
  have sorted : sortTags lappedTags = lappedTags := List.mergeSort_of_pairwise (by decide)
  rw [optimize_of_table ⟨20, 10⟩ lappedTags_tables, batch, sorted]
  exact congrArg Except.ok (by decide)

/-- Blocks may start at one address, and a block may end behind the start of the next. -/
theorem lappedTags_overlap :
    (∀ tag ∈ lappedTags, tag.table = .holdingRegister) ∧
      optimize ⟨20, 10⟩ lappedTags = .ok lappedBlocks ∧
      ¬lappedBlocks.IsChain (fun block next => block.start < next.start) ∧
      ¬lappedBlocks.IsChain (fun block next => block.stop ≤ next.start) := by
  refine ⟨lappedTags_tables, optimize_lappedTags, ?_, ?_⟩
  · simp [lappedBlocks]
  · simp [lappedBlocks, Block.stop]

theorem lappedTags_staggered :
    (∀ tag ∈ lappedTags, tag.table = .holdingRegister) ∧
      optimize ⟨20, 10⟩ lappedTags = .ok lappedBlocks ∧
      Staggered ⟨20, 10⟩ lappedTags lappedBlocks := by
  obtain ⟨blocks, batched, staggered⟩ := optimize_staggered ⟨20, 10⟩ (by decide) lappedTags_tables
  obtain rfl : lappedBlocks = blocks := Except.ok.inj (optimize_lappedTags.symm.trans batched)
  exact ⟨lappedTags_tables, optimize_lappedTags, staggered⟩

end Batching

end PointTable
