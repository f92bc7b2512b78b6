import PointTable.Proofs.Splits

/-!
# Holes in blocks

A request reads the addresses between its tags along with the tags. Joining compares a tag with the
end of the block only, but the end is where the tags of the block reach, and one of them occupies
the address before it. So a hole cannot run across the end that a block had when it took a tag in:
it lay there before, or it lies between that end and the tag, where the limit bounds it.
-/

namespace PointTable

/-- A tag lies over an address. -/
def Tag.Occupies (tag : Tag) (address : Int) : Prop :=
  tag.address ≤ address ∧ address < tag.stop

theorem Tag.occupies_address (tag : Tag) : tag.Occupies tag.address := by
  have positive := tag.registerLength_pos
  refine ⟨Int.le_refl _, ?_⟩
  rw [Tag.stop]
  omega

theorem Tag.occupies_last (tag : Tag) : tag.Occupies (tag.stop - 1) := by
  have positive := tag.registerLength_pos
  rw [Tag.Occupies, Tag.stop]
  omega

namespace Block

variable {limits : Limits} {block : Block}

/-- No tag of a block lies over any of `count` addresses from `first` on, all of which are read. -/
structure Hole (block : Block) (first : Int) (count : Nat) : Prop where
  start_le : block.start ≤ first
  le_stop : first + count ≤ block.stop
  free : ∀ index < count, ∀ tag ∈ block.tags, ¬tag.Occupies (first + index)

theorem Hole.not_occupies {first : Int} {count : Nat} (hole : block.Hole first count)
    {address : Int} (lower : first ≤ address) (upper : address < first + count) {tag : Tag}
    (member : tag ∈ block.tags) : ¬tag.Occupies address := by
  have place : first + ((address - first).toNat : Int) = address := by omega
  rw [← place]
  exact hole.free (address - first).toNat (by omega) tag member

/-- A hole of a block that has taken a tag in was there before, or lies between the end that the
block had and the tag. -/
theorem Hole.of_join {tag : Tag} {first : Int} {count : Nat}
    (stops : ∃ last ∈ block.tags, (last.stop : Int) = block.stop)
    (hole : (block.join tag).Hole first count) (filled : 0 < count) :
    block.Hole first count ∨ block.stop ≤ first ∧ first + count ≤ tag.address := by
  have mem_join : ∀ other ∈ block.tags, other ∈ (block.join tag).tags := by
    intro other member
    simp [Block.join, member]
  have tagMember : tag ∈ (block.join tag).tags := by simp [Block.join]
  have fits := hole.le_stop
  rw [join_stop] at fits
  obtain ⟨last, lastMember, reaches⟩ := stops
  by_cases before : first + count ≤ block.stop
  · exact .inl ⟨hole.start_le, before, fun index inside other member =>
      hole.free index inside other (mem_join other member)⟩
  · -- The address before the old end is occupied, so the hole begins behind it.
    have behind : block.stop ≤ first := by
      by_contra across
      refine hole.not_occupies ?_ ?_ (mem_join last lastMember) last.occupies_last
      · omega
      · omega
    have inFront : first + count ≤ tag.address := by
      by_contra beyond
      have outside :=
        hole.not_occupies (show first ≤ first + count - 1 by omega) (by omega) tagMember
      rw [Tag.Occupies] at outside
      omega
    exact .inr ⟨behind, inFront⟩

/-- No hole of a block that has grown is longer than the limit. -/
theorem Grown.hole_le (grown : block.Grown limits) {first : Int} {count : Nat} (filled : 0 < count)
    (hole : block.Hole first count) : (count : Int) ≤ limits.maxGap := by
  induction grown with
  | single tag =>
      have starts := hole.start_le
      have stops := hole.le_stop
      rw [single_stop] at stops
      have outside := hole.not_occupies (Int.le_refl first) (by omega) (List.mem_singleton_self tag)
      refine absurd ⟨starts, ?_⟩ outside
      omega
  | join grown admitted ih =>
      rcases hole.of_join grown.covers.stops filled with older | ⟨behind, inFront⟩
      · exact ih older
      · have near := (admits_eq_true_iff.mp admitted).1
        omega

/-- A block reads no long hole: its first and its last address are occupied by its tags, and free
addresses between them are not more than the limit in a row. -/
structure Compact (limits : Limits) (block : Block) : Prop where
  first : ∃ tag ∈ block.tags, tag.Occupies block.start
  last : ∃ tag ∈ block.tags, tag.Occupies (block.stop - 1)
  holes : ∀ (first : Int) (count : Nat), block.Hole first count → (count : Int) ≤ limits.maxGap

theorem Grown.compact (grown : block.Grown limits) (spans : block.Spans)
    (nonneg : 0 ≤ limits.maxGap) : block.Compact limits := by
  constructor
  · obtain ⟨tag, member, starts⟩ := spans.starts
    exact ⟨tag, member, starts ▸ tag.occupies_address⟩
  · obtain ⟨tag, member, stops⟩ := spans.stops
    exact ⟨tag, member, stops ▸ tag.occupies_last⟩
  · intro first count hole
    rcases Nat.eq_zero_or_pos count with rfl | filled
    · exact nonneg
    · exact grown.hole_le filled hole

end Block

namespace Batching

/-- No block that reads tags of one table reads a long hole. -/
theorem optimize_compact (limits : Limits) (nonneg : 0 ≤ limits.maxGap) {table : TableKind}
    {tags : List Tag} (tables : ∀ tag ∈ tags, tag.table = table) :
    ∃ blocks, optimize limits tags = .ok blocks ∧ ∀ block ∈ blocks, block.Compact limits := by
  refine ⟨batch limits tags, optimize_of_table limits tables, ?_⟩
  intro block member
  exact (batch_grown limits tags block member).compact (batch_spans limits tables block member).1
    nonneg

/-! ## Nested tags

The longest tag holds the next one, so the hole before the last tag begins where the longest
ends. -/

/-- A long tag, one inside it and one behind it. -/
def nestedTags : List Tag := [textTag "Last" 12 1, textTag "Outer" 0 8, textTag "Inner" 2 0]

/-- Their block if a hole of three registers is read. -/
def nestedBlocks : List Block := [
  ⟨.holdingRegister, 0, 14, [textTag "Outer" 0 8, textTag "Inner" 2 0, textTag "Last" 12 1]⟩]

theorem nestedTags_compact :
    (∀ tag ∈ nestedTags, tag.table = .holdingRegister) ∧
      optimize ⟨3, 100⟩ nestedTags = .ok nestedBlocks ∧
      (∀ block ∈ nestedBlocks, block.Hole 9 3) ∧
      ∀ block ∈ nestedBlocks, block.Compact ⟨3, 100⟩ := by
  have tables : ∀ tag ∈ nestedTags, tag.table = .holdingRegister := by decide
  have sorted : sortTags nestedTags =
      [textTag "Outer" 0 8, textTag "Inner" 2 0, textTag "Last" 12 1] := by
    simp [sortTags, nestedTags, textTag, List.mergeSort, List.MergeSort.Internal.splitInTwo]
  have evaluated : optimize ⟨3, 100⟩ nestedTags = .ok nestedBlocks := by
    rw [optimize_of_table ⟨3, 100⟩ tables, batch, sorted]
    exact congrArg Except.ok (by decide)
  have hole : ∀ block ∈ nestedBlocks, block.Hole 9 3 := by
    intro block member
    obtain rfl := List.mem_singleton.mp member
    refine ⟨by decide, by decide, ?_⟩
    simp only [Tag.Occupies]
    decide
  obtain ⟨blocks, batched, compact⟩ := optimize_compact ⟨3, 100⟩ (by decide) tables
  obtain rfl : nestedBlocks = blocks := Except.ok.inj (evaluated.symm.trans batched)
  exact ⟨tables, evaluated, hole, compact⟩

end Batching

end PointTable
