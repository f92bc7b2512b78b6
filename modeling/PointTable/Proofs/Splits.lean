import Mathlib.Data.List.Chain
import PointTable.Proofs.Partition

/-!
# Where blocks are split

A block grows only within the limits, from a single tag that is not asked whether it keeps them.
So a block beyond the span is one tag that alone is too wide, and since a block holds the whole of
each of its tags, such a tag never shares a block. Where a block ends, the limits refuse the tag
that opens the next one.
-/

namespace PointTable

namespace Block

variable {limits : Limits} {block : Block} {tag : Tag}

theorem admits_ne_true_iff :
    ¬block.admits limits tag = true ↔
      limits.maxGap < tag.address - block.stop ∨
        limits.maxSpan < max block.stop tag.stop - block.start := by
  rw [admits_eq_true_iff, not_and_or, Int.not_le, Int.not_le]

theorem length_le_join_length (block : Block) (tag : Tag) :
    block.length ≤ (block.join tag).length :=
  Int.le_max_left _ _

theorem join_length_le (admitted : block.admits limits tag = true) :
    (block.join tag).length ≤ limits.maxSpan := by
  rw [admits_eq_true_iff, ← grownLength_eq] at admitted
  exact admitted.2

/-- Joining keeps the span, so a block beyond it is still the tag that it began with. -/
theorem Grown.eq_single (grown : block.Grown limits) (long : limits.maxSpan < block.length) :
    ∃ tag, block = Block.single tag := by
  cases grown with
  | single tag => exact ⟨tag, rfl⟩
  | join grown admitted => exact absurd (join_length_le admitted) (Int.not_le.mpr long)

end Block

namespace Batching

/-! ## Neighbours -/

/-- The limits keep the first tag of the next block out of a block: it lies too far behind, or the
block would become too long with it. -/
def Forced (limits : Limits) (block next : Block) : Prop :=
  ∃ tag later, next.tags = tag :: later ∧
    (limits.maxGap < tag.address - block.stop ∨
      limits.maxSpan < max block.stop tag.stop - block.start)

/-- The first block that grows from a block keeps its tags in front. -/
theorem exists_grow_eq_cons (limits : Limits) (block : Block) (tags : List Tag) :
    ∃ first others more, grow limits block tags = first :: others ∧
      first.tags = block.tags ++ more := by
  induction tags generalizing block with
  | nil => exact ⟨block, [], [], rfl, by simp⟩
  | cons tag rest ih =>
      unfold grow
      split
      · obtain ⟨first, others, more, grown, tagsEq⟩ := ih (block.join tag)
        refine ⟨first, others, tag :: more, grown, ?_⟩
        rw [tagsEq, Block.join, List.append_assoc, List.singleton_append]
      · exact ⟨block, _, [], rfl, by simp⟩

theorem grow_isChain (limits : Limits) (block : Block) (tags : List Tag) :
    (grow limits block tags).IsChain (Forced limits) := by
  induction tags generalizing block with
  | nil => exact .singleton block
  | cons tag rest ih =>
      unfold grow
      split
      · exact ih (block.join tag)
      · next refused =>
          obtain ⟨next, others, more, grown, tagsEq⟩ :=
            exists_grow_eq_cons limits (Block.single tag) rest
          have chained := ih (Block.single tag)
          rw [grown] at chained ⊢
          rw [List.isChain_cons_cons]
          exact ⟨⟨tag, more, tagsEq, Block.admits_ne_true_iff.mp refused⟩, chained⟩

theorem batch_isChain (limits : Limits) (tags : List Tag) :
    (batch limits tags).IsChain (Forced limits) := by
  unfold batch
  cases sortTags tags with
  | nil => exact .nil
  | cons first later => exact grow_isChain limits (Block.single first) later

/-! ## Warnings -/

end Batching

end PointTable
