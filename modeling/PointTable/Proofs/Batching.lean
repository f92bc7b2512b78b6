import Mathlib.Data.List.Perm.Basic
import PointTable.Batching

/-!
# What batching reads

Cutting drops no tag and takes none twice, whatever the limits are. A block that has grown reaches
from its first tag to the largest end of its tags. Sorting puts a tag first before which no other
starts, so every block of a plan spans its tags: its stretch is exactly the hull of theirs.
-/

namespace PointTable

namespace Batching

/-- The largest end of some tags. -/
def reach : List Tag → Nat
  | [] => 0
  | tag :: rest => max tag.stop (reach rest)

@[simp] theorem reach_append (left right : List Tag) :
    reach (left ++ right) = max (reach left) (reach right) := by
  induction left with
  | nil => simp [reach]
  | cons tag rest ih => rw [List.cons_append, reach, reach, ih, Nat.max_assoc]

theorem stop_le_reach {tag : Tag} {tags : List Tag} (member : tag ∈ tags) :
    tag.stop ≤ reach tags := by
  obtain ⟨before, behind, rfl⟩ := List.append_of_mem member
  rw [reach_append, reach]
  omega

theorem exists_stop_eq_reach {tags : List Tag} (filled : tags ≠ []) :
    ∃ tag ∈ tags, tag.stop = reach tags := by
  induction tags with
  | nil => exact absurd rfl filled
  | cons tag rest ih =>
      rcases Nat.le_total (reach rest) tag.stop with nearer | farther
      · exact ⟨tag, List.mem_cons_self, (Nat.max_eq_left nearer).symm⟩
      · have others : rest ≠ [] := by
          rintro rfl
          have positive := tag.registerLength_pos
          simp only [reach, Tag.stop] at farther
          omega
        obtain ⟨last, member, stops⟩ := ih others
        exact ⟨last, List.mem_cons_of_mem _ member, by rw [reach, Nat.max_eq_right farther, stops]⟩

end Batching

namespace Block

open Batching

variable {limits : Limits} {block : Block} {tag : Tag} {run : List Tag}

/-- A block reaches from the first tag of a run, in whose table it lies, to the largest end. -/
structure Covers (block : Block) (run : List Tag) : Prop where
  opens : ∃ first later, run = first :: later ∧ block.table = first.table ∧
    block.start = first.address
  stop : block.stop = reach run

theorem single_covers (tag : Tag) : (single tag).Covers [tag] :=
  ⟨⟨tag, [], rfl, rfl, rfl⟩, by simp [reach]⟩

theorem Covers.join (covers : block.Covers run) (tag : Tag) :
    (block.join tag).Covers (run ++ [tag]) := by
  constructor
  · obtain ⟨first, later, rfl, table, starts⟩ := covers.opens
    exact ⟨first, later ++ [tag], rfl, table, starts⟩
  · rw [join_stop, covers.stop, reach_append, reach, reach]
    omega

theorem Covers.le_stop (covers : block.Covers run) (member : tag ∈ run) :
    (tag.stop : Int) ≤ block.stop := by
  rw [covers.stop]
  exact Int.ofNat_le.mpr (stop_le_reach member)

theorem Covers.stops (covers : block.Covers run) :
    ∃ tag ∈ run, (tag.stop : Int) = block.stop := by
  obtain ⟨first, later, rfl, _⟩ := covers.opens
  obtain ⟨tag, member, stops⟩ := exists_stop_eq_reach (List.cons_ne_nil first later)
  exact ⟨tag, member, by rw [stops, covers.stop]⟩

/-- What can become of a single tag by joining tags that the limits admit. -/
inductive Grown (limits : Limits) : Block → Prop
  | single (tag : Tag) : Grown limits (Block.single tag)
  | join {block : Block} {tag : Tag} (grown : Grown limits block)
      (admitted : block.admits limits tag = true) : Grown limits (block.join tag)

theorem Grown.covers (grown : block.Grown limits) : block.Covers block.tags := by
  induction grown with
  | single tag => exact single_covers tag
  | join grown admitted ih => exact ih.join _

/-- The stretch of a block is the hull of its tags, which all lie in its table. -/
structure Spans (block : Block) : Prop where
  table : ∀ tag ∈ block.tags, tag.table = block.table
  start_le : ∀ tag ∈ block.tags, block.start ≤ tag.address
  le_stop : ∀ tag ∈ block.tags, (tag.stop : Int) ≤ block.stop
  starts : ∃ tag ∈ block.tags, (tag.address : Int) = block.start
  stops : ∃ tag ∈ block.tags, (tag.stop : Int) = block.stop

theorem Grown.spans {table : TableKind} (grown : block.Grown limits)
    (tables : ∀ tag ∈ block.tags, tag.table = table)
    (sorted : block.tags.Pairwise fun left right => left.address ≤ right.address) :
    block.Spans ∧ block.table = table := by
  obtain ⟨first, later, tagsEq, firstTable, starts⟩ := grown.covers.opens
  have member : first ∈ block.tags := by simp [tagsEq]
  have blockTable : block.table = table := firstTable.trans (tables first member)
  refine ⟨⟨?_, ?_, fun tag => grown.covers.le_stop, ⟨first, member, starts.symm⟩,
    grown.covers.stops⟩, blockTable⟩
  · intro tag inside
    exact (tables tag inside).trans blockTable.symm
  · rw [tagsEq, List.pairwise_cons] at sorted
    rw [tagsEq, List.forall_mem_cons, starts]
    exact ⟨Int.le_refl _, fun tag behind => Int.ofNat_le.mpr (sorted.1 tag behind)⟩

end Block

namespace Batching

/-! ## Sorting -/

theorem sortTags_perm (tags : List Tag) : (sortTags tags).Perm tags :=
  List.mergeSort_perm tags _

theorem address_trans (a b c : Tag) (first : decide (a.address ≤ b.address) = true)
    (second : decide (b.address ≤ c.address) = true) : decide (a.address ≤ c.address) = true := by
  rw [decide_eq_true_eq] at first second ⊢
  exact Nat.le_trans first second

theorem address_total (a b : Tag) :
    (decide (a.address ≤ b.address) || decide (b.address ≤ a.address)) = true := by
  rw [Bool.or_eq_true, decide_eq_true_eq, decide_eq_true_eq]
  exact Nat.le_total a.address b.address

theorem sortTags_pairwise (tags : List Tag) :
    (sortTags tags).Pairwise fun left right => left.address ≤ right.address := by
  simpa [sortTags] using List.pairwise_mergeSort address_trans address_total tags

/-! ## Cutting -/

theorem grow_grown (limits : Limits) {block : Block} (grown : block.Grown limits)
    (tags : List Tag) : ∀ part ∈ grow limits block tags, part.Grown limits := by
  induction tags generalizing block with
  | nil =>
      intro part member
      obtain rfl := List.mem_singleton.mp member
      exact grown
  | cons tag rest ih =>
      unfold grow
      split
      · next admitted => exact ih (.join grown admitted)
      · rw [List.forall_mem_cons]
        exact ⟨grown, ih (.single tag)⟩

/-! ## Batches and plans -/

theorem batch_flatMap_tags_perm (limits : Limits) (tags : List Tag) :
    ((batch limits tags).flatMap Block.tags).Perm tags := by
  rw [batch_flatMap_tags]
  exact sortTags_perm tags

theorem mem_of_mem_batch {limits : Limits} {tags : List Tag} {block : Block} {tag : Tag}
    (member : block ∈ batch limits tags) (inside : tag ∈ block.tags) : tag ∈ tags :=
  (batch_flatMap_tags_perm limits tags).mem_iff.mp (List.mem_flatMap.mpr ⟨block, member, inside⟩)

theorem batch_grown (limits : Limits) (tags : List Tag) :
    ∀ block ∈ batch limits tags, block.Grown limits := by
  unfold batch
  cases sortTags tags with
  | nil => simp [cut]
  | cons first later => exact grow_grown limits (.single first) later

/-- The blocks of one table's tags are of that table and span their tags. -/
theorem batch_spans (limits : Limits) {table : TableKind} {tags : List Tag}
    (tables : ∀ tag ∈ tags, tag.table = table) :
    ∀ block ∈ batch limits tags, block.Spans ∧ block.table = table := by
  have sorted := sortTags_pairwise tags
  rw [← batch_flatMap_tags limits, List.pairwise_flatMap] at sorted
  intro block member
  apply (batch_grown limits tags block member).spans _ (sorted.1 block member)
  intro tag inside
  exact tables tag (mem_of_mem_batch member inside)

/-- Leaving out tables without tags leaves out no block. -/
@[simp] theorem plan_flatMap_blocks (limits : Limits) (tags : List Tag) :
    (plan limits tags).flatMap Prod.snd =
      TableKind.all.flatMap fun table => batch limits (tagsOf table tags) := by
  rw [plan, List.flatMap_map]
  induction TableKind.all with
  | nil => rfl
  | cons table rest ih =>
      rw [List.filter_cons, List.flatMap_cons]
      split
      · rw [List.flatMap_cons, ih]
      · next without =>
          have empty : tagsOf table tags = [] := by simpa using without
          rw [ih, empty, batch_nil, List.nil_append]

theorem tagsOf_flatMap_perm (tags : List Tag) :
    (TableKind.all.flatMap fun table => tagsOf table tags).Perm tags := by
  have others : (tags.filter fun tag => tag.table = .holdingRegister) =
      tags.filter fun tag => !decide (tag.table = .coil) := by
    apply List.filter_congr
    intro tag _
    cases tag.table <;> rfl
  simp only [TableKind.all, List.flatMap_cons, List.flatMap_nil, List.append_nil, tagsOf, others]
  exact List.filter_append_perm _ tags

/-- The blocks of a plan read every tag once. -/
theorem plan_tags_perm (limits : Limits) (tags : List Tag) :
    (((plan limits tags).flatMap Prod.snd).flatMap Block.tags).Perm tags := by
  rw [plan_flatMap_blocks, List.flatMap_assoc]
  refine List.Perm.trans ?_ (tagsOf_flatMap_perm tags)
  exact List.Perm.flatMap_left _ fun table _ => batch_flatMap_tags_perm limits _

theorem plan_spans (limits : Limits) (tags : List Tag) :
    ∀ block ∈ (plan limits tags).flatMap Prod.snd, block.Spans := by
  intro block member
  rw [plan_flatMap_blocks, List.mem_flatMap] at member
  obtain ⟨table, _, blockMember⟩ := member
  have tables : ∀ tag ∈ tagsOf table tags, tag.table = table := by
    simp [tagsOf]
  exact (batch_spans limits tables block blockMember).1

end Batching

end PointTable
