import Mathlib.Data.List.Pairwise
import Mathlib.Order.Bounds.Basic
import PointTable.Proofs.Batching

/-!
# How blocks divide the tags

Batching refuses tags of both tables. All others it sorts by address and cuts, whatever the limits
are. `StablySorts` says which order that is without naming a sorting method, and there is only one
such order; `Partition` says how the blocks lie over it: none is empty, each is the hull of its
tags, and they ascend.
-/

namespace PointTable.Batching

/-! ## The order of the tags -/

/-- Tags rearranged in ascending order of address, where tags of one address keep their order. -/
structure StablySorts (tags sorted : List Tag) : Prop where
  perm : sorted.Perm tags
  ascending : sorted.Pairwise fun left right => left.address ≤ right.address
  stable : ∀ address : Nat,
    sorted.filter (·.address = address) = tags.filter (·.address = address)

@[simp] theorem sortTags_filter (tags : List Tag) (address : Nat) :
    (sortTags tags).filter (·.address = address) = tags.filter (·.address = address) := by
  have level : (tags.filter (·.address = address)).Pairwise fun left right =>
      decide (left.address ≤ right.address) = true := by
    apply List.pairwise_of_forall_mem_list
    intro left leftMember right rightMember
    simp only [List.mem_filter, decide_eq_true_eq] at leftMember rightMember ⊢
    omega
  have kept : (tags.filter (·.address = address)).Sublist (sortTags tags) :=
    List.sublist_mergeSort address_trans address_total level List.filter_sublist
  have filtered := kept.filter (·.address = address)
  rw [List.filter_filter] at filtered
  simp only [Bool.and_self] at filtered
  have sameLength := ((sortTags_perm tags).filter (·.address = address)).length_eq
  exact (filtered.eq_of_length sameLength.symm).symm

theorem sortTags_stablySorts (tags : List Tag) : StablySorts tags (sortTags tags) :=
  ⟨sortTags_perm tags, sortTags_pairwise tags, sortTags_filter tags⟩

/-- The head of an ascending list comes no later than any tag of a list with the same tags at every
address. -/
theorem head_address_le {first tag : Tag} {later others : List Tag}
    (ascending : (first :: later).Pairwise fun left right => left.address ≤ right.address)
    (same : ∀ address : Nat,
      (first :: later).filter (·.address = address) = others.filter (·.address = address))
    (member : tag ∈ others) : first.address ≤ tag.address := by
  have found : tag ∈ others.filter (·.address = tag.address) := by
    simp [member]
  rw [← same, List.mem_filter, List.mem_cons] at found
  cases found.1 with
  | inl equal => exact Nat.le_of_eq (by rw [equal])
  | inr behind => exact (List.pairwise_cons.mp ascending).1 tag behind

/-- Ascending lists with the same tags, in the same order, at every address are equal. -/
theorem eq_of_filter_eq {left right : List Tag}
    (leftAscending : left.Pairwise fun before after => before.address ≤ after.address)
    (rightAscending : right.Pairwise fun before after => before.address ≤ after.address)
    (same : ∀ address : Nat,
      left.filter (·.address = address) = right.filter (·.address = address)) : left = right := by
  induction left generalizing right with
  | nil =>
      cases right with
      | nil => rfl
      | cons tag rest =>
          have atTag := same tag.address
          simp at atTag
  | cons first later ih =>
      cases right with
      | nil =>
          have atFirst := same first.address
          simp at atFirst
      | cons head rest =>
          have level : first.address = head.address := by
            apply Nat.le_antisymm
            · exact head_address_le leftAscending same List.mem_cons_self
            · exact head_address_le rightAscending (fun address => (same address).symm)
                List.mem_cons_self
          have atFirst := same first.address
          simp only [List.filter_cons, ← level, decide_true, ↓reduceIte, List.cons.injEq] at atFirst
          obtain rfl := atFirst.1
          congr 1
          apply ih leftAscending.of_cons rightAscending.of_cons
          intro address
          have atAddress := same address
          rw [List.filter_cons, List.filter_cons] at atAddress
          split at atAddress
          · exact List.tail_eq_of_cons_eq atAddress
          · exact atAddress

/-- There is one stable order, the one that sorting gives. -/
theorem StablySorts.eq_sortTags {tags sorted : List Tag} (sorts : StablySorts tags sorted) :
    sorted = sortTags tags := by
  apply eq_of_filter_eq sorts.ascending (sortTags_pairwise tags)
  intro address
  rw [sorts.stable, sortTags_filter]

/-! ## One table -/

/-- Both tables occur among the tags. -/
def Mixed (tags : List Tag) : Prop :=
  (∃ tag ∈ tags, tag.table = .coil) ∧ ∃ tag ∈ tags, tag.table = .holdingRegister

@[simp] theorem oneTable_eq_true_iff (tags : List Tag) :
    oneTable tags = true ↔ ∃ table, ∀ tag ∈ tags, tag.table = table := by
  cases tags with
  | nil => exact ⟨fun _ => ⟨.coil, by simp⟩, fun _ => rfl⟩
  | cons first later =>
      simp only [oneTable, List.all_eq_true, decide_eq_true_eq]
      constructor
      · intro alike
        refine ⟨first.table, ?_⟩
        rw [List.forall_mem_cons]
        exact ⟨rfl, alike⟩
      · rintro ⟨table, alike⟩ tag member
        rw [List.forall_mem_cons] at alike
        rw [alike.1, alike.2 tag member]

@[simp] theorem not_mixed_iff (tags : List Tag) :
    ¬Mixed tags ↔ ∃ table, ∀ tag ∈ tags, tag.table = table := by
  constructor
  · intro unmixed
    by_cases coils : ∃ tag ∈ tags, tag.table = .coil
    · refine ⟨.coil, ?_⟩
      intro tag member
      cases table : tag.table with
      | coil => rfl
      | holdingRegister => exact absurd ⟨coils, tag, member, table⟩ unmixed
    · refine ⟨.holdingRegister, ?_⟩
      intro tag member
      cases table : tag.table with
      | coil => exact absurd ⟨tag, member, table⟩ coils
      | holdingRegister => rfl
  · rintro ⟨table, alike⟩ ⟨⟨coil, coilMember, isCoil⟩, register, registerMember, isRegister⟩
    rw [alike coil coilMember] at isCoil
    rw [alike register registerMember, isCoil] at isRegister
    cases isRegister

theorem optimize_of_table (limits : Limits) {table : TableKind} {tags : List Tag}
    (tables : ∀ tag ∈ tags, tag.table = table) :
    optimize limits tags = .ok (batch limits tags) := by
  rw [optimize, if_pos ((oneTable_eq_true_iff tags).mpr ⟨table, tables⟩)]

@[simp] theorem optimize_eq_error_iff (limits : Limits) (tags : List Tag) :
    optimize limits tags = .error .mixedTables ↔ Mixed tags := by
  rw [← not_iff_not, not_mixed_iff, ← oneTable_eq_true_iff, optimize]
  cases oneTable tags <;> simp

/-! ## Blocks -/

/-- How blocks lie over the tags they are to read. -/
structure Partition (tags : List Tag) (blocks : List Block) : Prop where
  /-- Read one after the other, the blocks hold the tags in their stable order. -/
  tags : StablySorts tags (blocks.flatMap Block.tags)
  filled : ∀ block ∈ blocks, block.tags ≠ []
  start : ∀ block ∈ blocks,
    IsLeast {address | ∃ tag ∈ block.tags, (tag.address : Int) = address} block.start
  length : ∀ block ∈ blocks,
    IsGreatest {reach | ∃ tag ∈ block.tags, (tag.stop : Int) - block.start = reach} block.length
  inside : ∀ block ∈ blocks, ∀ tag ∈ block.tags,
    0 ≤ block.offsetOf tag ∧ block.offsetOf tag + tag.registerLength ≤ block.length
  ascending : blocks.Pairwise fun left right => left.start ≤ right.start

/-- Blocks start in the order of their tags, since each starts with one of them. -/
theorem batch_starts_ascending (limits : Limits) {table : TableKind} {tags : List Tag}
    (tables : ∀ tag ∈ tags, tag.table = table) :
    (batch limits tags).Pairwise fun left right => left.start ≤ right.start := by
  have sorted := sortTags_pairwise tags
  rw [← batch_flatMap_tags limits, List.pairwise_flatMap] at sorted
  apply sorted.2.imp_of_mem
  intro left right leftMember rightMember ordered
  obtain ⟨first, firstMember, leftStart⟩ := (batch_spans limits tables left leftMember).1.starts
  obtain ⟨next, nextMember, rightStart⟩ := (batch_spans limits tables right rightMember).1.starts
  rw [← leftStart, ← rightStart]
  exact Int.ofNat_le.mpr (ordered first firstMember next nextMember)

theorem batch_partition (limits : Limits) {table : TableKind} {tags : List Tag}
    (tables : ∀ tag ∈ tags, tag.table = table) : Partition tags (batch limits tags) := by
  have spans : ∀ block ∈ batch limits tags, block.Spans := fun block member =>
    (batch_spans limits tables block member).1
  constructor
  · rw [batch_flatMap_tags]
    exact sortTags_stablySorts tags
  · intro block member empty
    obtain ⟨tag, tagMember, _⟩ := (spans block member).starts
    rw [empty] at tagMember
    cases tagMember
  · intro block member
    refine ⟨(spans block member).starts, ?_⟩
    rintro _ ⟨tag, tagMember, rfl⟩
    exact (spans block member).start_le tag tagMember
  · intro block member
    constructor
    · obtain ⟨tag, tagMember, stops⟩ := (spans block member).stops
      refine ⟨tag, tagMember, ?_⟩
      rw [stops, Block.stop]
      omega
    · rintro _ ⟨tag, tagMember, rfl⟩
      have stops := (spans block member).le_stop tag tagMember
      rw [Block.stop] at stops
      omega
  · intro block member tag tagMember
    have starts := (spans block member).start_le tag tagMember
    have stops := (spans block member).le_stop tag tagMember
    simp only [Block.stop, Tag.stop, Block.offsetOf] at stops ⊢
    omega
  · exact batch_starts_ascending limits tables

/-- Batching fails exactly on tags of both tables, and divides all others. -/
theorem optimize_partition (limits : Limits) (tags : List Tag) :
    (optimize limits tags = .error .mixedTables ↔ Mixed tags) ∧
      (¬Mixed tags → ∃ blocks, optimize limits tags = .ok blocks ∧ Partition tags blocks) := by
  refine ⟨optimize_eq_error_iff limits tags, ?_⟩
  intro unmixed
  obtain ⟨table, tables⟩ := (not_mixed_iff tags).mp unmixed
  exact ⟨batch limits tags, optimize_of_table limits tables, batch_partition limits tables⟩

/-! ## A crowded table

A tag wider than the largest read with two tags inside it that share an address, given out of
order. -/

/-- A text of one register and some more. -/
def textTag (name : String) (address more : Nat) : Tag :=
  ⟨name, name, address, more + 1, ⟨.string, false⟩, 1, Nat.succ_pos more⟩

def crowdedTags : List Tag := [
  textTag "Tail" 160 0, textTag "Wide" 2 149, textTag "Inner" 5 0, textTag "First" 0 0,
  textTag "Twin" 5 2]

/-- Their blocks if a hole of twenty and a span of a hundred registers are read. -/
def crowdedBlocks : List Block := [
  ⟨.holdingRegister, 0, 1, [textTag "First" 0 0]⟩,
  ⟨.holdingRegister, 2, 150, [textTag "Wide" 2 149]⟩,
  ⟨.holdingRegister, 5, 3, [textTag "Inner" 5 0, textTag "Twin" 5 2]⟩,
  ⟨.holdingRegister, 160, 1, [textTag "Tail" 160 0]⟩]

theorem crowdedTags_tables : ∀ tag ∈ crowdedTags, tag.table = .holdingRegister := by
  decide

theorem optimize_crowdedTags : optimize ⟨20, 100⟩ crowdedTags = .ok crowdedBlocks := by
  have sorted : sortTags crowdedTags = [textTag "First" 0 0, textTag "Wide" 2 149,
      textTag "Inner" 5 0, textTag "Twin" 5 2, textTag "Tail" 160 0] := by
    simp [sortTags, crowdedTags, textTag, List.mergeSort, List.MergeSort.Internal.splitInTwo]
  rw [optimize_of_table ⟨20, 100⟩ crowdedTags_tables, batch, sorted]
  exact congrArg Except.ok (by decide)

theorem crowdedTags_partition :
    ¬Mixed crowdedTags ∧ optimize ⟨20, 100⟩ crowdedTags = .ok crowdedBlocks ∧
      Partition crowdedTags crowdedBlocks := by
  have unmixed : ¬Mixed crowdedTags := (not_mixed_iff _).mpr ⟨_, crowdedTags_tables⟩
  obtain ⟨blocks, batched, partition⟩ := (optimize_partition ⟨20, 100⟩ crowdedTags).2 unmixed
  obtain rfl : crowdedBlocks = blocks := Except.ok.inj (optimize_crowdedTags.symm.trans batched)
  exact ⟨unmixed, optimize_crowdedTags, partition⟩

end PointTable.Batching
