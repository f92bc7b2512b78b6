import PointTable.Proofs.Partition

/-!
# The order in which tags are given

A plan keeps the tables apart and sorts the tags of each by address. Of the order in which tags are
given this leaves only the order of ties, that is of tags in one table at one address, and the
blocks show that order. So two orders of the same tags give one plan exactly when their ties agree.
-/

namespace PointTable.Batching

/-! ## The blocks of each table -/

/-- What a plan of some tags holds: the tables that occur among them, coils first, and under each
the blocks of its tags, which batching never refuses. -/
structure Planned (limits : Limits) (tags : List Tag) (entries : List (TableKind × List Block)) :
    Prop where
  tables : entries.map Prod.fst = TableKind.all.filter fun table => ∃ tag ∈ tags, tag.table = table
  blocks : ∀ entry ∈ entries, optimize limits (tagsOf entry.1 tags) = .ok entry.2

theorem tagsOf_isEmpty (table : TableKind) (tags : List Tag) :
    (!(tagsOf table tags).isEmpty) = decide (∃ tag ∈ tags, tag.table = table) := by
  rw [Bool.eq_iff_iff]
  simp [tagsOf]

@[simp] theorem optimize_tagsOf (limits : Limits) (table : TableKind) (tags : List Tag) :
    optimize limits (tagsOf table tags) = .ok (batch limits (tagsOf table tags)) := by
  have tables : ∀ tag ∈ tagsOf table tags, tag.table = table := by
    simp [tagsOf]
  exact optimize_of_table limits tables

theorem plan_planned (limits : Limits) (tags : List Tag) :
    Planned limits tags (plan limits tags) := by
  constructor
  · simp only [plan, List.map_map, Function.comp_def, List.map_id', tagsOf_isEmpty]
  · intro entry member
    obtain ⟨table, _, rfl⟩ := List.mem_map.mp member
    exact optimize_tagsOf limits table tags

/-- The blocks of a table are found in the plan; a table without tags has none. -/
theorem plan_filter (limits : Limits) (table : TableKind) (tags : List Tag) :
    ((plan limits tags).filter fun entry => entry.1 = table).flatMap Prod.snd =
      batch limits (tagsOf table tags) := by
  have alone : (TableKind.all.filter fun other => other = table) = [table] := by
    cases table <;> rfl
  rw [plan, List.filter_map, List.flatMap_map, Function.comp_def, List.filter_comm, alone,
    List.filter_singleton]
  cases occurs : (tagsOf table tags).isEmpty with
  | true => simp [List.isEmpty_iff.mp occurs]
  | false => simp

/-! ## Ties -/

/-- Tags in one table at one address come in the same order in both lists. -/
def SameTies (tags others : List Tag) : Prop :=
  ∀ (table : TableKind) (address : Nat),
    (tags.filter fun tag => tag.table = table ∧ tag.address = address) =
      others.filter fun tag => tag.table = table ∧ tag.address = address

/-- Only the places of the tags themselves have to be compared, since elsewhere there are none. -/
theorem sameTies_iff (tags others : List Tag) :
    SameTies tags others ↔ ∀ place ∈ tags ++ others,
      (tags.filter fun tag => tag.table = place.table ∧ tag.address = place.address) =
        others.filter fun tag => tag.table = place.table ∧ tag.address = place.address := by
  constructor
  · intro ties place _
    exact ties place.table place.address
  · intro ties table address
    by_cases taken : ∃ place ∈ tags ++ others, place.table = table ∧ place.address = address
    · obtain ⟨place, member, rfl, rfl⟩ := taken
      exact ties place member
    · have free : ∀ tag ∈ tags ++ others, ¬(tag.table = table ∧ tag.address = address) :=
        fun tag member found => taken ⟨tag, member, found⟩
      rw [List.forall_mem_append] at free
      rw [List.filter_eq_nil_iff.mpr (by simpa using free.1),
        List.filter_eq_nil_iff.mpr (by simpa using free.2)]

instance (tags others : List Tag) : Decidable (SameTies tags others) :=
  decidable_of_iff _ (sameTies_iff tags others).symm

@[simp] theorem filter_tagsOf (table : TableKind) (address : Nat) (tags : List Tag) :
    (tagsOf table tags).filter (·.address = address) =
      tags.filter fun tag => tag.table = table ∧ tag.address = address := by
  rw [tagsOf, List.filter_filter]
  apply List.filter_congr
  intro tag _
  rw [Bool.and_comm, Bool.decide_and]

/-- Sorting leaves the order of ties and nothing else. -/
theorem sortTags_tagsOf_eq_iff (tags others : List Tag) :
    (∀ table, sortTags (tagsOf table tags) = sortTags (tagsOf table others)) ↔
      SameTies tags others := by
  constructor
  · intro sorted table address
    rw [← filter_tagsOf, ← filter_tagsOf, ← sortTags_filter, sorted, sortTags_filter]
  · intro ties table
    apply eq_of_filter_eq (sortTags_pairwise _) (sortTags_pairwise _)
    intro address
    rw [sortTags_filter, sortTags_filter, filter_tagsOf, filter_tagsOf, ties]

theorem sortTags_eq_of_batch_eq (limits : Limits) {tags others : List Tag}
    (same : batch limits tags = batch limits others) : sortTags tags = sortTags others := by
  rw [← batch_flatMap_tags limits tags, same, batch_flatMap_tags]

/-- Two orders of the same tags give one plan exactly when they agree on ties. -/
theorem plan_eq_iff_sameTies (limits : Limits) {tags others : List Tag}
    (perm : tags.Perm others) :
    Planned limits tags (plan limits tags) ∧ Planned limits others (plan limits others) ∧
      (plan limits tags = plan limits others ↔ SameTies tags others) := by
  refine ⟨plan_planned limits tags, plan_planned limits others, ?_⟩
  rw [← sortTags_tagsOf_eq_iff]
  constructor
  · intro same table
    apply sortTags_eq_of_batch_eq limits
    rw [← plan_filter, same, plan_filter]
  · intro sorted
    have occurring : ∀ table : TableKind,
        (∃ tag ∈ tags, tag.table = table) ↔ ∃ tag ∈ others, tag.table = table := by
      intro table
      simp only [perm.mem_iff]
    simp only [plan, tagsOf_isEmpty, occurring, batch, sorted]

/-! ## Interleaved tables

Coils and registers at the same addresses, of which two registers are tied. -/

/-- A flag of one coil. -/
def flagTag (name : String) (address : Nat) : Tag :=
  ⟨name, name, address, 1, ⟨.bool, false⟩, 1, Nat.succ_pos 0⟩

/-- Registers and coils one after the other. -/
def interleavedTags : List Tag := [
  textTag "Long" 5 19, flagTag "Run" 9, textTag "Low" 0 0, textTag "Short" 5 0, flagTag "Stop" 5]

/-- The same tags by kind, with the tied ones in the same order. -/
def regroupedTags : List Tag := [
  flagTag "Stop" 5, flagTag "Run" 9, textTag "Long" 5 19, textTag "Short" 5 0, textTag "Low" 0 0]

/-- The same tags with the tied ones swapped. -/
def swappedTags : List Tag := [
  textTag "Short" 5 0, flagTag "Run" 9, textTag "Low" 0 0, textTag "Long" 5 19, flagTag "Stop" 5]

/-- Regrouping the tags keeps their plan, and swapping the tied ones does not. -/
theorem interleavedTags_planned :
    interleavedTags.Perm regroupedTags ∧ SameTies interleavedTags regroupedTags ∧
      plan ⟨20, 10⟩ interleavedTags = plan ⟨20, 10⟩ regroupedTags ∧
      interleavedTags.Perm swappedTags ∧ ¬SameTies interleavedTags swappedTags ∧
      plan ⟨20, 10⟩ interleavedTags ≠ plan ⟨20, 10⟩ swappedTags := by
  have regrouped : interleavedTags.Perm regroupedTags := by decide
  have swapped : interleavedTags.Perm swappedTags := by decide
  have ties : SameTies interleavedTags regroupedTags := by decide
  have untied : ¬SameTies interleavedTags swappedTags := by decide
  refine ⟨regrouped, ties, ?_, swapped, untied, ?_⟩
  · exact (plan_eq_iff_sameTies ⟨20, 10⟩ regrouped).2.2.mpr ties
  · intro same
    exact untied ((plan_eq_iff_sameTies ⟨20, 10⟩ swapped).2.2.mp same)

end PointTable.Batching
