import PointTable.Program
import PointTable.Proofs.Batching
import PointTable.Proofs.Ordered
import PointTable.Proofs.Units

/-!
# Built programs

A build is a chain of stages, and a program that comes out of it holds the result of each. The
requests of all units are filed in one mapping; with distinct sheet names no two units share a key
there, so a unit finds exactly its own plan again.
-/

namespace PointTable

namespace Program

/-- A program holds what every stage of its build gives. -/
structure Built (tables : Tables) (options : Options) (program : Program) : Prop where
  options_eq : program.options = options
  validated : Validation.validate tables options.maxModules = .ok program.config
  units : SheetUnit.ofConfig program.config = .ok program.units
  tasks : Task.ofUnits options program.units = .ok program.tasks
  requestBlocks : program.requestBlocks = blocksOf options.limits program.units
  storage : program.storage = StorageTable.ofConfig program.config

@[simp] theorem build_eq_ok {tables : Tables} {options : Options} {program : Program} :
    build tables options = .ok program ↔ Built tables options program := by
  simp only [build, ofConfig, Outcome.bind_eq_ok, Outcome.mapError_eq_ok, Outcome.pure_eq_ok,
    Except.ok.injEq]
  constructor
  · rintro ⟨config, validated, units, unitsBuilt, tasks, tasksMade, rfl⟩
    exact ⟨rfl, validated, unitsBuilt, tasksMade, rfl, rfl⟩
  · intro built
    refine ⟨_, built.validated, _, built.units, _, built.tasks, ?_⟩
    rw [← built.requestBlocks, ← built.storage, ← built.options_eq]

/-- Behind the units only the tasks decide whether a build succeeds. -/
theorem build_of_units {tables : Tables} {options : Options} {config : Config}
    {units : List SheetUnit}
    (validated : Validation.validate tables options.maxModules = .ok config)
    (unitsBuilt : SheetUnit.ofConfig config = .ok units) :
    build tables options = ((Task.ofUnits options units).mapError .task).map fun tasks =>
      ⟨options, config, units, blocksOf options.limits units, tasks,
        StorageTable.ofConfig config⟩ := by
  simp only [build, ofConfig, validated, unitsBuilt, Except.mapError, bind, Except.bind]
  cases Task.ofUnits options units with
  | error fault => rfl
  | ok tasks => rfl

/-! ## The requests of a unit -/

theorem unitBlocks_keys (limits : Limits) (unit : SheetUnit) :
    (unitBlocks limits unit).map Prod.fst =
      (TableKind.all.filter fun table => !(Batching.tagsOf table unit.tags).isEmpty).map
        fun table => ⟨unit.sheet, unit.module, table⟩ := by
  simp only [unitBlocks, Batching.plan, List.map_map, Function.comp_def]

theorem unitBlocks_key {limits : Limits} {unit : SheetUnit} {entry : BlockKey × List Block}
    (member : entry ∈ unitBlocks limits unit) :
    entry.1.sheet = unit.sheet ∧ entry.1.module = unit.module := by
  obtain ⟨part, _, rfl⟩ := List.mem_map.mp member
  exact ⟨rfl, rfl⟩

@[simp] theorem unitBlocks_flatMap_snd (limits : Limits) (unit : SheetUnit) :
    (unitBlocks limits unit).flatMap Prod.snd =
      (Batching.plan limits unit.tags).flatMap Prod.snd := by
  rw [unitBlocks, List.flatMap_map]

@[simp] theorem mem_unitBlocks {limits : Limits} {unit : SheetUnit} {key : BlockKey}
    {blocks : List Block} :
    (key, blocks) ∈ unitBlocks limits unit ↔
      (unit.sheet = key.sheet ∧ unit.module = key.module ∧
        Batching.tagsOf key.table unit.tags ≠ []) ∧
      blocks = Batching.batch limits (Batching.tagsOf key.table unit.tags) := by
  obtain ⟨sheet, module, table⟩ := key
  have known : table ∈ TableKind.all := by cases table <;> decide
  simp only [unitBlocks, Batching.plan, List.map_map, List.mem_map, List.mem_filter,
    Function.comp_apply, Prod.mk.injEq, BlockKey.mk.injEq]
  constructor
  · rintro ⟨other, ⟨_, filled⟩, ⟨rfl, rfl, rfl⟩, rfl⟩
    exact ⟨⟨rfl, rfl, by simpa using filled⟩, rfl⟩
  · rintro ⟨⟨rfl, rfl, filled⟩, rfl⟩
    exact ⟨table, ⟨known, by simpa using filled⟩, ⟨rfl, rfl, rfl⟩, rfl⟩

theorem unitBlocks_keys_nodup (limits : Limits) (unit : SheetUnit) :
    ((unitBlocks limits unit).map Prod.fst).Nodup := by
  rw [unitBlocks_keys]
  apply List.Nodup.map
  · intro left right equal
    exact congrArg BlockKey.table equal
  · exact List.Nodup.filter _ (by decide)

/-- With distinct units no two requests are filed under one key. -/
theorem blocks_keys_nodup (limits : Limits) {units : List SheetUnit}
    (distinct : (units.map fun unit => (unit.module, unit.sheet)).Nodup) :
    ((units.flatMap (unitBlocks limits)).map Prod.fst).Nodup := by
  rw [List.map_flatMap, List.nodup_flatMap]
  constructor
  · intro unit _
    exact unitBlocks_keys_nodup limits unit
  · rw [List.Nodup, List.pairwise_map] at distinct
    refine distinct.imp fun {left right} different => ?_
    intro key leftMember rightMember
    obtain ⟨leftEntry, leftFiled, leftKey⟩ := List.mem_map.mp leftMember
    obtain ⟨rightEntry, rightFiled, rightKey⟩ := List.mem_map.mp rightMember
    apply different
    rw [← (unitBlocks_key leftFiled).1, ← (unitBlocks_key leftFiled).2,
      ← (unitBlocks_key rightFiled).1, ← (unitBlocks_key rightFiled).2, leftKey, rightKey]

/-- Among items with distinct names, a map that is empty at all others gives what it gives at
one. -/
theorem flatMap_eq_of_mem {α β κ : Type} {items : List α} {name : α → κ}
    (distinct : (items.map name).Nodup) {item : α} (member : item ∈ items) {image : α → List β}
    (others : ∀ other ∈ items, name other ≠ name item → image other = []) :
    items.flatMap image = image item := by
  induction items with
  | nil => cases member
  | cons first rest ih =>
      rw [List.map_cons, List.nodup_cons] at distinct
      rw [List.forall_mem_cons] at others
      rw [List.flatMap_cons]
      rcases List.mem_cons.mp member with rfl | later
      · have nothing : ∀ other ∈ rest, image other = [] := by
          intro other otherMember
          apply others.2 other otherMember
          intro equal
          exact distinct.1 (equal ▸ List.mem_map_of_mem otherMember)
        rw [List.flatMap_eq_nil_iff.mpr nothing, List.append_nil]
      · have different : name first ≠ name item := by
          intro equal
          exact distinct.1 (equal ▸ List.mem_map_of_mem later)
        rw [others.1 different, List.nil_append, ih distinct.2 later others.2]

/-- A unit finds its own requests, all of them and no others. -/
theorem blocksFor_eq {program : Program} {limits : Limits}
    (filed : program.requestBlocks = blocksOf limits program.units)
    (distinct : (program.units.map fun unit => (unit.module, unit.sheet)).Nodup)
    {unit : SheetUnit} (member : unit ∈ program.units) :
    program.blocksFor unit.sheet unit.module none =
      (Batching.plan limits unit.tags).flatMap Prod.snd := by
  rw [blocksFor, filed, blocksOf, Ordered.ofPairs_of_nodup (blocks_keys_nodup limits distinct),
    List.filter_flatMap, List.flatMap_assoc, ← unitBlocks_flatMap_snd]
  rw [flatMap_eq_of_mem distinct member]
  · congr 1
    apply List.filter_eq_self.mpr
    intro entry entryMember
    simp [unitBlocks_key entryMember]
  · intro other _ different
    have dropped : (unitBlocks limits other).filter (fun entry =>
        entry.1.sheet = unit.sheet && entry.1.module = unit.module) = [] := by
      apply List.filter_eq_nil_iff.mpr
      intro entry entryMember
      obtain ⟨sheet, module⟩ := unitBlocks_key entryMember
      simp only [sheet, module, Bool.and_eq_true, decide_eq_true_eq]
      rintro ⟨sameSheet, sameModule⟩
      exact different (by rw [sameSheet, sameModule])
    simp [dropped]

/-! ## The requests of one table -/

/-- A unit files requests under a key: it is the unit of the sheet and module, and it has tags of
the table. -/
def files (key : BlockKey) (unit : SheetUnit) : Bool :=
  unit.sheet = key.sheet && unit.module = key.module && unit.tags.any (·.table = key.table)

@[simp] theorem files_iff {key : BlockKey} {unit : SheetUnit} :
    files key unit = true ↔ unit.sheet = key.sheet ∧ unit.module = key.module ∧
      Batching.tagsOf key.table unit.tags ≠ [] := by
  simp [files, Batching.tagsOf, and_assoc]

@[simp] theorem lookup_unitBlocks (limits : Limits) (unit : SheetUnit) (key : BlockKey) :
    (unitBlocks limits unit).reverse.lookup key =
      if files key unit then some (Batching.batch limits (Batching.tagsOf key.table unit.tags))
      else none := by
  split
  · next filed =>
      apply Ordered.lookup_eq_some_of_mem
      · rw [List.map_reverse, List.nodup_reverse]
        exact unitBlocks_keys_nodup limits unit
      · rw [List.mem_reverse, mem_unitBlocks]
        exact ⟨files_iff.mp filed, rfl⟩
  · next unfiled =>
      rw [List.lookup_eq_none_iff]
      rintro ⟨other, blocks⟩ member
      rw [List.mem_reverse, mem_unitBlocks] at member
      rw [bne_iff_ne]
      rintro rfl
      exact unfiled (files_iff.mpr member.1)

/-- Under a key the requests of the last unit are found that files any there. -/
theorem blocksFor_table {program : Program} {limits : Limits}
    (filed : program.requestBlocks = blocksOf limits program.units) (key : BlockKey) :
    program.blocksFor key.sheet key.module (some key.table) =
      ((program.units.reverse.find? (files key)).map fun unit =>
        Batching.batch limits (Batching.tagsOf key.table unit.tags)).getD [] := by
  have byKey : program.blocksFor key.sheet key.module (some key.table) =
      (program.requestBlocks.filter fun entry => entry.1 = key).flatMap Prod.snd := by
    rw [blocksFor]
    congr 2
    funext entry
    obtain ⟨⟨sheet, module, table⟩, blocks⟩ := entry
    obtain ⟨sheet', module', table'⟩ := key
    rw [Bool.eq_iff_iff]
    simp [and_assoc, eq_comm (a := table')]
  rw [byKey, filed, blocksOf, Ordered.flatMap_filter_eq_lookup (Ordered.ofPairs_keys_nodup _),
    Ordered.lookup_ofPairs, List.reverse_flatMap]
  congr 1
  induction program.units.reverse with
  | nil => rfl
  | cons unit rest ih =>
      rw [List.flatMap_cons, List.lookup_append, ih, Function.comp_apply, lookup_unitBlocks,
        List.find?_cons]
      cases files key unit <;> simp

theorem blocksFor_some {program : Program} {limits : Limits}
    (filed : program.requestBlocks = blocksOf limits program.units)
    (distinct : (program.units.map fun unit => (unit.module, unit.sheet)).Nodup)
    {unit : SheetUnit} (member : unit ∈ program.units) (table : TableKind) :
    program.blocksFor unit.sheet unit.module (some table) =
      Batching.batch limits (Batching.tagsOf table unit.tags) := by
  rw [blocksFor_table filed ⟨unit.sheet, unit.module, table⟩]
  cases found : program.units.reverse.find? (files ⟨unit.sheet, unit.module, table⟩) with
  | some other =>
      obtain ⟨sheet, module, _⟩ := files_iff.mp (List.find?_some found)
      have otherMember := List.mem_reverse.mp (List.mem_of_find?_eq_some found)
      obtain rfl := List.inj_on_of_nodup_map distinct otherMember member (by simp [sheet, module])
      rfl
  | none =>
      have unfiled := List.find?_eq_none.mp found unit (List.mem_reverse.mpr member)
      have empty : Batching.tagsOf table unit.tags = [] := by
        by_contra filled
        exact unfiled (files_iff.mpr ⟨rfl, rfl, filled⟩)
      rw [empty, Batching.batch_nil]
      rfl

end Program

/-! ## Limits of batching -/

/-- The same options with other limits of batching. -/
def Options.withLimits (options : Options) (maxGap maxBatchSize : Nat)
    (maxBatchSize_pos : 0 < maxBatchSize) : Options :=
  { options with maxGap, maxBatchSize, maxBatchSize_pos }

section

variable {options : Options} {maxGap maxBatchSize : Nat} {positive : 0 < maxBatchSize}

@[simp] theorem Task.ofGroups_withLimits (taken : List String) (groups : List PeriodGroup) :
    Task.ofGroups (options.withLimits maxGap maxBatchSize positive) taken groups =
      Task.ofGroups options taken groups := by
  induction groups generalizing taken with
  | nil => rfl
  | cons group rest ih =>
      have same : Task.ofGroup (options.withLimits maxGap maxBatchSize positive) group =
        Task.ofGroup options group := rfl
      simp only [Task.ofGroups, same, ih]

@[simp] theorem Task.ofUnits_withLimits (units : List SheetUnit) :
    Task.ofUnits (options.withLimits maxGap maxBatchSize positive) units =
      Task.ofUnits options units := by
  simp only [Task.ofUnits, Task.ofGroups_withLimits]
  rfl

/-- A program that is built can be built under other limits, with the same units. -/
theorem Program.Built.withLimits {tables : Tables} {program : Program}
    (built : Program.Built tables options program) :
    ∃ other, Program.Built tables (options.withLimits maxGap maxBatchSize positive) other ∧
      other.units = program.units := by
  refine ⟨⟨options.withLimits maxGap maxBatchSize positive, program.config, program.units,
    Program.blocksOf ⟨maxGap, maxBatchSize⟩ program.units, program.tasks, program.storage⟩, ?_, rfl⟩
  refine ⟨rfl, built.validated, built.units, ?_, rfl, built.storage⟩
  rw [Task.ofUnits_withLimits]
  exact built.tasks

end

/-! ## The sample workbook -/

/-- Standard options for the two modules of the sample workbook. -/
def Options.sample : Options :=
  { Options.standard with maxModules := 2, maxModules_pos := by decide }

theorem Program.build_sampleTables :
    ∃ program, Program.build Validation.sampleTables Options.sample = .ok program :=
  Outcome.exists_ok_of_toBool (by decide +kernel)

end PointTable
