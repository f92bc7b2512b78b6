import PointTable.Proofs.Program

/-!
# Names of tags and of reading tasks

A tag is named for its property and module; the task that reads a block is named for the sheet,
the module, the table and the place of the block. What a name is made of can be read off it from
its end, however much of the same spelling the sheet or the property has. So the names of a program
are as distinct as what they stand for.
-/

namespace PointTable

/-! ## Tags of all units -/

namespace SheetUnit

variable {config : Config} {units : List SheetUnit}

theorem allTagNames_eq (built : ofConfig config = .ok units) :
    (units.flatMap fun unit => unit.tags.map Tag.name) =
      (List.range config.maxModules).flatMap fun index : Nat =>
        (config.sheets.flatMap fun sheet => sheet.points.map Point.propertyName).map
          fun property => instanceSpelling property (1 + index) := by
  have perUnit : ((pairsFrom config.sheets 1 config.maxModules).map fun pair =>
      pair.2.points.map fun point => instanceSpelling point.propertyName pair.1) =
      units.map fun unit => unit.tags.map Tag.name := by
    apply Outcome.map_eq_map (ofConfig_eq_ok.mp built)
    rintro ⟨module, sheet⟩ unit instantiated
    apply Outcome.map_eq_map instantiated.tags_forall₂
    intro point tag tagged
    exact tagged.name_eq.symm
  rw [List.flatMap_def, ← perUnit, ← List.flatMap_def, pairsFrom, List.flatMap_assoc]
  simp only [List.flatMap_map, List.map_flatMap, List.map_map, Function.comp_def]

/-- No two tags of a validated configuration share a name. -/
theorem allTagNames_nodup {tables : Tables} {maxModules : Int}
    (accepted : Validation.Accepted tables maxModules config)
    (built : ofConfig config = .ok units) :
    (units.flatMap fun unit => unit.tags.map Tag.name).Nodup := by
  rw [allTagNames_eq built, List.nodup_flatMap]
  constructor
  · intro index _
    refine accepted.propertyNames_nodup.map fun property other equal => ?_
    exact (Naming.instanceSpelling_inj.mp equal).1
  · refine List.nodup_range.imp fun {index other} different => ?_
    intro name here there
    obtain ⟨property, _, named⟩ := List.mem_map.mp here
    obtain ⟨property', _, named'⟩ := List.mem_map.mp there
    have modules := (Naming.instanceSpelling_inj.mp (named.trans named'.symm)).2
    omega

end SheetUnit

/-! ## Tasks that read blocks -/

/-- The key and the place of a block can be read off the name of its task. -/
@[simp] theorem BlockKey.taskName_inj {key key' : BlockKey} {index index' : Nat} :
    key.taskName index = key'.taskName index' ↔ key = key' ∧ index = index' := by
  constructor
  · intro equal
    obtain ⟨sheet, module, table⟩ := key
    obtain ⟨sheet', module', table'⟩ := key'
    have noMark := Naming.not_mem_nat (c := '_') (by decide)
    have wordless : ∀ table : TableKind,
        '_' ∉ (if table = .coil then "Coils" else "Regs").toList := by
      intro table
      cases table <;> decide
    obtain ⟨stems, indices⟩ :=
      (Naming.separated_inj (c := '_') (by decide) (noMark index) (noMark index')).mp equal
    obtain ⟨devices, words⟩ :=
      (Naming.separated_inj (c := '_') (by decide) (wordless table) (wordless table')).mp stems
    obtain ⟨rfl, rfl⟩ := Naming.instanceSpelling_inj.mp devices
    have tables : table = table' := by
      cases table with
      | coil =>
          cases table' with
          | coil => rfl
          | holdingRegister => exact absurd words (by decide)
      | holdingRegister =>
          cases table' with
          | coil => exact absurd words (by decide)
          | holdingRegister => rfl
    exact ⟨by rw [tables], Nat.repr_injective indices⟩
  · rintro ⟨rfl, rfl⟩
    rfl

namespace Program

/-- The names of the tasks that read the blocks of a program. -/
def blockTaskNames (program : Program) : List String :=
  program.requestBlocks.flatMap fun entry => (List.range entry.2.length).map entry.1.taskName

/-- Mapped keys are distinct, and so are the places under one key. -/
theorem blockTaskNames_nodup {program : Program} {limits : Limits}
    (filed : program.requestBlocks = blocksOf limits program.units) :
    program.blockTaskNames.Nodup := by
  have keys : (program.requestBlocks.map Prod.fst).Nodup := by
    rw [filed]
    exact Ordered.ofPairs_keys_nodup _
  rw [blockTaskNames, List.nodup_flatMap]
  constructor
  · intro entry _
    exact List.nodup_range.map fun index other equal => (BlockKey.taskName_inj.mp equal).2
  · rw [List.Nodup, List.pairwise_map] at keys
    refine keys.imp fun {entry other} different => ?_
    intro name here there
    obtain ⟨index, _, named⟩ := List.mem_map.mp here
    obtain ⟨index', _, named'⟩ := List.mem_map.mp there
    exact different (BlockKey.taskName_inj.mp (named.trans named'.symm)).1

/-- In a program that is built, no two tags of any units share a name, and no two blocks share the
name of the task that reads them. -/
theorem build_identifiers_nodup {tables : Tables} {options : Options} {program : Program}
    (built : build tables options = .ok program) :
    (program.units.flatMap fun unit => unit.tags.map Tag.name).Nodup ∧
      program.blockTaskNames.Nodup := by
  have stages := build_eq_ok.mp built
  exact ⟨SheetUnit.allTagNames_nodup (Validation.validate_eq_ok stages.validated) stages.units,
    blockTaskNames_nodup stages.requestBlocks⟩

/-- Two sheets of one name when trimmed, with properties that look like tags of each other. -/
def twinTables : Tables where
  devices := some [
    [("Device", .text "Line_M1"), ("IP", .text "10.0.0.1")],
    [("Device", .text "Line_M2"), ("IP", .text "10.0.0.2")]]
  sheets := [
    ("Line", [
      [("PropertyName", .text "Run"), ("Type", .text "bool"), ("ValueAddress", .text "M3")],
      [("PropertyName", .text "Run_M1"), ("Type", .text "short"), ("ValueAddress", .text "D3")]]),
    (" Line", [
      [("PropertyName", .text "Run_M1_M2"), ("Type", .text "short"),
        ("ValueAddress", .text "D90")]])]

theorem twinTables_identifiers :
    ∃ program, build twinTables Options.sample = .ok program ∧
      (program.units.flatMap fun unit => unit.tags.map Tag.name).Nodup ∧
      program.blockTaskNames.Nodup := by
  obtain ⟨program, built⟩ : ∃ program, build twinTables Options.sample = .ok program :=
    Outcome.exists_ok_of_toBool (by decide +kernel)
  exact ⟨program, built, build_identifiers_nodup built⟩

end Program

end PointTable
