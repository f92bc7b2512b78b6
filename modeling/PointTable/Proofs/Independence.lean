import PointTable.Proofs.Coverage
import PointTable.Proofs.Readings

/-!
# Independence of units

What a unit holds is settled by the rows of its sheet and by the limits of batching. Building it for
another module renames its tags and changes nothing else: tags are grouped by their points and
batched by their addresses, and neither looks at a name. So two workbooks that share a sheet, in
whatever company the sheet stands, give it the same tags, groups and requests in all modules of
both.
-/

namespace PointTable

open Text

/-! ## Rows with the same cells -/

namespace Validation

/-- A point is read from the cells of its row and from nothing else. -/
theorem readPoint_congr {row other : Row} (agree : row.get = other.get) :
    readPoint row = readPoint other := by
  simp only [readPoint, columnText, writableCell, agree]

/-- Tables with the same cells have the same points. -/
theorem points_eq_of_agree {rows others : List Row} {points otherPoints : List Point}
    (agree : List.Forall₂ (fun row other : Row => row.get = other.get) rows others)
    (read : List.Forall₂ (fun row point => readPoint row = .ok point) (pointRows rows) points)
    (otherRead : List.Forall₂ (fun row point => readPoint row = .ok point) (pointRows others)
      otherPoints) :
    points = otherPoints := by
  have kept : List.Forall₂ (fun row other : Row => row.get = other.get) (pointRows rows)
      (pointRows others) := by
    refine List.rel_filter ?_ agree
    intro row other same
    simp only [same]
  have results : (pointRows rows).map readPoint = (pointRows others).map readPoint :=
    Outcome.map_eq_map kept fun _ _ => readPoint_congr
  have first : (pointRows rows).map readPoint = points.map Except.ok :=
    Outcome.map_eq_map read fun _ _ equal => equal
  have second : (pointRows others).map readPoint = otherPoints.map Except.ok :=
    Outcome.map_eq_map otherRead fun _ _ equal => equal
  rw [first, second] at results
  exact List.map_injective_iff.mpr (fun _ _ => Except.ok.inj) results

end Validation

/-! ## Renaming for another module -/

/-- The tag of the same point in another module. -/
def Tag.forModule (module : Int) (tag : Tag) : Tag :=
  { tag with name := instanceSpelling tag.property module }

/-- The group of the same points in another module. -/
def PeriodGroup.forModule (module : Int) (group : PeriodGroup) : PeriodGroup :=
  { group with module := module, tags := group.tags.map (Tag.forModule module) }

/-- The request for the tags of the same points in another module: its stretch, and the place of
every tag in it, are the same. -/
def Block.forModule (module : Int) (block : Block) : Block :=
  { block with tags := block.tags.map (Tag.forModule module) }

namespace SheetUnit

variable {module module' : Int}

/-- Tags of one point differ in their names only. -/
theorem TagOf.eq_forModule {point : Point} {tag other : Tag} (tagged : TagOf module point tag)
    (otherTagged : TagOf module' point other) : other = tag.forModule module' := by
  have address : other.address = tag.address :=
    Except.ok.inj (otherTagged.address.symm.trans tagged.address)
  have registers : other.registerLength = tag.registerLength := by
    have equal := otherTagged.registerLength.trans tagged.registerLength.symm
    omega
  have pointType := otherTagged.pointType.trans tagged.pointType.symm
  have elements := otherTagged.arrayLength.trans tagged.arrayLength.symm
  have property := otherTagged.property.trans tagged.property.symm
  have name : other.name = instanceSpelling tag.property module' := by
    rw [otherTagged.name_eq, tagged.property]
  cases other
  simp_all [Tag.forModule]

theorem tags_eq_map_forModule {points : List Point} {tags others : List Tag}
    (tagged : List.Forall₂ (TagOf module) points tags)
    (otherTagged : List.Forall₂ (TagOf module') points others) :
    others = tags.map (Tag.forModule module') := by
  induction tagged generalizing others with
  | nil =>
      cases otherTagged
      rfl
  | cons first _ ih =>
      cases otherTagged with
      | cons otherFirst otherRest => rw [first.eq_forModule otherFirst, ih otherRest, List.map_cons]

/-! ## Groups and requests of another module -/

theorem groupsOfPeriod_forModule (sheet : String) (period : Double)
    (members : List (Point × Tag)) :
    groupsOfPeriod sheet module' period (members.map (Prod.map id (Tag.forModule module'))) =
      (groupsOfPeriod sheet module period members).map (PeriodGroup.forModule module') := by
  unfold groupsOfPeriod
  split
  · simp [PeriodGroup.forModule, Function.comp_def]
  · rw [byTrigger_map, List.map_map, List.map_map]
    apply List.map_congr_left
    rintro ⟨trigger, items⟩ _
    simp [PeriodGroup.forModule, returnAddressOf, Function.comp_def, Option.bind_map]

/-- Tags are grouped by their points alone. -/
theorem groupsOf_forModule (sheet : Sheet) (tags : List Tag) :
    groupsOf sheet module' (tags.map (Tag.forModule module')) =
      (groupsOf sheet module tags).map (PeriodGroup.forModule module') := by
  rw [groupsOf, groupsOf, List.zip_map_right, byPeriod_map, List.flatMap_map, List.map_flatMap]
  congr 1
  funext group
  exact groupsOfPeriod_forModule sheet.name group.1 group.2

end SheetUnit

namespace Batching

variable {limits : Limits} {module : Int}

@[simp] theorem sortTags_forModule (tags : List Tag) :
    sortTags (tags.map (Tag.forModule module)) = (sortTags tags).map (Tag.forModule module) := by
  symm
  exact List.map_mergeSort fun _ _ _ _ => rfl

@[simp] theorem grow_forModule (block : Block) (tags : List Tag) :
    grow limits (block.forModule module) (tags.map (Tag.forModule module)) =
      (grow limits block tags).map (Block.forModule module) := by
  induction tags generalizing block with
  | nil => rfl
  | cons tag rest ih =>
      have joined : (block.forModule module).join (tag.forModule module) =
          (block.join tag).forModule module := by
        simp [Block.join, Block.forModule, Block.grownLength, Tag.forModule, Tag.stop]
      have admitted : (block.forModule module).admits limits (tag.forModule module) =
          block.admits limits tag := rfl
      rw [List.map_cons, grow, grow, admitted]
      split
      · rw [joined, ih]
      · rw [List.map_cons, ← ih]
        rfl

/-- Tags are batched by their addresses alone. -/
@[simp] theorem batch_forModule (tags : List Tag) :
    batch limits (tags.map (Tag.forModule module)) =
      (batch limits tags).map (Block.forModule module) := by
  rw [batch, batch, sortTags_forModule]
  cases sortTags tags with
  | nil => rfl
  | cons tag rest => exact grow_forModule (Block.single tag) rest

@[simp] theorem tagsOf_forModule (table : TableKind) (tags : List Tag) :
    tagsOf table (tags.map (Tag.forModule module)) =
      (tagsOf table tags).map (Tag.forModule module) := by
  rw [tagsOf, tagsOf, List.filter_map]
  rfl

end Batching

/-! ## Two workbooks with one sheet in common -/

namespace Program

/-- Where trimmed sheet names are distinct, a sheet has its unit in every module: it is found by
name and number and so are its requests. -/
theorem Built.exists_instance {tables : Tables} {options : Options} {program : Program}
    (built : Built tables options program)
    (distinct : (tables.sheets.map fun table => trim table.1).Nodup) {sheet : Sheet}
    (member : sheet ∈ program.config.sheets) {module : Int} (lower : 1 ≤ module)
    (upper : module ≤ options.maxModules) :
    ∃ unit, program.unit sheet.name module = .ok unit ∧
      SheetUnit.InstanceOf program.config module sheet unit ∧
      ∀ table, program.blocksFor sheet.name module (some table) =
        Batching.batch options.limits (Batching.tagsOf table unit.tags) := by
  have count := built.accepted.modules
  have names : (program.config.sheets.map Sheet.name).Nodup :=
    built.accepted.sheetNames_eq ▸ distinct
  obtain ⟨unit, unitMember, instantiated⟩ :=
    SheetUnit.exists_unit built.units lower (by omega) member
  have found := SheetUnit.find?_eq_some_of_mem built.units names unitMember
  have keys := SheetUnit.keys_nodup built.units names
  rw [← instantiated.sheet_eq, ← instantiated.module_eq]
  refine ⟨unit, by rw [Program.unit, found], ?_, fun table => ?_⟩
  · rw [instantiated.module_eq]
    exact instantiated
  · exact blocksFor_some built.requestBlocks keys unitMember table

/-- Units do not interfere. If two workbooks that are built under the same limits of batching have a
sheet of one name with the same cells, then the unit of any module of the one and the unit of any
module of the other have the same tags, groups and requests up to the number of the module. The
other sheets, the devices, the numbers of modules and all other options may differ. -/
theorem build_units_independent {tables tables' : Tables} {options options' : Options}
    {program program' : Program} (built : build tables options = .ok program)
    (built' : build tables' options' = .ok program') (gap : options.maxGap = options'.maxGap)
    (size : options.maxBatchSize = options'.maxBatchSize)
    (distinct : (tables.sheets.map fun table => trim table.1).Nodup)
    (distinct' : (tables'.sheets.map fun table => trim table.1).Nodup)
    {table table' : String × List Row} (member : table ∈ tables.sheets)
    (member' : table' ∈ tables'.sheets) (named : trim table.1 = trim table'.1)
    (agree : List.Forall₂ (fun row row' : Row => row.get = row'.get) table.2 table'.2)
    {module module' : Int} (lower : 1 ≤ module) (upper : module ≤ options.maxModules)
    (lower' : 1 ≤ module') (upper' : module' ≤ options'.maxModules) :
    ∃ unit unit', program.unit (trim table.1) module = .ok unit ∧
      program'.unit (trim table.1) module' = .ok unit' ∧
      unit'.tags = unit.tags.map (Tag.forModule module') ∧
      unit'.groups = unit.groups.map (PeriodGroup.forModule module') ∧
      ∀ kind, program'.blocksFor (trim table.1) module' (some kind) =
        (program.blocksFor (trim table.1) module (some kind)).map (Block.forModule module') := by
  have stages := build_eq_ok.mp built
  have stages' := build_eq_ok.mp built'
  obtain ⟨sheet, sheetMember, sheetNamed, read⟩ :=
    Outcome.exists_of_mem_left stages.accepted.sheets_forall₂ member
  obtain ⟨sheet', sheetMember', sheetNamed', read'⟩ :=
    Outcome.exists_of_mem_left stages'.accepted.sheets_forall₂ member'
  have points := Validation.points_eq_of_agree agree read read'
  obtain ⟨unit, found, instantiated, requests⟩ :=
    stages.exists_instance distinct sheetMember lower upper
  obtain ⟨unit', found', instantiated', requests'⟩ :=
    stages'.exists_instance distinct' sheetMember' lower' upper'
  have limits : options'.limits = options.limits := by
    rw [Options.limits, Options.limits, gap, size]
  have name : sheet'.name = sheet.name := by rw [sheetNamed, sheetNamed', named]
  obtain rfl : sheet' = sheet := by
    cases sheet
    cases sheet'
    simp_all
  rw [← sheetNamed]
  have tags : unit'.tags = unit.tags.map (Tag.forModule module') :=
    SheetUnit.tags_eq_map_forModule instantiated.tags_forall₂ instantiated'.tags_forall₂
  refine ⟨unit, unit', found, found', tags, ?_, fun kind => ?_⟩
  · rw [instantiated'.groups, instantiated.groups, tags, SheetUnit.groupsOf_forModule]
  · rw [requests', requests, limits, tags, Batching.tagsOf_forModule, Batching.batch_forModule]

/-! ## The sample sheet in another workbook -/

/-- The rows of the first sheet of the sample workbook. -/
def lineRows : List Row :=
  (Validation.sampleTables.sheets.headD ("", [])).2

/-- A workbook for one module with the same sheet behind another one, which reads the same
registers at the same trigger, and with other devices. -/
def hallTables : Tables where
  devices := some [
    [("Device", .text "Hall_M1"), ("IP", .text "10.0.0.1")],
    [("Device", .text "Line_M1"), ("IP", .text "10.9.0.1"), ("Port", .int 1502)]]
  sheets := [
    ("Hall", [
      [("PropertyName", .text "Lift"), ("Type", .text "short"), ("ValueAddress", .text "D100"),
        ("TriggerAddress", .text "D7"), ("Period", .int 2)]]),
    ("Line", lineRows)]

/-- The standard limits of batching, and other options otherwise. -/
def hallOptions : Options :=
  { Options.standard with orders := ⟨.dcba, .abcd⟩, monitorInterval := 7, handshakeTimeout := 0 }

theorem hallTables_independent :
    ∃ program program', build Validation.sampleTables Options.sample = .ok program ∧
      build hallTables hallOptions = .ok program' ∧
      ∃ unit unit', program.unit "Line" 2 = .ok unit ∧ program'.unit "Line" 1 = .ok unit' ∧
        unit'.tags = unit.tags.map (Tag.forModule 1) ∧
        unit'.groups = unit.groups.map (PeriodGroup.forModule 1) ∧
        ∀ kind, program'.blocksFor "Line" 1 (some kind) =
          (program.blocksFor "Line" 2 (some kind)).map (Block.forModule 1) := by
  obtain ⟨program, built⟩ := build_sampleTables
  obtain ⟨program', built'⟩ : ∃ program', build hallTables hallOptions = .ok program' :=
    Outcome.exists_ok_of_toBool (by decide +kernel)
  have named : trim " Line " = "Line" := by decide +kernel
  have member : (" Line ", lineRows) ∈ Validation.sampleTables.sheets := .head _
  have member' : ("Line", lineRows) ∈ hallTables.sheets := .tail _ (.head _)
  have last : (1 : Int) ≤ 2 := by decide
  have only : (1 : Int) ≤ 1 := by decide
  have independent := build_units_independent built built' rfl rfl (by decide +kernel)
    (by decide +kernel) member member' (by decide +kernel) (List.forall₂_same.mpr fun _ _ => rfl)
    last (by decide) only (by decide)
  rw [named] at independent
  exact ⟨program, program', built, built', independent⟩

end Program

end PointTable
