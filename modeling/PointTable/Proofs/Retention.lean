import Mathlib.Data.List.Pairwise
import PointTable.Proofs.Coverage

/-!
# What a program retains

Units are found by sheet and module, and their requests are filed by sheet, module and table. Sheet
names are trimmed on the way, so two tables of a workbook may come to share one. Their units then
share all keys: a search finds the first of them, and the requests of the last take the place of
the others. Nothing is lost exactly when tables of one trimmed name have no points at all.
-/

namespace PointTable

/-! ## Units of one name -/

namespace SheetUnit

open Text

/-- Pairs of different modules have nothing to do with each other, and those of one module are the
sheets over again. -/
theorem pairsFrom_pairwise_iff {relation : Sheet → Sheet → Prop} {sheets : List Sheet}
    (module : Int) {count : Nat} (positive : 0 < count) :
    ((pairsFrom sheets module count).Pairwise fun left right =>
      left.1 = right.1 → relation left.2 right.2) ↔ sheets.Pairwise relation := by
  rw [pairsFrom, List.pairwise_flatMap]
  constructor
  · rintro ⟨each, _⟩
    have first := each 0 (List.mem_range.mpr positive)
    rw [List.pairwise_map] at first
    exact first.imp fun same => same rfl
  · intro pairwise
    refine ⟨fun index _ => ?_, List.nodup_range.imp fun {index other} different => ?_⟩
    · rw [List.pairwise_map]
      refine pairwise.imp fun related => ?_
      intro _
      exact related
    · rintro left here right there same
      obtain ⟨_, _, rfl⟩ := List.mem_map.mp here
      obtain ⟨_, _, rfl⟩ := List.mem_map.mp there
      exact absurd (by simpa using same) different

/-- If the units share their sheet and module, neither holds a tag. -/
def Apart (left right : SheetUnit) : Prop :=
  left.module = right.module → left.sheet = right.sheet → left.tags = [] ∧ right.tags = []

variable {tables : Tables} {maxModules : Int} {config : Config} {units : List SheetUnit}

/-- Units of one sheet and module come of tables with one trimmed name. -/
theorem pairwise_apart_iff (accepted : Validation.Accepted tables maxModules config)
    (built : ofConfig config = .ok units) :
    units.Pairwise Apart ↔ tables.sheets.Pairwise fun left right =>
      trim left.1 = trim right.1 →
        Validation.pointRows left.2 = [] ∧ Validation.pointRows right.2 = [] := by
  have positive : 0 < config.maxModules := by
    have lower := accepted.modules_pos
    have count := accepted.modules
    omega
  have fromSheets : tables.sheets.Pairwise (fun left right => trim left.1 = trim right.1 →
        Validation.pointRows left.2 = [] ∧ Validation.pointRows right.2 = []) ↔
      config.sheets.Pairwise fun left right =>
        left.name = right.name → left.points = [] ∧ right.points = [] := by
    apply Outcome.pairwise_iff accepted.sheets_forall₂
    rintro table sheet other otherSheet ⟨named, rows⟩ ⟨otherNamed, otherRows⟩
    rw [named, otherNamed, Outcome.eq_nil_iff rows, Outcome.eq_nil_iff otherRows]
  rw [fromSheets, ← pairsFrom_pairwise_iff 1 positive]
  symm
  apply Outcome.pairwise_iff (ofConfig_eq_ok.mp built)
  rintro ⟨module, sheet⟩ unit ⟨module', sheet'⟩ unit' instantiated instantiated'
  rw [Apart, instantiated.module_eq, instantiated'.module_eq, instantiated.sheet_eq,
    instantiated'.sheet_eq, Outcome.eq_nil_iff instantiated.tags_forall₂,
    Outcome.eq_nil_iff instantiated'.tags_forall₂]

theorem Apart.symm {left right : SheetUnit} (apart : Apart left right) : Apart right left :=
  fun sameModule sameSheet => (apart sameModule.symm sameSheet.symm).symm

theorem InstanceOf.eq_of_no_tags {module module' : Int} {sheet sheet' : Sheet}
    {unit unit' : SheetUnit} (instantiated : InstanceOf config module sheet unit)
    (instantiated' : InstanceOf config module' sheet' unit')
    (sameModule : unit.module = unit'.module) (sameSheet : unit.sheet = unit'.sheet)
    (empty : unit.tags = []) (empty' : unit'.tags = []) : unit = unit' := by
  have groupless : ∀ (sheet : Sheet) (module : Int), groupsOf sheet module [] = [] := by
    intro sheet module
    rw [groupsOf, List.zip_nil_right]
    rfl
  have groups := instantiated.groups
  have groups' := instantiated'.groups
  rw [empty, groupless] at groups
  rw [empty', groupless] at groups'
  have names : unit.device.name = unit'.device.name := by
    rw [instantiated.deviceName_eq, instantiated'.deviceName_eq, ← instantiated.sheet_eq,
      ← instantiated'.sheet_eq, ← instantiated.module_eq, ← instantiated'.module_eq, sameModule,
      sameSheet]
  have device := instantiated.device
  rw [names, instantiated'.device, Option.some.injEq] at device
  obtain ⟨sheet, module, device, tags, groups⟩ := unit
  obtain ⟨sheet', module', device', tags', groups'⟩ := unit'
  simp_all

/-- Where units of one sheet and module hold no tags, every unit is found by its sheet and
module. -/
theorem find?_eq_some_of_apart (built : ofConfig config = .ok units)
    (apart : units.Pairwise Apart) {unit : SheetUnit} (member : unit ∈ units) :
    find? units unit.sheet unit.module = some unit := by
  have present : (find? units unit.sheet unit.module).isSome = true := by
    simp only [find?, List.find?_isSome]
    exact ⟨unit, member, by simp⟩
  obtain ⟨found, foundEq⟩ := Option.isSome_iff_exists.mp present
  have foundMember := List.mem_of_find?_eq_some foundEq
  have keys : found.sheet = unit.sheet ∧ found.module = unit.module := by
    simpa using List.find?_some foundEq
  rw [foundEq]
  by_contra different
  have : Std.Symm Apart := ⟨fun _ _ => Apart.symm⟩
  have empty := apart.forall foundMember member (fun same => different (congrArg some same))
    keys.2 keys.1
  obtain ⟨_, _, _, instantiated⟩ := exists_instanceOf built foundMember
  obtain ⟨_, _, _, instantiated'⟩ := exists_instanceOf built member
  exact different (congrArg some
    (instantiated.eq_of_no_tags instantiated' keys.2 keys.1 empty.1 empty.2))

end SheetUnit

/-! ## Units and requests that are found -/

namespace Program

open Text

variable {tables : Tables} {options : Options} {program : Program}

/-- A program retains a unit: it finds the unit by its sheet and module, and the requests that it
finds there for the table of a tag hold the tag exactly once. -/
structure Retains (program : Program) (unit : SheetUnit) : Prop where
  found : program.unit unit.sheet unit.module = .ok unit
  tags : ∀ tag ∈ unit.tags,
    ((program.blocksFor unit.sheet unit.module (some tag.table)).flatMap Block.tags).count tag = 1

theorem batch_count_tags (limits : Limits) (tags : List Tag) (tag : Tag) :
    ((Batching.batch limits (Batching.tagsOf tag.table tags)).flatMap Block.tags).count tag =
      tags.count tag := by
  rw [(Batching.batch_flatMap_tags_perm limits _).count_eq, Batching.tagsOf,
    List.count_filter (by simp)]

/-- The requests found for a unit hold a tag of it exactly once, unless a later unit of the same
sheet and module has tags of the same table; then they do not hold it at all. -/
theorem Built.count_blocksFor (built : Built tables options program)
    {before after : List SheetUnit} {unit : SheetUnit}
    (place : program.units = before ++ unit :: after) {tag : Tag} (member : tag ∈ unit.tags) :
    ((program.blocksFor unit.sheet unit.module (some tag.table)).flatMap Block.tags).count tag =
      if after.any (files ⟨unit.sheet, unit.module, tag.table⟩) then 0 else 1 := by
  have accepted := Validation.validate_eq_ok built.validated
  have distinct := SheetUnit.allTags_nodup accepted built.units
  rw [place, List.nodup_flatMap, List.pairwise_append, List.pairwise_cons] at distinct
  obtain ⟨perUnit, _, ⟨disjoint, _⟩, _⟩ := distinct
  have blocks := blocksFor_table built.requestBlocks ⟨unit.sheet, unit.module, tag.table⟩
  rw [place, List.reverse_append, List.reverse_cons, List.append_assoc, List.find?_append] at blocks
  cases last : after.reverse.find? (files ⟨unit.sheet, unit.module, tag.table⟩) with
  | some later =>
      have laterMember := List.mem_reverse.mp (List.mem_of_find?_eq_some last)
      have taken : after.any (files ⟨unit.sheet, unit.module, tag.table⟩) = true :=
        List.any_eq_true.mpr ⟨later, laterMember, List.find?_some last⟩
      have absent : tag ∉ later.tags := fun there =>
        disjoint later laterMember member there
      rw [last, Option.some_or, Option.map_some, Option.getD_some] at blocks
      rw [blocks, if_pos taken, batch_count_tags, List.count_eq_zero.mpr absent]
  | none =>
      have free : ¬after.any (files ⟨unit.sheet, unit.module, tag.table⟩) = true := by
        simpa [List.find?_eq_none] using last
      have own : files ⟨unit.sheet, unit.module, tag.table⟩ unit = true := by
        simpa [files] using ⟨tag, member, rfl⟩
      rw [last, Option.none_or, List.find?_append, List.find?_singleton, if_pos own,
        Option.some_or, Option.map_some, Option.getD_some] at blocks
      rw [blocks, if_neg free, batch_count_tags]
      exact List.count_eq_one_of_mem (perUnit unit (by simp)) member

/-- Nothing of a program is lost exactly when no two tables of one trimmed name have a point. What
is lost otherwise are the tags that a later unit of the same sheet and module covers with tags of
the same table. -/
theorem build_retains_iff {tables : Tables} {options : Options} {program : Program}
    (built : build tables options = .ok program) :
    ((∀ unit ∈ program.units, program.Retains unit) ↔
      tables.sheets.Pairwise fun left right => trim left.1 = trim right.1 →
        Validation.pointRows left.2 = [] ∧ Validation.pointRows right.2 = []) ∧
    ∀ before unit after, program.units = before ++ unit :: after → ∀ tag ∈ unit.tags,
      ((program.blocksFor unit.sheet unit.module (some tag.table)).flatMap Block.tags).count tag =
        if after.any (files ⟨unit.sheet, unit.module, tag.table⟩) then 0 else 1 := by
  have stages := build_eq_ok.mp built
  have accepted := Validation.validate_eq_ok stages.validated
  refine ⟨?_, fun before unit after place tag member => stages.count_blocksFor place member⟩
  rw [← SheetUnit.pairwise_apart_iff accepted stages.units]
  constructor
  · intro retained
    have disjoint := (List.nodup_flatMap.mp (SheetUnit.allTags_nodup accepted stages.units)).2
    refine disjoint.imp_of_mem fun {left right} leftMember rightMember apart => ?_
    intro sameModule sameSheet
    have found := (retained left leftMember).found
    rw [sameModule, sameSheet, (retained right rightMember).found] at found
    obtain rfl : right = left := Except.ok.inj found
    have empty : right.tags = [] := List.eq_nil_iff_forall_not_mem.mpr fun tag here =>
      apart here here
    exact ⟨empty, empty⟩
  · intro apart unit member
    obtain ⟨before, after, place⟩ := List.append_of_mem member
    refine ⟨?_, fun tag tagMember => ?_⟩
    · rw [Program.unit, SheetUnit.find?_eq_some_of_apart stages.units apart member]
    · rw [stages.count_blocksFor place tagMember, if_neg]
      rw [place, List.pairwise_append, List.pairwise_cons] at apart
      obtain ⟨_, ⟨apartLater, _⟩, _⟩ := apart
      rw [List.any_eq_true]
      rintro ⟨later, laterMember, filed⟩
      obtain ⟨sameSheet, sameModule, _⟩ := files_iff.mp filed
      have empty := (apartLater later laterMember sameModule.symm sameSheet.symm).1
      rw [empty] at tagMember
      cases tagMember

/-- A workbook with two sheets of one name when trimmed, both without a point. -/
def idleTables : Tables where
  devices := some [
    [("Device", .text "Line_M1"), ("IP", .text "10.0.0.1")],
    [("Device", .text "Idle_M1"), ("IP", .text "10.0.0.2")]]
  sheets := [
    ("Idle", []),
    ("Line", [
      [("PropertyName", .text "Run"), ("Type", .text "bool"), ("ValueAddress", .text "M3")],
      [("PropertyName", .text "Speed"), ("Type", .text "int"), ("ValueAddress", .text "D3")]]),
    (" Idle", [[("PropertyName", .text "  "), ("Type", .text "short")]])]

theorem idleTables_retained :
    ∃ program, build idleTables Options.standard = .ok program ∧
      ∀ unit ∈ program.units, program.Retains unit := by
  obtain ⟨program, built⟩ : ∃ program, build idleTables Options.standard = .ok program :=
    Outcome.exists_ok_of_toBool (by decide +kernel)
  exact ⟨program, built, (build_retains_iff built).1.mpr (by decide +kernel)⟩

/-- The requests of the second sheet take the place of those of the first, whose register is read
by none. -/
theorem twinTables_lose :
    (twinTables.sheets.map Prod.fst).Nodup ∧
      ∃ program, build twinTables Options.sample = .ok program ∧
        ∃ unit ∈ program.units, ∃ tag ∈ unit.tags, tag.name = "Run_M1_M1" ∧
          ((program.blocksFor unit.sheet unit.module (some tag.table)).flatMap
            Block.tags).count tag = 0 := by
  have lost : ∃ program ∈ (build twinTables Options.sample).toOption,
      ∃ unit ∈ program.units, ∃ tag ∈ unit.tags, tag.name = "Run_M1_M1" ∧
        ((program.blocksFor unit.sheet unit.module (some tag.table)).flatMap
          Block.tags).count tag = 0 := by
    decide +kernel
  obtain ⟨program, built, unit, unitMember, tag, tagMember, named, absent⟩ := lost
  exact ⟨by decide, program, Outcome.eq_ok_of_toOption built, unit, unitMember, tag, tagMember,
    named, absent⟩

end Program

end PointTable
