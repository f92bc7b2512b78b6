import PointTable.Proofs.Groups
import PointTable.Proofs.Identifiers
import PointTable.Proofs.Number.Value
import PointTable.Proofs.Tasks

/-!
# Tasks cover points

Every point of every module is shown live by one task and, unless its period is zero, captured by
exactly one other. Tags carry the argument: no two tags of a configuration are equal, the live tasks
hold each of them once, and the groups of a unit share out the tags of the points that are captured.
-/

namespace PointTable

/-! ## Points and their tags -/

/-- A property name belongs to one point of one sheet. -/
theorem Validation.Accepted.eq_of_propertyName_eq {tables : Tables} {maxModules : Int}
    {config : Config} (accepted : Accepted tables maxModules config) {sheet sheet' : Sheet}
    (sheetMember : sheet ∈ config.sheets) (sheetMember' : sheet' ∈ config.sheets)
    {point point' : Point} (member : point ∈ sheet.points) (member' : point' ∈ sheet'.points)
    (equal : point.propertyName = point'.propertyName) : sheet = sheet' ∧ point = point' := by
  have names : (config.sheets.flatMap fun sheet => sheet.points.map fun point => (sheet, point)).map
      (fun pair => pair.2.propertyName) =
        config.sheets.flatMap fun sheet => sheet.points.map Point.propertyName := by
    simp only [List.map_flatMap, List.map_map, Function.comp_def]
  have distinct := accepted.propertyNames_nodup
  rw [← names] at distinct
  have pairs : (sheet, point) = (sheet', point') := by
    apply List.inj_on_of_nodup_map distinct _ _ equal
    · exact List.mem_flatMap.mpr ⟨sheet, sheetMember, List.mem_map_of_mem member⟩
    · exact List.mem_flatMap.mpr ⟨sheet', sheetMember', List.mem_map_of_mem member'⟩
  exact ⟨congrArg Prod.fst pairs, congrArg Prod.snd pairs⟩

namespace SheetUnit

variable {tables : Tables} {maxModules : Int} {config : Config} {units : List SheetUnit}

theorem InstanceOf.tagOf_of_mem_zip {module : Int} {sheet : Sheet} {unit : SheetUnit}
    (instantiated : InstanceOf config module sheet unit) {point : Point} {tag : Tag}
    (member : (point, tag) ∈ sheet.points.zip unit.tags) : tagOf module point = .ok tag := by
  have tagged := instantiated.tags
  rw [tagsOf_eq_mapM, Outcome.mapM_eq_ok] at tagged
  exact (List.forall₂_iff_zip.mp tagged).2 member

theorem InstanceOf.exists_mem_zip {module : Int} {sheet : Sheet} {unit : SheetUnit}
    (instantiated : InstanceOf config module sheet unit) {point : Point}
    (member : point ∈ sheet.points) : ∃ tag, (point, tag) ∈ sheet.points.zip unit.tags :=
  Outcome.exists_mem_zip instantiated.tags_forall₂.length_eq member

theorem exists_unit (built : ofConfig config = .ok units) {module : Int} (lower : 1 ≤ module)
    (upper : module ≤ config.maxModules) {sheet : Sheet} (member : sheet ∈ config.sheets) :
    ∃ unit ∈ units, InstanceOf config module sheet unit := by
  have pairMember : (module, sheet) ∈ pairsFrom config.sheets 1 config.maxModules :=
    mem_pairsFrom.mpr ⟨by omega, member⟩
  exact Outcome.exists_of_mem_left (ofConfig_eq_ok.mp built) pairMember

/-- A tag belongs to one point of one module. -/
theorem point_of_tag (accepted : Validation.Accepted tables maxModules config)
    {module module' : Int} {sheet sheet' : Sheet} (sheetMember : sheet ∈ config.sheets)
    (sheetMember' : sheet' ∈ config.sheets) {point point' : Point}
    (member : point ∈ sheet.points) (member' : point' ∈ sheet'.points) {tag : Tag}
    (tagged : tagOf module point = .ok tag) (tagged' : tagOf module' point' = .ok tag) :
    module = module' ∧ sheet = sheet' ∧ point = point' := by
  have names := (tagOf_eq_ok tagged).name_eq.symm.trans (tagOf_eq_ok tagged').name_eq
  obtain ⟨properties, modules⟩ := Naming.instanceSpelling_inj.mp names
  exact ⟨modules,
    accepted.eq_of_propertyName_eq sheetMember sheetMember' member member' properties⟩

theorem allTags_nodup (accepted : Validation.Accepted tables maxModules config)
    (built : ofConfig config = .ok units) : (units.flatMap tags).Nodup := by
  apply List.Nodup.of_map Tag.name
  rw [List.map_flatMap]
  exact allTagNames_nodup accepted built

/-! ## Tags of groups -/

/-- The groups of a unit hold the tags of captured points, each of them once. -/
theorem InstanceOf.groups_tags_subperm {module : Int} {sheet : Sheet} {unit : SheetUnit}
    (instantiated : InstanceOf config module sheet unit) :
    (unit.groups.flatMap PeriodGroup.tags).Subperm unit.tags := by
  rw [instantiated.groups]
  refine ⟨_, (groupsOf_flatMap_tags_perm sheet module unit.tags).symm, ?_⟩
  have lengths := instantiated.tags_forall₂.length_eq
  have kept : (((sheet.points.zip unit.tags).filter fun item => !item.1.period.isZero).map
      Prod.snd).Sublist ((sheet.points.zip unit.tags).map Prod.snd) :=
    List.filter_sublist.map Prod.snd
  rw [List.map_snd_zip lengths.ge] at kept
  exact kept

/-- The groups of all units hold no tag twice. -/
theorem allGroups_tags_nodup (accepted : Validation.Accepted tables maxModules config)
    (built : ofConfig config = .ok units) :
    ((Task.allGroups units).flatMap PeriodGroup.tags).Nodup := by
  obtain ⟨distinct, apart⟩ := List.nodup_flatMap.mp (allTags_nodup accepted built)
  have subperm : ∀ unit ∈ units, (unit.groups.flatMap PeriodGroup.tags).Subperm unit.tags := by
    intro unit member
    obtain ⟨_, _, _, instantiated⟩ := exists_instanceOf built member
    exact instantiated.groups_tags_subperm
  rw [Task.allGroups, List.flatMap_assoc, List.nodup_flatMap]
  constructor
  · intro unit member
    obtain ⟨kept, perm, sublist⟩ := subperm unit member
    exact perm.nodup_iff.mp (sublist.nodup (distinct unit member))
  · refine apart.imp_of_mem fun {unit other} member otherMember disjoint => ?_
    intro tag here there
    exact disjoint ((subperm unit member).subset here) ((subperm other otherMember).subset there)

section

variable {module : Int} {sheet : Sheet} {point : Point} {tag : Tag}

/-- The unit that holds the tag of a point is that of the point's sheet and the tag's module. -/
theorem unit_of_tag (accepted : Validation.Accepted tables maxModules config)
    (built : ofConfig config = .ok units) (sheetMember : sheet ∈ config.sheets)
    (member : point ∈ sheet.points) (tagged : tagOf module point = .ok tag) {unit : SheetUnit}
    (unitMember : unit ∈ units) (inside : tag ∈ unit.tags) :
    unit.sheet = sheet.name ∧ unit.module = module := by
  obtain ⟨module', sheet', pairMember, instantiated⟩ := exists_instanceOf built unitMember
  have tags := instantiated.tags
  rw [tagsOf_eq_mapM, Outcome.mapM_eq_ok] at tags
  obtain ⟨point', member', tagged'⟩ := Outcome.exists_of_mem_right tags inside
  obtain ⟨rfl, rfl, _⟩ := point_of_tag accepted sheetMember (mem_pairsFrom.mp pairMember).2 member
    member' tagged tagged'
  exact ⟨instantiated.sheet_eq, instantiated.module_eq⟩

/-- A tag in a group is there for its own point: the group has the point's sheet, module and
period, and the period is not zero. -/
theorem group_of_tag (accepted : Validation.Accepted tables maxModules config)
    (built : ofConfig config = .ok units) (sheetMember : sheet ∈ config.sheets)
    (member : point ∈ sheet.points) (tagged : tagOf module point = .ok tag) {group : PeriodGroup}
    (groupMember : group ∈ Task.allGroups units) (inside : tag ∈ group.tags) :
    group.sheet = sheet.name ∧ group.module = module ∧ group.period = point.period ∧
      point.period.isZero = false := by
  obtain ⟨unit, unitMember, groupMember⟩ := List.mem_flatMap.mp groupMember
  obtain ⟨module', sheet', sheetMember', instantiated, grouped⟩ :=
    groupOf_of_mem_groups accepted built unitMember groupMember
  obtain ⟨point', itemMember, same, nonzero, _⟩ := grouped.members tag inside
  obtain ⟨rfl, rfl, rfl⟩ := point_of_tag accepted sheetMember sheetMember' member
    (List.of_mem_zip itemMember).1 tagged (instantiated.tagOf_of_mem_zip itemMember)
  exact ⟨grouped.sheet_eq, grouped.module_eq, same.symm, nonzero⟩

/-- The groups of all units hold the tag of a point unless the period of the point is zero. -/
theorem mem_allGroups_tags_iff (accepted : Validation.Accepted tables maxModules config)
    (built : ofConfig config = .ok units) (lower : 1 ≤ module) (upper : module ≤ config.maxModules)
    (sheetMember : sheet ∈ config.sheets) (member : point ∈ sheet.points)
    (tagged : tagOf module point = .ok tag) :
    tag ∈ (Task.allGroups units).flatMap PeriodGroup.tags ↔ point.period.isZero = false := by
  constructor
  · intro grouped
    obtain ⟨group, groupMember, inside⟩ := List.mem_flatMap.mp grouped
    exact (group_of_tag accepted built sheetMember member tagged groupMember inside).2.2.2
  · intro nonzero
    obtain ⟨unit, unitMember, instantiated⟩ := exists_unit built lower upper sheetMember
    obtain ⟨tag', itemMember⟩ := instantiated.exists_mem_zip member
    obtain rfl : tag' = tag :=
      Except.ok.inj ((instantiated.tagOf_of_mem_zip itemMember).symm.trans tagged)
    have captured : tag' ∈ unit.groups.flatMap PeriodGroup.tags := by
      rw [instantiated.groups, (groupsOf_flatMap_tags_perm sheet module unit.tags).mem_iff]
      exact List.mem_map_of_mem (f := Prod.snd)
        (List.mem_filter.mpr ⟨itemMember, by simp [nonzero]⟩)
    obtain ⟨group, groupMember, inside⟩ := List.mem_flatMap.mp captured
    exact List.mem_flatMap.mpr
      ⟨group, List.mem_flatMap.mpr ⟨unit, unitMember, groupMember⟩, inside⟩

end

end SheetUnit

/-! ## Counting tasks -/

namespace Task

/-- Of items that hold distinct parts, exactly one holds a part that is held at all. -/
theorem countP_mem_of_nodup {α β : Type} [DecidableEq β] {items : List α} {parts : α → List β}
    (distinct : (items.flatMap parts).Nodup) (part : β) :
    items.countP (fun item => part ∈ parts item) =
      if part ∈ items.flatMap parts then 1 else 0 := by
  induction items with
  | nil => simp
  | cons item rest ih =>
      rw [List.flatMap_cons] at distinct ⊢
      obtain ⟨_, restDistinct, apart⟩ := List.nodup_append.mp distinct
      rw [List.countP_cons, ih restDistinct]
      by_cases here : part ∈ parts item
      · have absent : part ∉ rest.flatMap parts := fun later => apart part here part later rfl
        simp [here, absent]
      · simp [here]

variable {options : Options} {units : List SheetUnit} {task : Task} {tag : Tag}

theorem mem_allMonitors (member : task ∈ allMonitors options units) :
    ∃ unit ∈ units, ∃ tag ∈ unit.tags, task = monitor options.monitorInterval unit tag := by
  obtain ⟨unit, unitMember, taskMember⟩ := List.mem_flatMap.mp member
  obtain ⟨tag, tagMember, rfl⟩ := List.mem_map.mp taskMember
  exact ⟨unit, unitMember, tag, tagMember, rfl⟩

@[simp] theorem allMonitors_flatMap_tags (options : Options) (units : List SheetUnit) :
    (allMonitors options units).flatMap Task.tags = units.flatMap SheetUnit.tags := by
  have single : ∀ unit : SheetUnit,
      (monitors options.monitorInterval unit).flatMap Task.tags = unit.tags := by
    intro unit
    rw [monitors, List.flatMap_map]
    exact List.flatMap_singleton' unit.tags
  rw [allMonitors, List.flatMap_assoc, funext single]

theorem countP_monitor {captures : List Task}
    (others : ∀ task ∈ captures, task.duty.kind ≠ .monitor) :
    (allMonitors options units ++ captures).countP
        (fun task => task.duty.kind = .monitor ∧ tag ∈ task.tags) =
      (allMonitors options units).countP fun task => tag ∈ task.tags := by
  have none : captures.countP (fun task => task.duty.kind = .monitor ∧ tag ∈ task.tags) = 0 := by
    rw [List.countP_eq_zero]
    intro task member
    simp [others task member]
  rw [List.countP_append, none, Nat.add_zero]
  apply List.countP_congr
  intro task member
  obtain ⟨unit, _, _, _, rfl⟩ := mem_allMonitors member
  simp [monitor, Duty.kind]

theorem countP_capture {captures : List Task}
    (others : ∀ task ∈ captures, task.duty.kind ≠ .monitor) :
    (allMonitors options units ++ captures).countP
        (fun task => task.duty.kind ≠ .monitor ∧ tag ∈ task.tags) =
      captures.countP fun task => tag ∈ task.tags := by
  have none : (allMonitors options units).countP
      (fun task => task.duty.kind ≠ .monitor ∧ tag ∈ task.tags) = 0 := by
    rw [List.countP_eq_zero]
    intro task member
    obtain ⟨unit, _, _, _, rfl⟩ := mem_allMonitors member
    simp [monitor, Duty.kind]
  rw [List.countP_append, none, Nat.zero_add]
  apply List.countP_congr
  intro task member
  simp [others task member]

end Task

/-! ## Coverage -/

theorem Period.kind_of_value {period : Double} (number : period.isFinite = true) :
    (1 ≤ period.toRat → kind period = .periodic) ∧
      (0 < period.toRat → period.toRat < 1 → kind period = .change) ∧
      (period.toRat < 0 → kind period = .handshake) := by
  simp only [kind, Double.isZero_iff number, Double.isNegative_iff number,
    Double.isBelowOne_iff number]
  refine ⟨fun least => ?_, fun positive below => ?_, fun negative => ?_⟩
  · have positive : 0 < period.toRat := lt_of_lt_of_le one_pos least
    rw [if_neg positive.ne', if_neg positive.not_gt, if_neg least.not_gt]
  · rw [if_neg positive.ne', if_neg positive.not_gt, if_pos below]
  · rw [if_neg negative.ne, if_pos negative]

namespace Task

/-- How tasks cover a point through its tag in a module: one task shows the tag live, one captures
it unless the period is zero, and what the capture does goes by the value of the period. -/
structure Covered (tasks : List Task) (sheet : Sheet) (module : Int) (point : Point) (tag : Tag) :
    Prop where
  live : tasks.countP (fun task => task.duty.kind = .monitor ∧ tag ∈ task.tags) = 1
  captured : tasks.countP (fun task => task.duty.kind ≠ .monitor ∧ tag ∈ task.tags) =
    if point.period.toRat = 0 then 0 else 1
  unit : ∀ task ∈ tasks, tag ∈ task.tags → task.sheet = sheet.name ∧ task.module = module
  kind : ∀ task ∈ tasks, tag ∈ task.tags → task.duty.kind ≠ .monitor →
    (1 ≤ point.period.toRat → task.duty.kind = .periodic) ∧
      (0 < point.period.toRat → point.period.toRat < 1 → task.duty.kind = .change) ∧
      (point.period.toRat < 0 → task.duty.kind = .handshake)

/-- How tasks cover a configuration. -/
structure Covers (options : Options) (config : Config) (units : List SheetUnit)
    (tasks : List Task) : Prop where
  /-- One live task for every tag, then one capture for every group, both in the order of the
  units. -/
  order : ∃ captures,
    tasks = (units.flatMap fun unit => unit.tags.map (monitor options.monitorInterval unit))
      ++ captures ∧
    List.Forall₂ (CaptureOf options) (units.flatMap SheetUnit.groups) captures
  points : ∀ module : Int, 1 ≤ module → module ≤ config.maxModules → ∀ sheet ∈ config.sheets,
    ∀ point ∈ sheet.points, ∃ tag, SheetUnit.tagOf module point = .ok tag ∧
      Covered tasks sheet module point tag

/-- A task that captures the tag of a point is of the point's sheet and of the tag's module, and it
is of the kind of the point's period. -/
theorem capture_of_tag {tables : Tables} {maxModules : Int} {options : Options} {config : Config}
    {units : List SheetUnit} {captures : List Task}
    (accepted : Validation.Accepted tables maxModules config)
    (built : SheetUnit.ofConfig config = .ok units)
    (related : List.Forall₂ (CaptureOf options) (allGroups units) captures) {sheet : Sheet}
    (sheetMember : sheet ∈ config.sheets) {point : Point} (member : point ∈ sheet.points)
    {module : Int} {tag : Tag} (tagged : SheetUnit.tagOf module point = .ok tag) {task : Task}
    (taskMember : task ∈ captures) (inside : tag ∈ task.tags) :
    task.sheet = sheet.name ∧ task.module = module ∧
      task.duty.kind = Period.kind point.period := by
  obtain ⟨group, groupMember, capture⟩ := Outcome.exists_of_mem_right related taskMember
  rw [capture.tags_eq] at inside
  obtain ⟨sheetEq, moduleEq, periodEq, _⟩ := SheetUnit.group_of_tag accepted built sheetMember
    member tagged groupMember inside
  rw [capture.sheet_eq, capture.module_eq, capture.kind_eq, periodEq]
  exact ⟨sheetEq, moduleEq, rfl⟩

/-- The tasks of a validated configuration cover it: nothing of it is left out, and nothing is
captured twice. -/
theorem ofUnits_covers {tables : Tables} {maxModules : Int} {options : Options} {config : Config}
    {units : List SheetUnit} {tasks : List Task}
    (validated : Validation.validate tables maxModules = .ok config)
    (built : SheetUnit.ofConfig config = .ok units)
    (classified : ofUnits options units = .ok tasks) : Covers options config units tasks := by
  have accepted := Validation.validate_eq_ok validated
  obtain ⟨captures, made, rfl⟩ := ofUnits_eq_ok.mp classified
  have related := captures_of_ofGroups made
  have notMonitor := captures_kind related
  have groupTags := captures_flatMap_tags related
  refine ⟨⟨captures, rfl, related⟩, ?_⟩
  intro module lower upper sheet sheetMember point member
  obtain ⟨unit, unitMember, instantiated⟩ :=
    SheetUnit.exists_unit built lower upper sheetMember
  obtain ⟨tag, itemMember⟩ := instantiated.exists_mem_zip member
  have tagged := instantiated.tagOf_of_mem_zip itemMember
  have number := (accepted.usable sheetMember member).period_finite
  refine ⟨tag, tagged, ?_, ?_, ?_, ?_⟩
  · have distinct := SheetUnit.allTags_nodup accepted built
    rw [← allMonitors_flatMap_tags options] at distinct
    rw [countP_monitor notMonitor, countP_mem_of_nodup distinct, allMonitors_flatMap_tags, if_pos]
    exact List.mem_flatMap.mpr ⟨unit, unitMember, (List.of_mem_zip itemMember).2⟩
  · have distinct := SheetUnit.allGroups_tags_nodup accepted built
    rw [← groupTags] at distinct
    rw [countP_capture notMonitor, countP_mem_of_nodup distinct, groupTags]
    simp only [SheetUnit.mem_allGroups_tags_iff accepted built lower upper sheetMember member
      tagged, ← Double.isZero_iff number]
    cases point.period.isZero <;> rfl
  · intro task taskMember inside
    rcases List.mem_append.mp taskMember with live | capture
    · obtain ⟨holder, holderMember, other, otherMember, rfl⟩ := mem_allMonitors live
      obtain rfl : tag = other := List.mem_singleton.mp inside
      exact SheetUnit.unit_of_tag accepted built sheetMember member tagged holderMember otherMember
    · obtain ⟨sheetEq, moduleEq, _⟩ :=
        capture_of_tag accepted built related sheetMember member tagged capture inside
      exact ⟨sheetEq, moduleEq⟩
  · intro task taskMember inside notLive
    rcases List.mem_append.mp taskMember with live | capture
    · obtain ⟨_, _, _, _, rfl⟩ := mem_allMonitors live
      exact absurd rfl notLive
    · rw [(capture_of_tag accepted built related sheetMember member tagged capture inside).2.2]
      exact Period.kind_of_value number

/-- A workbook with a point of every kind: one trigger in two spellings, another of the same period,
and two handshakes without trigger. -/
def handshakeTables : Tables where
  devices := some [
    [("Device", .text "Line_M1"), ("IP", .text "10.0.0.1")],
    [("Device", .text "Line_M2"), ("IP", .text "10.0.0.2")]]
  sheets := [
    ("Line", [
      [("PropertyName", .text "Fill"), ("Type", .text "short"), ("ValueAddress", .text "D1"),
        ("TriggerAddress", .text "D7"), ("Period", .int (-5))],
      [("PropertyName", .text "Level"), ("Type", .text "float"), ("ValueAddress", .text "D2"),
        ("Period", .text "0.25")],
      [("PropertyName", .text "Speed"), ("Type", .text "short"), ("ValueAddress", .text "D4"),
        ("TriggerAddress", .text "D8"), ("Period", .int (-5))],
      [("PropertyName", .text "Batch"), ("Type", .text "string"), ("ValueAddress", .text "D20"),
        ("TriggerAddress", .text " x7"), ("Period", .int (-5))],
      [("PropertyName", .text "Run"), ("Type", .text "bool"), ("ValueAddress", .text "M1")],
      [("PropertyName", .text "Count"), ("Type", .text "int"), ("ValueAddress", .text "D9"),
        ("Period", .int 1000)],
      [("PropertyName", .text "Drain"), ("Type", .text "short"), ("ValueAddress", .text "D11"),
        ("Period", .int (-1))],
      [("PropertyName", .text "Spill"), ("Type", .text "short"), ("ValueAddress", .text "D12"),
        ("Period", .text "-2.5")]])]

theorem build_handshakeTables :
    ∃ program, Program.build handshakeTables Options.sample = .ok program :=
  Outcome.exists_ok_of_toBool (by decide +kernel)

theorem handshakeTables_covered :
    ∃ config units tasks, Validation.validate handshakeTables 2 = .ok config ∧
      SheetUnit.ofConfig config = .ok units ∧ ofUnits Options.sample units = .ok tasks ∧
      Covers Options.sample config units tasks := by
  obtain ⟨program, built⟩ := build_handshakeTables
  have stages := Program.build_eq_ok.mp built
  exact ⟨program.config, program.units, program.tasks, stages.validated, stages.units,
    stages.tasks, ofUnits_covers stages.validated stages.units stages.tasks⟩

end Task

end PointTable
