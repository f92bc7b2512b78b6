import PointTable.Proofs.Groups
import PointTable.Proofs.Period
import PointTable.Proofs.Program

/-!
# Which configurations compile

Behind validation only one step can fail: the timing of a task, when the period of its group is
below zero and its thousandfold overflows. So a validated configuration compiles exactly when all
its periods are timed, and the one fault that is left is that of an infinite timing.
-/

namespace PointTable

/-! ## Tasks of groups -/

namespace Task

variable {options : Options} {groups : List PeriodGroup}

theorem kind_ne_monitor {period : Double} (nonzero : period.isZero = false) :
    Period.kind period ≠ .monitor := by
  unfold Period.kind
  split_ifs <;> simp_all

section

variable {group : PeriodGroup} (written : Number.isWritable group.module = true)
  (number : group.period.isFinite = true)

include written number

theorem ofGroup_ok (nonzero : group.period.isZero = false) (timed : Period.Timed group.period) :
    ∃ task, ofGroup options group = .ok task := by
  obtain ⟨timing, milliseconds⟩ := Period.milliseconds_ok number timed
  simp [ofGroup, deviceNameFor, instanceName, written, kind_ne_monitor nonzero, milliseconds]

theorem ofGroup_overflow (untimed : ¬Period.Timed group.period) :
    ofGroup options group = .error (.timing .infinity) := by
  simp [ofGroup, deviceNameFor, instanceName, written,
    kind_ne_monitor (Period.nonzero_of_untimed untimed),
    Period.milliseconds_overflow number untimed]

end

/-- If every group has a task, so have all of them; the names that are taken only rename. -/
theorem ofGroups_ok (every : ∀ group ∈ groups, ∃ task, ofGroup options group = .ok task)
    (taken : List String) : ∃ tasks, ofGroups options taken groups = .ok tasks := by
  induction groups generalizing taken with
  | nil => exact ⟨[], rfl⟩
  | cons group rest ih =>
      rw [List.forall_mem_cons] at every
      obtain ⟨task, made⟩ := every.1
      obtain ⟨tasks, others⟩ := ih every.2 (freeName taken task.name group :: taken)
      simp only [ofGroups, made, Outcome.bind_eq_ok, Outcome.pure_eq_ok]
      exact ⟨_, task, rfl, tasks, others, rfl⟩

/-- If groups can fail with one fault only and one of them does, all of them fail with it. -/
theorem ofGroups_error {fault : Fault}
    (either : ∀ group ∈ groups,
      (∃ task, ofGroup options group = .ok task) ∨ ofGroup options group = .error fault)
    (failing : ∃ group ∈ groups, ofGroup options group = .error fault) (taken : List String) :
    ofGroups options taken groups = .error fault := by
  induction groups generalizing taken with
  | nil =>
      obtain ⟨group, member, _⟩ := failing
      cases member
  | cons group rest ih =>
      rw [List.forall_mem_cons] at either
      rcases either.1 with ⟨task, made⟩ | failed
      · have later : ∃ other ∈ rest, ofGroup options other = .error fault := by
          obtain ⟨other, member, failed⟩ := failing
          rcases List.mem_cons.mp member with rfl | later
          · rw [made] at failed
            cases failed
          · exact ⟨other, later, failed⟩
        simp only [ofGroups, made]
        rw [show (Except.ok task : Except Fault Task) = pure task from rfl, pure_bind,
          ih either.2 later]
        rfl
      · simp only [ofGroups, failed]
        rfl

end Task

/-! ## Periods of all groups -/

namespace SheetUnit

variable {tables : Tables} {maxModules : Int} {config : Config} {units : List SheetUnit}

theorem captured_of_mem_allGroups (accepted : Validation.Accepted tables maxModules config)
    (built : ofConfig config = .ok units) {group : PeriodGroup}
    (member : group ∈ Task.allGroups units) :
    ∃ sheet ∈ config.sheets, Captured sheet group.period := by
  obtain ⟨unit, unitMember, groupMember⟩ := List.mem_flatMap.mp member
  obtain ⟨module, sheet, sheetMember, _, grouped⟩ :=
    groupOf_of_mem_groups accepted built unitMember groupMember
  exact ⟨sheet, sheetMember, grouped.captured⟩

theorem written_of_mem_allGroups (accepted : Validation.Accepted tables maxModules config)
    (built : ofConfig config = .ok units) {group : PeriodGroup}
    (member : group ∈ Task.allGroups units) : Number.isWritable group.module = true := by
  obtain ⟨unit, unitMember, groupMember⟩ := List.mem_flatMap.mp member
  obtain ⟨module, sheet, _, instantiated, grouped⟩ :=
    groupOf_of_mem_groups accepted built unitMember groupMember
  rw [grouped.module_eq]
  exact instantiated.written

theorem exists_mem_allGroups (accepted : Validation.Accepted tables maxModules config)
    (built : ofConfig config = .ok units) {sheet : Sheet} (sheetMember : sheet ∈ config.sheets)
    {period : Double} (captured : Captured sheet period) :
    ∃ group ∈ Task.allGroups units, group.period = period := by
  have positive := accepted.modules_pos
  have count := accepted.modules
  have pairMember : ((1 : Int), sheet) ∈ pairsFrom config.sheets 1 config.maxModules :=
    mem_pairsFrom.mpr ⟨by omega, sheetMember⟩
  obtain ⟨unit, unitMember, instantiated⟩ :=
    Outcome.exists_of_mem_left (ofConfig_eq_ok.mp built) pairMember
  have numbers : ∀ point ∈ sheet.points, point.period.isFinite = true := fun point pointMember =>
    (accepted.usable sheetMember pointMember).period_finite
  obtain ⟨group, groupMember, same⟩ :=
    exists_group_of_captured 1 instantiated.tags_forall₂.length_eq numbers captured
  rw [← instantiated.groups] at groupMember
  exact ⟨group, List.mem_flatMap.mpr ⟨unit, unitMember, groupMember⟩, same⟩

end SheetUnit

/-! ## Builds -/

namespace Program

section

variable {tables : Tables} {options : Options} {config : Config} {units : List SheetUnit}

/-- The period of a group is a number other than zero, and the period of some point. -/
theorem period_of_mem_allGroups
    (accepted : Validation.Accepted tables options.maxModules config)
    (built : SheetUnit.ofConfig config = .ok units) {group : PeriodGroup}
    (member : group ∈ Task.allGroups units) :
    group.period.isFinite = true ∧ group.period.isZero = false ∧
      ∃ sheet ∈ config.sheets, ∃ point ∈ sheet.points, point.period = group.period := by
  obtain ⟨sheet, sheetMember, point, pointMember, same, nonzero⟩ :=
    SheetUnit.captured_of_mem_allGroups accepted built member
  refine ⟨?_, nonzero, sheet, sheetMember, point, pointMember, same⟩
  rw [← same]
  exact (accepted.usable sheetMember pointMember).period_finite

theorem tasks_ok (accepted : Validation.Accepted tables options.maxModules config)
    (built : SheetUnit.ofConfig config = .ok units)
    (timed : ∀ sheet ∈ config.sheets, ∀ point ∈ sheet.points, Period.Timed point.period) :
    ∃ tasks, Task.ofUnits options units = .ok tasks := by
  obtain ⟨captures, made⟩ :
      ∃ captures, Task.ofGroups options ((Task.allMonitors options units).map Task.name)
        (Task.allGroups units) = .ok captures := by
    apply Task.ofGroups_ok
    intro group member
    obtain ⟨number, nonzero, sheet, sheetMember, point, pointMember, same⟩ :=
      period_of_mem_allGroups accepted built member
    exact Task.ofGroup_ok (SheetUnit.written_of_mem_allGroups accepted built member) number nonzero
      (same ▸ timed sheet sheetMember point pointMember)
  rw [Task.ofUnits, made]
  exact ⟨_, rfl⟩

theorem tasks_overflow (accepted : Validation.Accepted tables options.maxModules config)
    (built : SheetUnit.ofConfig config = .ok units) {sheet : Sheet}
    (sheetMember : sheet ∈ config.sheets) {point : Point} (pointMember : point ∈ sheet.points)
    (untimed : ¬Period.Timed point.period) :
    Task.ofUnits options units = .error (.timing .infinity) := by
  have failed : Task.ofGroups options ((Task.allMonitors options units).map Task.name)
      (Task.allGroups units) = .error (.timing .infinity) := by
    apply Task.ofGroups_error
    · intro group member
      have written := SheetUnit.written_of_mem_allGroups accepted built member
      obtain ⟨number, nonzero, _⟩ := period_of_mem_allGroups accepted built member
      by_cases timed : Period.Timed group.period
      · exact .inl (Task.ofGroup_ok written number nonzero timed)
      · exact .inr (Task.ofGroup_overflow written number timed)
    · have captured : SheetUnit.Captured sheet point.period :=
        ⟨point, pointMember, rfl, Period.nonzero_of_untimed untimed⟩
      obtain ⟨group, groupMember, same⟩ :=
        SheetUnit.exists_mem_allGroups accepted built sheetMember captured
      refine ⟨group, groupMember, Task.ofGroup_overflow
        (SheetUnit.written_of_mem_allGroups accepted built groupMember) ?_ ?_⟩
      · rw [same]
        exact (accepted.usable sheetMember pointMember).period_finite
      · rw [same]
        exact untimed
  rw [Task.ofUnits, failed]
  rfl

end

/-- A validated configuration compiles exactly when all its periods are timed. Otherwise the build
fails for an infinite timing, and for nothing else. -/
theorem build_ok_iff_timed {tables : Tables} {options : Options} {config : Config}
    (validated : Validation.validate tables options.maxModules = .ok config) :
    ((∃ program, build tables options = .ok program) ↔
        ∀ sheet ∈ config.sheets, ∀ point ∈ sheet.points, Period.Timed point.period) ∧
      ((¬∃ program, build tables options = .ok program) →
        build tables options = .error (.task (.timing .infinity))) := by
  have accepted := Validation.validate_eq_ok validated
  obtain ⟨units, built⟩ := SheetUnit.ofConfig_ok_of_accepted accepted
  have buildEq := build_of_units validated built
  by_cases timed : ∀ sheet ∈ config.sheets, ∀ point ∈ sheet.points, Period.Timed point.period
  · obtain ⟨tasks, made⟩ := tasks_ok accepted built timed
    have succeeds : ∃ program, build tables options = .ok program := by
      rw [buildEq, made]
      exact ⟨_, rfl⟩
    exact ⟨iff_of_true succeeds timed, fun fails => (fails succeeds).elim⟩
  · have untimed : ∃ sheet ∈ config.sheets, ∃ point ∈ sheet.points,
        ¬Period.Timed point.period := by simpa using timed
    obtain ⟨sheet, sheetMember, point, pointMember, untimed⟩ := untimed
    have failed : build tables options = .error (.task (.timing .infinity)) := by
      rw [buildEq, tasks_overflow accepted built sheetMember pointMember untimed]
      rfl
    refine ⟨iff_of_false ?_ timed, fun _ => failed⟩
    rintro ⟨program, succeeds⟩
    rw [failed] at succeeds
    cases succeeds

theorem sampleTables_timed :
    Validation.validate Validation.sampleTables Options.sample.maxModules =
        .ok Validation.sampleConfig ∧
      (∃ program, build Validation.sampleTables Options.sample = .ok program) ∧
      ∀ sheet ∈ Validation.sampleConfig.sheets, ∀ point ∈ sheet.points,
        Period.Timed point.period := by
  have validated : Validation.validate Validation.sampleTables Options.sample.maxModules =
      .ok Validation.sampleConfig := Validation.validate_sampleTables
  exact ⟨validated, build_sampleTables, (build_ok_iff_timed validated).1.mp build_sampleTables⟩

/-- A workbook with one handshake every `10 ^ 306` seconds. -/
def slowTables : Tables where
  devices := some [[("Device", .text "Line_M1"), ("IP", .text "10.0.0.1")]]
  sheets := [("Line", [
    [("PropertyName", .text "Count"), ("Type", .text "short"), ("ValueAddress", .text "D1"),
      ("TriggerAddress", .text "D7"), ("Period", .text "-1e306")]])]

theorem slowTables_fail :
    (∃ config, Validation.validate slowTables Options.standard.maxModules = .ok config) ∧
      ∃ fault, build slowTables Options.standard = .error fault ∧
        fault.message = "cannot convert float infinity to integer" := by
  have message : (Outcome.fault? (build slowTables Options.standard)).map Fault.message =
      some "cannot convert float infinity to integer" := by
    decide +kernel
  constructor
  · exact Outcome.exists_ok_of_toBool (by decide +kernel)
  · obtain ⟨fault, failed, worded⟩ := Option.map_eq_some_iff.mp message
    exact ⟨fault, Outcome.eq_error_of_fault? failed, worded⟩

end Program

end PointTable
