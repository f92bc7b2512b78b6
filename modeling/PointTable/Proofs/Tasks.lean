import PointTable.Proofs.Outcome
import PointTable.Task

/-!
# Tasks of period groups

Making tasks is one pass over the groups that carries the names taken so far. Apart from its name a
task is settled by its group alone, and that is said by `CaptureOf`; which name it gets depends on
the tasks before it.
-/

namespace PointTable.Task

variable {options : Options} {group : PeriodGroup} {groups : List PeriodGroup} {task : Task}

/-- A task captures a group: it does the duty of the group for the tags of the group, at the
intervals of the group's period. -/
structure CaptureOf (options : Options) (group : PeriodGroup) (task : Task) : Prop where
  written : Number.isWritable group.module = true
  captured : Period.kind group.period ≠ .monitor
  sheet_eq : task.sheet = group.sheet
  module_eq : task.module = group.module
  groupKey_eq : task.groupKey = group.key
  timing : Period.milliseconds group.period = .ok task.timing
  tags_eq : task.tags = group.tags
  duty_eq : task.duty = dutyOf options group

theorem CaptureOf.kind_eq (capture : CaptureOf options group task) :
    task.duty.kind = Period.kind group.period := by
  rw [capture.duty_eq, kind_dutyOf]

theorem CaptureOf.kind_ne_monitor (capture : CaptureOf options group task) :
    task.duty.kind ≠ .monitor := by
  rw [capture.kind_eq]
  exact capture.captured

/-- A capture is stored under the name of its sheet and period. -/
theorem CaptureOf.storage?_eq (capture : CaptureOf options group task) :
    task.duty.storage? = some (Period.storageName group.sheet group.period) := by
  have captured := capture.captured
  rw [capture.duty_eq, dutyOf]
  cases kind : Period.kind group.period <;> simp_all [Duty.storage?]

theorem CaptureOf.rename (capture : CaptureOf options group task) (name : String) :
    CaptureOf options group { task with name } :=
  ⟨capture.written, capture.captured, capture.sheet_eq, capture.module_eq, capture.groupKey_eq,
    capture.timing, capture.tags_eq, capture.duty_eq⟩

/-- The task of a group captures it under the name of the group. -/
@[simp] theorem ofGroup_eq_ok : ofGroup options group = .ok task ↔
    CaptureOf options group task ∧ task.name = groupName options group := by
  simp only [ofGroup, Outcome.bind_eq_ok, Outcome.mapError_eq_ok, deviceNameFor_eq_ok]
  by_cases monitor : Period.kind group.period = .monitor
  · simp only [monitor, ↓reduceIte, reduceCtorEq, and_false, exists_false, false_iff]
    rintro ⟨capture, _⟩
    exact capture.captured monitor
  · simp only [monitor, ↓reduceIte, Outcome.bind_eq_ok, Outcome.mapError_eq_ok,
      Outcome.pure_eq_ok, Except.ok.injEq]
    constructor
    · rintro ⟨_, ⟨written, _⟩, timing, timed, rfl⟩
      exact ⟨⟨written, monitor, rfl, rfl, rfl, timed, rfl, rfl⟩, rfl⟩
    · rintro ⟨capture, named⟩
      refine ⟨_, ⟨capture.written, rfl⟩, task.timing, capture.timing, ?_⟩
      rw [← named, ← capture.sheet_eq, ← capture.module_eq, ← capture.groupKey_eq,
        ← capture.tags_eq, ← capture.duty_eq]

/-- One step of the pass: the first group has a capture under a name that is as free as can be, and
the rest is made with that name taken. -/
@[simp] theorem ofGroups_cons_eq_ok {taken : List String} {tasks : List Task} :
    ofGroups options taken (group :: groups) = .ok tasks ↔
      ∃ task others, CaptureOf options group task ∧
        task.name = freeName taken (groupName options group) group ∧
        ofGroups options (task.name :: taken) groups = .ok others ∧ tasks = task :: others := by
  simp only [ofGroups, Outcome.bind_eq_ok, Outcome.pure_eq_ok, Except.ok.injEq, ofGroup_eq_ok]
  constructor
  · rintro ⟨own, ⟨capture, named⟩, others, made, rfl⟩
    rw [named] at made
    exact ⟨_, others, capture.rename _, by rw [named], by rw [named]; exact made, rfl⟩
  · rintro ⟨task, others, capture, named, made, rfl⟩
    refine ⟨{ task with name := groupName options group }, ⟨capture.rename _, rfl⟩, others, ?_, ?_⟩
    · rw [← named]
      exact made
    · rw [← named]

theorem captures_of_ofGroups {taken : List String} {tasks : List Task}
    (made : ofGroups options taken groups = .ok tasks) :
    List.Forall₂ (CaptureOf options) groups tasks := by
  induction groups generalizing taken tasks with
  | nil =>
      cases made
      exact .nil
  | cons group rest ih =>
      obtain ⟨task, others, capture, _, remaining, rfl⟩ := ofGroups_cons_eq_ok.mp made
      exact .cons capture (ih remaining)

theorem captures_kind {tasks : List Task}
    (related : List.Forall₂ (CaptureOf options) groups tasks) :
    ∀ task ∈ tasks, task.duty.kind ≠ .monitor := by
  intro task member
  obtain ⟨group, _, capture⟩ := Outcome.exists_of_mem_right related member
  exact capture.kind_ne_monitor

theorem captures_flatMap_tags {tasks : List Task}
    (related : List.Forall₂ (CaptureOf options) groups tasks) :
    tasks.flatMap Task.tags = groups.flatMap PeriodGroup.tags := by
  rw [List.flatMap_def, List.flatMap_def, Outcome.map_eq_map related]
  intro group task capture
  exact capture.tags_eq.symm

/-- All tasks are the live ones, followed by the captures of all groups. -/
@[simp] theorem ofUnits_eq_ok {units : List SheetUnit} {tasks : List Task} :
    ofUnits options units = .ok tasks ↔
      ∃ captures, ofGroups options ((allMonitors options units).map Task.name)
          (allGroups units) = .ok captures ∧
        tasks = allMonitors options units ++ captures := by
  simp only [ofUnits, Outcome.bind_eq_ok, Outcome.pure_eq_ok, Except.ok.injEq]
  exact exists_congr fun captures => and_congr_right fun _ => eq_comm

end PointTable.Task
