import PointTable.Options
import PointTable.SheetUnit

/-!
# Tasks

What a running application does over and over: show every tag live, and capture every period group
on its own schedule. Each task has a name, which is told apart by the period where two groups of a
unit would share one.
-/

namespace PointTable

open Number

/-- The exchange by which a device asks for a capture and is told that it is done. -/
structure Handshake where
  triggerAddress : String
  returnAddress : String
  timeout : Nat
  poll : Nat
  deriving DecidableEq, Repr

namespace Handshake

/-- What the trigger holds when a capture is asked for. -/
def triggerValue : Int := 11

/-- What is written to the return address when a capture is done. -/
def ackValue : Int := 11

/-- What both addresses hold between captures. -/
def resetValue : Int := 0

/-- The steps of one exchange. -/
def steps (handshake : Handshake) : Except WriteFault (List String) :=
  let timeout := " (timeout " ++ toString handshake.timeout ++ " ms)"
  ifWritable (isWritable handshake.timeout) [
    "wait " ++ handshake.triggerAddress ++ " == " ++ toString triggerValue,
    "capture and persist group",
    "write " ++ handshake.returnAddress ++ " = " ++ toString ackValue,
    "poll " ++ handshake.returnAddress ++ " == " ++ toString resetValue ++ timeout,
    "poll " ++ handshake.triggerAddress ++ " == " ++ toString resetValue ++ timeout ]

end Handshake

/-- What a task does at each tick. All but monitoring write to a storage table. -/
inductive Duty where
  | monitor
  | periodic (storage : String)
  | change (storage : String)
  | handshake (storage : String) (protocol : Handshake)
  deriving DecidableEq, Repr

namespace Duty

def kind : Duty → TaskKind
  | .monitor => .monitor
  | .periodic _ => .periodic
  | .change _ => .change
  | .handshake _ _ => .handshake

/-- The storage table a duty writes to. -/
def storage? : Duty → Option String
  | .monitor => none
  | .periodic storage | .change storage | .handshake storage _ => some storage

def handshake? : Duty → Option Handshake
  | .handshake _ protocol => some protocol
  | _ => none

end Duty

/-- Something done over and over. -/
structure Task where
  name : String
  sheet : String
  module : Int
  groupKey : String
  /-- The milliseconds between two ticks. -/
  timing : Int
  tags : List Tag
  duty : Duty
  deriving DecidableEq, Repr

namespace Task

/-- Why a group has no task. -/
inductive Fault where
  /-- The number of the module cannot be written. -/
  | digits (fault : WriteFault)
  /-- Points of period zero are only monitored. -/
  | monitorOnly (unit : String)
  /-- The interval is no integer. -/
  | timing (fault : ConversionFault)
  deriving DecidableEq, Repr

def Fault.message : Fault → String
  | .digits fault => fault.message
  | .monitorOnly unit =>
    "Period 0 points of " ++ unit ++ " are monitor-only and have no group task"
  | .timing fault => fault.message

/-- The task that shows a tag live. -/
def monitor (interval : Nat) (unit : SheetUnit) (tag : Tag) : Task :=
  ⟨"Monitor_" ++ tag.name, unit.sheet, unit.module, tag.name, interval, [tag], .monitor⟩

/-- The live tasks of a unit, one per tag. -/
def monitors (interval : Nat) (unit : SheetUnit) : List Task :=
  unit.tags.map (monitor interval unit)

/-- An address unless it is missing or empty, and zero then. -/
def addressOrZero (address : Option String) : String :=
  match address with
  | some text => if text.isEmpty then "0" else text
  | none => "0"

def handshakeOf (options : Options) (group : PeriodGroup) : Handshake :=
  ⟨addressOrZero group.triggerAddress, addressOrZero group.returnAddress,
    options.handshakeTimeout, options.handshakePoll⟩

def dutyOf (options : Options) (group : PeriodGroup) : Duty :=
  let storage := Period.storageName group.sheet group.period
  match Period.kind group.period with
  | .monitor => .monitor
  | .periodic => .periodic storage
  | .change => .change storage
  | .handshake => .handshake storage (handshakeOf options group)

@[simp] theorem kind_dutyOf (options : Options) (group : PeriodGroup) :
    (dutyOf options group).kind = Period.kind group.period := by
  simp only [dutyOf]
  cases Period.kind group.period <;> rfl

/-- The name of a group's task, before it is told apart. -/
def groupName (options : Options) (group : PeriodGroup) : String :=
  let unit := instanceSpelling group.sheet group.module
  match dutyOf options group with
  | .handshake _ protocol => unit ++ "_Handshake_T" ++ protocol.triggerAddress
  | _ => unit ++ "_Period_" ++ Period.text group.period

/-- The task of a period group. -/
def ofGroup (options : Options) (group : PeriodGroup) : Except Fault Task := do
  let unit ← (deviceNameFor group.sheet group.module).mapError .digits
  if Period.kind group.period = .monitor then .error (.monitorOnly unit)
  else do
    let timing ← (Period.milliseconds group.period).mapError .timing
    return ⟨groupName options group, group.sheet, group.module, group.key, timing, group.tags,
      dutyOf options group⟩

/-- The name that tells a group's task apart by its period. -/
def renamed (name : String) (group : PeriodGroup) : String :=
  name ++ "_P" ++ Period.nameText group.period

/-- The name of a group's task among names that are taken. -/
def freeName (taken : List String) (name : String) (group : PeriodGroup) : String :=
  if name ∈ taken then renamed name group else name

/-- The tasks of groups one after the other, given the names taken so far. -/
def ofGroups (options : Options) (taken : List String) :
    List PeriodGroup → Except Fault (List Task)
  | [] => .ok []
  | group :: rest => do
    let task ← ofGroup options group
    let name := freeName taken task.name group
    let tasks ← ofGroups options (name :: taken) rest
    return { task with name } :: tasks

def allMonitors (options : Options) (units : List SheetUnit) : List Task :=
  units.flatMap (monitors options.monitorInterval)

def allGroups (units : List SheetUnit) : List PeriodGroup :=
  units.flatMap SheetUnit.groups

/-- All tasks: the live ones, then one per group. -/
def ofUnits (options : Options) (units : List SheetUnit) : Except Fault (List Task) := do
  let live := allMonitors options units
  let captures ← ofGroups options (live.map Task.name) (allGroups units)
  return live ++ captures

/-! ## Events -/

/-- A warning for every task that is renamed, as far as tasks can be made. -/
def renameEvents (options : Options) (taken : List String) : List PeriodGroup → List Event
  | [] => []
  | group :: rest =>
    match ofGroup options group with
    | .error _ => []
    | .ok task =>
      let name := freeName taken task.name group
      (if task.name ∈ taken then [.taskRenamed task.name group.key name] else [])
        ++ renameEvents options (name :: taken) rest

/-- The events of making all tasks. -/
def events (options : Options) (units : List SheetUnit) : List Event :=
  renameEvents options ((allMonitors options units).map Task.name) (allGroups units)
    ++ (match ofUnits options units with
      | .ok tasks => [.tasksClassified tasks.length]
      | .error _ => [])

end Task

end PointTable
