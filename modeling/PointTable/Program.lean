import PointTable.Storage
import PointTable.Task
import PointTable.Validation

/-!
# Programs

Everything that is derived from one workbook under some options: the units, their read requests,
the tasks, the storage schema, the services to open and the names to show. A program is always
built anew as a whole.
-/

namespace PointTable

open Text Number

/-- The network service of a unit. -/
structure Service where
  name : String
  deviceName : String
  sheet : String
  module : Int
  ip : String
  port : Int
  deriving DecidableEq, Repr

def Service.ofUnit (unit : SheetUnit) : Service :=
  ⟨"_" ++ toString unit.module ++ unit.sheet, unit.device.name, unit.sheet, unit.module,
    unit.device.ip, unit.device.port⟩

/-- Where the blocks of one table of a unit are filed. -/
structure BlockKey where
  sheet : String
  module : Int
  table : TableKind
  deriving DecidableEq, Repr

/-- The name of the task that reads a block. -/
def BlockKey.taskName (key : BlockKey) (index : Nat) : String :=
  key.sheet ++ "_M" ++ toString key.module ++ "_"
    ++ (if key.table = .coil then "Coils" else "Regs") ++ "_" ++ toString index

/-- Everything derived from one workbook. -/
structure Program where
  options : Options
  config : Config
  units : List SheetUnit
  requestBlocks : List (BlockKey × List Block)
  tasks : List Task
  storage : List StorageTable
  deriving Repr

namespace Program

/-- Why a program cannot be built. -/
inductive Fault where
  | validation (fault : Validation.Fault)
  | unit (fault : SheetUnit.Fault)
  | task (fault : Task.Fault)
  deriving Repr

def Fault.message : Fault → String
  | .validation fault => fault.message
  | .unit fault => fault.message
  | .task fault => fault.message

/-- The services of units, in order. -/
def services (units : List SheetUnit) : List Service :=
  units.map Service.ofUnit

/-- For every point the name it is shown under and the stem of its tag names. -/
def displayBindings (config : Config) : List (String × String) :=
  config.sheets.flatMap fun sheet => sheet.points.map fun point =>
    ("Current" ++ point.propertyName, point.propertyName ++ "_M")

/-- The read requests of a unit by table. -/
def unitBlocks (limits : Limits) (unit : SheetUnit) : List (BlockKey × List Block) :=
  (Batching.plan limits unit.tags).map fun (table, blocks) =>
    (⟨unit.sheet, unit.module, table⟩, blocks)

/-- The read requests of all units, filed by sheet, module and table. -/
def blocksOf (limits : Limits) (units : List SheetUnit) : List (BlockKey × List Block) :=
  Ordered.ofPairs (units.flatMap (unitBlocks limits))

def ofConfig (config : Config) (options : Options) : Except Fault Program := do
  let units ← (SheetUnit.ofConfig config).mapError .unit
  let tasks ← (Task.ofUnits options units).mapError .task
  return ⟨options, config, units, blocksOf options.limits units, tasks,
    StorageTable.ofConfig config⟩

/-- Build the program of a workbook. -/
def build (tables : Tables) (options : Options) : Except Fault Program := do
  let config ← (Validation.validate tables options.maxModules).mapError .validation
  ofConfig config options

/-- The events of a build, as far as it gets. -/
def events (tables : Tables) (options : Options) : List Event :=
  Validation.events tables options.maxModules ++
    match Validation.validate tables options.maxModules with
    | .error _ => []
    | .ok config =>
      match SheetUnit.ofConfig config with
      | .error _ => []
      | .ok units =>
        SheetUnit.events config units
          ++ units.flatMap (fun unit => Batching.planEvents options.limits unit.tags)
          ++ Task.events options units
          ++ match ofConfig config options with
            | .error _ => []
            | .ok program =>
              StorageTable.events config ++
                [.compiled units.length
                  (program.requestBlocks.flatMap Prod.snd).length
                  program.tasks.length program.storage.length]

/-- The build of a workbook together with its events. -/
def compile (tables : Tables) (options : Options) : Report Fault Program :=
  ⟨events tables options, build tables options⟩

/-- The blocks of a unit, of one table or of both. -/
def blocksFor (program : Program) (sheet : String) (module : Int) (table : Option TableKind) :
    List Block :=
  (program.requestBlocks.filter fun (key, _) =>
    key.sheet = sheet && key.module = module && table.all (· = key.table)).flatMap Prod.snd

/-- Why there is no unit of a sheet and module. -/
inductive NoUnit where
  | missing (sheet : String) (module : Int)
  /-- It is missing, and its module cannot be written. -/
  | digits (fault : WriteFault)
  deriving DecidableEq, Repr

def NoUnit.message : NoUnit → String
  | .missing sheet module =>
    quoted ("No unit for sheet " ++ quoted sheet ++ " module " ++ toString module)
  | .digits fault => fault.message

def unit (program : Program) (sheet : String) (module : Int) : Except NoUnit SheetUnit :=
  match SheetUnit.find? program.units sheet module with
  | some unit => .ok unit
  | none =>
    match ifWritable (isWritable module) (NoUnit.missing sheet module) with
    | .ok missing => .error missing
    | .error fault => .error (.digits fault)

end Program

end PointTable
