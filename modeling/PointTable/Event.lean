import PointTable.Period
import PointTable.PointType

/-!
# Events

What a run has to say besides its result: warnings about tables that are accepted but look wrong,
and notes on progress. An event is recorded as its cause; its level, the area it belongs to and its
wording follow from that.
-/

namespace PointTable

open Text

/-- Something worth telling about a run. -/
inductive Event where
  /-- A file that should be an archive is none. -/
  | archiveUnreadable (path : String)
  | worksheetMissing (path part sheet : String)
  | workbookLoaded (path : String) (hasDevices : Bool) (sheets : Nat)
  | devicesRead (count : Nat)
  | sheetRead (name : String) (points : Nat)
  /-- The points of one trigger name several return addresses. -/
  | returnConflict (sheet trigger : String) (addresses : List String) (chosen : String)
  | unitsBuilt (sheets : Nat) (modules : Int) (tags : Nat)
  /-- A single tag is wider than the largest read. -/
  | oversizedBlock (table : TableKind) (start length limit : Int) (tag : String)
  | tagsBatched (table : TableKind) (tags blocks : Nat)
  | taskRenamed (name groupKey renamed : String)
  | tasksClassified (count : Nat)
  /-- Two periods of a sheet differ in sign only. -/
  | storageDropped (name : String) (period : Double)
  | compiled (units blocks tasks tables : Nat)
  deriving DecidableEq, Repr

namespace Event

/-- How grave an event is. -/
inductive Level where
  | debug
  | warning
  deriving DecidableEq, Repr

def Level.name : Level → String
  | .debug => "DEBUG"
  | .warning => "WARNING"

def level : Event → Level
  | .worksheetMissing .. | .returnConflict .. | .oversizedBlock .. | .taskRenamed ..
  | .storageDropped .. => .warning
  | _ => .debug

/-- The area of the program an event belongs to. -/
def area : Event → String
  | .archiveUnreadable .. | .worksheetMissing .. | .workbookLoaded .. => "pyplcpoint.loader"
  | .devicesRead .. | .sheetRead .. => "pyplcpoint.validate"
  | .returnConflict .. | .unitsBuilt .. => "pyplcpoint.builder"
  | .oversizedBlock .. | .tagsBatched .. => "pyplcpoint.optimizer"
  | .taskRenamed .. | .tasksClassified .. | .storageDropped .. => "pyplcpoint.tasks"
  | .compiled .. => "pyplcpoint.compiler"

/-- What a table holds, in the plural. -/
def tableUnits : TableKind → String
  | .coil => "coils"
  | .holdingRegister => "registers"

def message : Event → String
  | .archiveUnreadable path =>
    "openpyxl cannot open " ++ path
      ++ " (File is not a zip file); reading the workbook XML directly"
  | .worksheetMissing path part sheet =>
    path ++ ": worksheet " ++ part ++ " for sheet " ++ quoted sheet ++ " is missing"
  | .workbookLoaded path hasDevices sheets =>
    "Loaded " ++ path ++ ": device table " ++ (if hasDevices then "present" else "missing") ++ ", "
      ++ toString sheets ++ " sheets"
  | .devicesRead count => "Device table: " ++ toString count ++ " devices"
  | .sheetRead name points => "Sheet " ++ name ++ ": " ++ toString points ++ " points"
  | .returnConflict sheet trigger addresses chosen =>
    "Sheet " ++ sheet ++ " trigger " ++ trigger ++ ": points disagree on return address "
      ++ (Cell.list (addresses.map .text)).spelling ++ "; using " ++ chosen
  | .unitsBuilt sheets modules tags =>
    "Built IR: " ++ toString sheets ++ " sheets x " ++ toString modules ++ " modules, "
      ++ toString tags ++ " tags"
  | .oversizedBlock table start length limit tag =>
    "Block at " ++ toString start ++ " spans " ++ toString length ++ " " ++ tableUnits table
      ++ ", above max batch size " ++ toString limit ++ " (single tag " ++ tag ++ ")"
  | .tagsBatched table tags blocks =>
    "Optimized " ++ toString tags ++ " " ++ table.name ++ " tags into " ++ toString blocks
      ++ " blocks"
  | .taskRenamed name groupKey renamed =>
    "Task name " ++ name ++ " is already used; group " ++ groupKey ++ " renamed to " ++ renamed
  | .tasksClassified count => "Classified " ++ toString count ++ " tasks"
  | .storageDropped name period =>
    "Storage table " ++ name ++ " already defined; group with period " ++ period.text ++ " dropped"
  | .compiled units blocks tasks tables =>
    "Compiled " ++ toString units ++ " units: " ++ toString blocks ++ " request blocks, "
      ++ toString tasks ++ " tasks, " ++ toString tables ++ " storage tables"

/-- The wordings of the warnings among events. -/
def warnings (events : List Event) : List String :=
  (events.filter (·.level = .warning)).map message

end Event

/-- A result together with what happened on the way to it. The events stand also when the result
is an error. -/
structure Report (ε α : Type) where
  events : List Event
  outcome : Except ε α

namespace Report

def ofExcept {ε α : Type} (outcome : Except ε α) : Report ε α :=
  ⟨[], outcome⟩

/-- Go on with a good result and keep all events in order. -/
def andThen {ε α β : Type} (report : Report ε α) (next : α → Report ε β) : Report ε β :=
  match report.outcome with
  | .error fault => ⟨report.events, .error fault⟩
  | .ok value => ⟨report.events ++ (next value).events, (next value).outcome⟩

def mapError {ε φ α : Type} (wrap : ε → φ) (report : Report ε α) : Report φ α :=
  ⟨report.events, report.outcome.mapError wrap⟩

end Report

end PointTable
