import PointTable.CommandLine.Command
import PointTable.CommandLine.Words
import PointTable.Document
import PointTable.Json.Printer
import PointTable.Text.Terminal
import PointTable.Workbook.Load

/-!
# Running commands

What a run prints, writes and exits with, as a value. Events go to the error stream before the
error that ends a run: by default only warnings, and all events with their area if asked for. Lines
are printed without control sequences. A line that has no UTF-8 form ends a run, but on the error
stream what cannot be encoded is shown by its number.
-/

namespace PointTable.CommandLine

open Text Number

/-- Why a command fails. -/
inductive Fault where
  | options (fault : Options.Fault)
  | workbook (fault : Workbook.Fault)
  | program (fault : Program.Fault)
  | pointType (fault : PointType.Fault)
  | word (fault : WordFault)
  | order (unknown : UnknownName)
  | decode (fault : Codec.DecodeFault)
  deriving Repr

namespace Fault

def message : Fault → String
  | .options fault => fault.message
  | .workbook fault => fault.message
  | .program fault => fault.message
  | .pointType fault => fault.message
  | .word fault => fault.message
  | .order unknown => unknown.message
  | .decode fault => fault.message

/-- What kind of failure ends a run. -/
inductive Grade where
  /-- The input or the options are wrong. -/
  | input
  /-- The words do not hold the value. -/
  | decoding
  /-- Something that should not happen. -/
  | unforeseen
  deriving DecidableEq, Repr

/-- A number without counterpart is an input error only if it is no number at all. -/
def gradeOfConversion : ConversionFault → Grade
  | .notANumber => .input
  | _ => .unforeseen

def gradeOfWorkbook : Workbook.Fault → Grade
  | .file (.missing _) => .input
  | .file _ => .unforeseen
  | .csv _ => .unforeseen
  | .json (.nesting _) => .unforeseen
  | .archive _ (.xml (.malformed ..)) => .unforeseen
  | .archive _ (.xml (.charset (.unknown _))) => .unforeseen
  | .archive _ (.xml (.charset (.notText _))) => .unforeseen
  | _ => .input

def gradeOfProgram : Program.Fault → Grade
  | .validation (.port fault) => gradeOfConversion fault
  | .unit (.noDevice ..) => .unforeseen
  | .task (.timing fault) => gradeOfConversion fault
  | _ => .input

def grade : Fault → Grade
  | .workbook fault => gradeOfWorkbook fault
  | .program fault => gradeOfProgram fault
  | .decode .notAWord => .unforeseen
  | .decode (.digits _) => .input
  | .decode _ => .decoding
  | _ => .input

def Grade.exitCode : Grade → Nat
  | .input => 2
  | .decoding => 3
  | .unforeseen => 4

def Grade.opening : Grade → String
  | .input => "Error: "
  | .decoding => "Error: Decode error: "
  | .unforeseen => "Error: Unexpected error: "

def line (fault : Fault) : String :=
  printed (fault.grade.opening ++ fault.message) ++ "\n"

end Fault

/-- A fault that nothing handles. -/
inductive Escape where
  | file (fault : FileTree.Fault)
  | encoding (fault : EncodingFault)
  | digits (fault : WriteFault)
  deriving DecidableEq, Repr

def Escape.message : Escape → String
  | .file fault => fault.message
  | .encoding fault => fault.message
  | .digits fault => fault.message

/-- What a run comes to. -/
structure Outcome where
  exitCode : Nat
  stdout : String
  stderr : String
  /-- The error stream ends with a trace of calls. -/
  traced : Bool
  /-- A file that is written, by its place. -/
  written : Option (List String × String)
  escaped : Option Escape
  deriving DecidableEq, Repr

/-- The end of a run. -/
inductive Ending where
  | usage
  | help
  | outcome (outcome : Outcome)
  deriving DecidableEq, Repr

/-- The name and version of the program. -/
def versionText : String := "pyplcpoint 0.1.0"

def logText (verbose : Bool) (events : List Event) : String :=
  if verbose then
    String.join (events.map fun event =>
      "[" ++ event.level.name ++ "] " ++ event.area ++ ": " ++ event.message ++ "\n")
  else
    String.join ((events.filter (·.level = .warning)).map fun event =>
      event.level.name ++ ": " ++ event.message ++ "\n")

/-- A run that ends with a fault that nothing handles. -/
def aborted (log : String) (escape : Escape) : Outcome :=
  ⟨1, "", escapeSurrogates log, false, none, some escape⟩

/-- A run that prints lines. The first line that has no UTF-8 form ends it. -/
def printing (log : String) : List String → Outcome
  | [] => ⟨0, "", escapeSurrogates log, false, none, none⟩
  | text :: rest =>
    let line := printed text ++ "\n"
    match encodingFault? line with
    | some fault => aborted log (.encoding fault)
    | none =>
      let outcome := printing log rest
      { outcome with stdout := line ++ outcome.stdout }

/-- A run that prints lines if they can be written. -/
def printingWritten (log : String) (lines : Except WriteFault (List String)) : Outcome :=
  match lines with
  | .ok lines => printing log lines
  | .error fault => aborted log (.digits fault)

def failed (verbose : Bool) (log : String) (fault : Fault) : Outcome :=
  ⟨fault.grade.exitCode, "", escapeSurrogates (log ++ fault.line),
    verbose && fault.grade = .unforeseen, none, none⟩

/-! ## Builds -/

/-- The options that build arguments ask for. -/
def BuildArguments.options (arguments : BuildArguments) : Except Fault Options :=
  (Options.ofTyped arguments.maxModules arguments.maxGap arguments.maxBatchSize
    arguments.byteOrder arguments.stringOrder arguments.monitorInterval).mapError .options

/-- Load a workbook and build its program. -/
def compileSource (tree : FileTree) (source : String) (arguments : BuildArguments) :
    Report Fault Program :=
  (Report.ofExcept arguments.options).andThen fun options =>
    ((Workbook.load tree (Path.ofText source)).mapError .workbook).andThen fun tables =>
      (Program.compile tables options).mapError .program

def unitLine (program : Program) (unit : SheetUnit) : String :=
  let tasks := program.tasks.filter fun task =>
    task.sheet = unit.sheet && task.module = unit.module
  unit.sheet ++ " M" ++ toString unit.module ++ " -> " ++ unit.device.ip ++ ":"
    ++ toString unit.device.port ++ ": " ++ toString unit.tags.length ++ " tags, "
    ++ toString (program.blocksFor unit.sheet unit.module none).length ++ " blocks, "
    ++ toString tasks.length ++ " tasks"

def storageLine (program : Program) : String :=
  let names := ", ".intercalate (program.storage.map (·.name))
  "Storage tables: " ++ (if names.isEmpty then "-" else names)

def summary (program : Program) : List String :=
  program.units.map (unitLine program) ++ [storageLine program]

def documentText (program : Program) : Except WriteFault String :=
  Json.render .indented (Document.ofProgram program)

/-- The file at a place holds exactly a text. -/
def holds (tree : FileTree) (place : List String) (text : String) : Bool :=
  match tree.file? place with
  | some (.plain octets) => octets = text.toUTF8.toList
  | _ => false

/-- Write a text to a place. A file that holds it already does not change. -/
def writing (tree : FileTree) (place : List String) (text : String) (outcome : Outcome) : Outcome :=
  { outcome with written := if holds tree place text then none else some (place, text) }

/-- Write the document of a build to a file. A document that has no UTF-8 form leaves the file
empty. -/
def writeDocument (tree : FileTree) (log : String) (path : Path) (program : Program) : Outcome :=
  match documentText program with
  | .error fault => aborted log (.digits fault)
  | .ok document =>
    match tree.writable path with
    | .error fault => aborted log (.file fault)
    | .ok place =>
      let text := document ++ "\n"
      match encodingFault? text with
      | some fault => writing tree place "" (aborted log (.encoding fault))
      | none => writing tree place text (printing log ["OK: Wrote " ++ path.text])

def blockLines (entry : BlockKey × List Block) : List String :=
  entry.2.zipIdx.map fun (block, index) =>
    let names := block.bindings.map fun binding =>
      binding.name ++ "@" ++ toString binding.offset
    entry.1.taskName index ++ " start=" ++ toString block.start ++ " length="
      ++ toString block.length ++ " tags=" ++ ",".intercalate names

/-- The blocks of a build, of one sheet or module if asked for. -/
def blocksText (program : Program) (sheet : Option String) (module : Option Int) : List String :=
  (program.requestBlocks.filter fun (key, _) =>
    sheet.all (· = key.sheet) && module.all (· = key.module)).flatMap blockLines

/-- Blanks that bring a text to a width. -/
def padTo (width : Nat) (text : String) : String :=
  text ++ String.ofList (List.replicate (width - text.length) ' ')

def taskLine (task : Task) : String :=
  padTo 9 task.duty.kind.name ++ " " ++ task.name ++ " every " ++ toString task.timing ++ " ms"
    ++ (match task.duty.storage? with
      | some storage => " -> " ++ storage
      | none => "")
    ++ (match task.duty.handshake? with
      | some handshake =>
        " (trigger " ++ handshake.triggerAddress ++ ", return " ++ handshake.returnAddress ++ ")"
      | none => "")

/-- The tasks of a build, with the live ones or without. -/
def tasksText (program : Program) (monitors json : Bool) : Except WriteFault (List String) :=
  let tasks := program.tasks.filter fun task => monitors || task.duty.kind ≠ .monitor
  if json then
    (Json.render .indentedAscii (.list (tasks.map Document.ofTask))).map fun text => [text]
  else .ok (tasks.map taskLine)

/-! ## Words -/

/-- Decode words as they are typed. -/
def decodeWords (typeName : String) (words : List String) (offset : Int) (length : Option Int)
    (byteOrder stringOrder : String) : Except Fault (PointType × Cell) := do
  let pointType ← (PointType.parse (.text typeName)).mapError .pointType
  let words ← (readWords words).mapError .word
  let bytes ← (ByteOrder.ofName (Options.typedName byteOrder)).mapError .order
  let strings ← (StringOrder.ofName (Options.typedName stringOrder)).mapError .order
  let value ← (Codec.decodeValue (words.map .ofNat) offset pointType
    (pointType.registerLength length) (pointType.arrayLength length)
    ⟨bytes, strings⟩).mapError .decode
  return (pointType, value)

/-- A decoded value as it is printed. -/
def decodedText (json : Bool) (pointType : PointType) (value : Cell) : Except WriteFault String :=
  if json then
    Json.render .line (.record [("type", .text pointType.text), ("value", value)])
  else valueText value

/-- The normal form of an address as it is printed. -/
def normalizedText (json : Bool) (address : String) : Except WriteFault String :=
  let normalized := Address.normalizeText address
  if json then
    Json.render .line (.record [("address", .text address), ("normalized", .text normalized)])
  else .ok normalized

/-! ## Actions -/

/-- End a run by its report. -/
def conclude {α : Type} (verbose : Bool) (report : Report Fault α)
    (next : String → α → Outcome) : Outcome :=
  let log := logText verbose report.events
  match report.outcome with
  | .ok value => next log value
  | .error fault => failed verbose log fault

@[simp] theorem conclude_ok {α : Type} (verbose : Bool) (value : α) (next : String → α → Outcome) :
    conclude verbose (Report.ofExcept (.ok value)) next = next (logText verbose []) value :=
  rfl

def validateSource (tree : FileTree) (source : String) (maxModules : Int) : Report Fault Config :=
  ((Workbook.load tree (Path.ofText source)).mapError .workbook).andThen fun tables =>
    ⟨Validation.events tables maxModules,
      (Validation.validate tables maxModules).mapError fun fault => .program (.validation fault)⟩

/-- The line that says a workbook is fine. -/
def configLine (config : Config) : String :=
  "OK: " ++ toString config.devices.length ++ " devices, " ++ toString config.sheets.length
    ++ " sheets, " ++ toString (config.sheets.flatMap Sheet.points).length
    ++ " points"

def perform (tree : FileTree) (verbose : Bool) : Action → Outcome
  | .validate source maxModules =>
    conclude verbose (validateSource tree source maxModules) fun log config =>
      printing log [configLine config]
  | .build source arguments output =>
    conclude verbose (compileSource tree source arguments) fun log program =>
      match output with
      | .summary => printing log (summary program)
      | .json => printingWritten log ((documentText program).map fun text => [text])
      | .file path => writeDocument tree log (Path.ofText path) program
  | .blocks source arguments sheet module =>
    conclude verbose (compileSource tree source arguments) fun log program =>
      printing log (blocksText program sheet module)
  | .tasks source arguments monitors json =>
    conclude verbose (compileSource tree source arguments) fun log program =>
      printingWritten log (tasksText program monitors json)
  | .decode typeName words offset length byteOrder stringOrder json =>
    conclude verbose
      (Report.ofExcept (decodeWords typeName words offset length byteOrder stringOrder))
      fun log (pointType, value) =>
        printingWritten log ((decodedText json pointType value).map fun text => [text])
  | .normalize address json =>
    printingWritten "" ((normalizedText json address).map fun text => [text])

/-- Run the program with arguments, an environment and the files it sees. -/
def run (tree : FileTree) (environment : Environment) (typed : List String) : Ending :=
  match Command.read environment typed with
  | .usage => .usage
  | .help => .help
  | .version => .outcome (printing "" [versionText])
  | .run action verbose => .outcome (perform tree verbose action)

end PointTable.CommandLine
