import PointTable.CommandLine.Arguments
import PointTable.CommandLine.Integer

/-!
# Commands

The commands with their options. An option may also be set by a variable of the environment; an
empty variable counts as unset, and the command line wins.
-/

namespace PointTable.CommandLine

/-- The options of a build that a user may set. -/
structure BuildArguments where
  maxModules : Int
  maxGap : Int
  maxBatchSize : Int
  byteOrder : String
  stringOrder : String
  monitorInterval : Int
  deriving DecidableEq, Repr

/-- The options of a build when nothing is set. -/
def BuildArguments.standard : BuildArguments :=
  ⟨1, 20, 100, "ABCD", "BADC", 1000⟩

/-- How a build is shown. -/
inductive BuildOutput where
  | summary
  | json
  | file (path : String)
  deriving DecidableEq, Repr

/-- What is asked for. -/
inductive Action where
  | validate (source : String) (maxModules : Int)
  | build (source : String) (arguments : BuildArguments) (output : BuildOutput)
  | blocks (source : String) (arguments : BuildArguments) (sheet : Option String)
      (module : Option Int)
  | tasks (source : String) (arguments : BuildArguments) (monitors json : Bool)
  | decode (typeName : String) (words : List String) (offset : Int) (length : Option Int)
      (byteOrder stringOrder : String) (json : Bool)
  | normalize (address : String) (json : Bool)
  deriving DecidableEq, Repr

/-- What the arguments of a run come to. -/
inductive Invocation where
  /-- The arguments cannot be understood. -/
  | usage
  | help
  | version
  | run (action : Action) (verbose : Bool)
  deriving DecidableEq, Repr

/-- The variables of the environment. -/
abbrev Environment := List (String × String)

namespace Command

/-! ## Options -/

def help : OptionSpec := ⟨"help", "--help", none, .flag true⟩

def maxModules : OptionSpec := ⟨"max-modules", "--max-modules", some 'm', .value⟩

def maxGap : OptionSpec := ⟨"max-gap", "--max-gap", none, .value⟩

def maxBatchSize : OptionSpec := ⟨"max-batch-size", "--max-batch-size", none, .value⟩

def byteOrder : OptionSpec := ⟨"byte-order", "--byte-order", some 'b', .value⟩

def stringOrder : OptionSpec := ⟨"string-byte-order", "--string-byte-order", none, .value⟩

def monitorInterval : OptionSpec := ⟨"monitor-interval", "--monitor-interval", none, .value⟩

def verbose : OptionSpec := ⟨"verbose", "--verbose", some 'v', .flag true⟩

def json : OptionSpec := ⟨"json", "--json", none, .flag true⟩

def output : OptionSpec := ⟨"output", "--output", some 'o', .value⟩

def sheet : OptionSpec := ⟨"sheet", "--sheet", some 's', .value⟩

def module : OptionSpec := ⟨"module", "--module", none, .value⟩

def monitors : OptionSpec := ⟨"monitors", "--monitors", none, .flag true⟩

def noMonitors : OptionSpec := ⟨"monitors", "--no-monitors", none, .flag false⟩

def offset : OptionSpec := ⟨"offset", "--offset", none, .value⟩

def length : OptionSpec := ⟨"length", "--length", some 'l', .value⟩

def version : OptionSpec := ⟨"version", "--version", none, .flag true⟩

/-- The variables that set options. -/
def environmentNames : List (String × String) :=
  [(maxModules.key, "PYPLCPOINT_MAX_MODULES"),
    (maxGap.key, "PYPLCPOINT_MAX_GAP"),
    (maxBatchSize.key, "PYPLCPOINT_MAX_BATCH_SIZE"),
    (byteOrder.key, "PYPLCPOINT_BYTE_ORDER"),
    (stringOrder.key, "PYPLCPOINT_STRING_BYTE_ORDER"),
    (monitorInterval.key, "PYPLCPOINT_MONITOR_INTERVAL")]

/-- The value of a variable that sets an option. -/
def environmentValue? (environment : Environment) (key : String) : Option String := do
  let name ← environmentNames.lookup key
  let value ← environment.lookup name
  if value.isEmpty then none else value

/-- The value of an option from the command line, or else from the environment. -/
def setting? (environment : Environment) (arguments : Arguments) (spec : OptionSpec) :
    Option String :=
  match arguments.value? spec.key with
  | some value => some value
  | none => environmentValue? environment spec.key

/-- The text of an option. -/
def textSetting (environment : Environment) (arguments : Arguments) (spec : OptionSpec)
    (default : String) : String :=
  (setting? environment arguments spec).getD default

/-- The integer of an option that need not be set. There is no result if it is no integer. -/
def integerSetting? (environment : Environment) (arguments : Arguments) (spec : OptionSpec) :
    Option (Option Int) :=
  match setting? environment arguments spec with
  | none => some none
  | some typed => (typedInteger? typed).map some

/-- The integer of an option with a default. -/
def integerSetting (environment : Environment) (arguments : Arguments) (spec : OptionSpec)
    (default : Int) : Option Int :=
  (integerSetting? environment arguments spec).map (·.getD default)

/-! ## Commands -/

/-- A command: its options, and what its arguments ask for. -/
structure Spec where
  name : String
  options : List OptionSpec
  action : Environment → Arguments → Option Action

/-- The one argument that is no option. -/
def single? (arguments : Arguments) : Option String :=
  match arguments.positionals with
  | [argument] => some argument
  | _ => none

def validate : Spec where
  name := "validate"
  options := [maxModules, verbose]
  action environment arguments := do
    let source ← single? arguments
    let modules ← integerSetting environment arguments maxModules 1
    return .validate source modules

def build : Spec where
  name := "build"
  options := [maxModules, maxGap, maxBatchSize, byteOrder, stringOrder, monitorInterval, verbose,
    json, output]
  action environment arguments := do
    let source ← single? arguments
    let standard := BuildArguments.standard
    let modules ← integerSetting environment arguments maxModules standard.maxModules
    let gap ← integerSetting environment arguments maxGap standard.maxGap
    let batch ← integerSetting environment arguments maxBatchSize standard.maxBatchSize
    let interval ← integerSetting environment arguments monitorInterval standard.monitorInterval
    let shown := match arguments.value? output.key with
      | some path => BuildOutput.file path
      | none => if arguments.flag json.key false then .json else .summary
    return .build source
      ⟨modules, gap, batch, textSetting environment arguments byteOrder standard.byteOrder,
        textSetting environment arguments stringOrder standard.stringOrder, interval⟩ shown

def blocks : Spec where
  name := "blocks"
  options := [maxModules, maxGap, maxBatchSize, sheet, module, verbose]
  action environment arguments := do
    let source ← single? arguments
    let standard := BuildArguments.standard
    let modules ← integerSetting environment arguments maxModules standard.maxModules
    let gap ← integerSetting environment arguments maxGap standard.maxGap
    let batch ← integerSetting environment arguments maxBatchSize standard.maxBatchSize
    let module ← integerSetting? environment arguments module
    return .blocks source
      { standard with maxModules := modules, maxGap := gap, maxBatchSize := batch }
      (arguments.value? sheet.key) module

def tasks : Spec where
  name := "tasks"
  options := [maxModules, monitorInterval, monitors, noMonitors, verbose, json]
  action environment arguments := do
    let source ← single? arguments
    let standard := BuildArguments.standard
    let modules ← integerSetting environment arguments maxModules standard.maxModules
    let interval ← integerSetting environment arguments monitorInterval standard.monitorInterval
    return .tasks source { standard with maxModules := modules, monitorInterval := interval }
      (arguments.flag monitors.key true) (arguments.flag json.key false)

def decode : Spec where
  name := "decode"
  options := [offset, length, byteOrder, stringOrder, verbose, json]
  action environment arguments := do
    let standard := BuildArguments.standard
    let place ← integerSetting environment arguments offset 0
    let length ← integerSetting? environment arguments length
    match arguments.positionals with
    | typeName :: word :: words =>
      return .decode typeName (word :: words) place length
        (textSetting environment arguments byteOrder standard.byteOrder)
        (textSetting environment arguments stringOrder standard.stringOrder)
        (arguments.flag json.key false)
    | _ => none

def normalize : Spec where
  name := "normalize"
  options := [json]
  action _ arguments := do
    let address ← single? arguments
    return .normalize address (arguments.flag json.key false)

def all : List Spec := [validate, build, blocks, tasks, decode, normalize]

/-- Read the arguments of a command. -/
def Spec.read (spec : Spec) (environment : Environment) (typed : List String) : Invocation :=
  match Arguments.read (help :: spec.options) true Arguments.none typed with
  | none => .usage
  | some arguments =>
    if arguments.flag help.key false then .help
    else
      match spec.action environment arguments with
      | none => .usage
      | some action => .run action (arguments.flag verbose.key false)

/-- Read the arguments of a run: general options, a command and its arguments. -/
def read (environment : Environment) (typed : List String) : Invocation :=
  if typed.isEmpty then .help
  else
    match Arguments.read [help, version] false Arguments.none typed with
    | none => .usage
    | some arguments =>
      match arguments.flags.getLast? with
      | some (key, _) => if key = version.key then .version else .help
      | none =>
        match arguments.positionals with
        | [] => .usage
        | name :: rest =>
          match all.find? (·.name = name) with
          | none => .usage
          | some spec => spec.read environment rest

end Command

end PointTable.CommandLine
