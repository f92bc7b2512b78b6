/-!
# Arguments

How options and other arguments are told apart. An option takes the next argument as its value,
whatever that looks like, unless the value is attached to it; options of one letter may be written
together. Behind a double dash nothing is an option. Of an option given twice the last counts.
-/

namespace PointTable.CommandLine

/-- What an option does. -/
inductive OptionKind where
  /-- The option sets a flag. -/
  | flag (value : Bool)
  /-- The option takes a value. -/
  | value
  deriving DecidableEq, Repr

/-- An option with its spellings. -/
structure OptionSpec where
  key : String
  long : String
  short : Option Char
  kind : OptionKind
  deriving DecidableEq, Repr

/-- What the arguments say. Flags and values are in reverse order. -/
structure Arguments where
  flags : List (String × Bool)
  values : List (String × String)
  positionals : List String
  deriving Repr

namespace Arguments

def none : Arguments :=
  ⟨[], [], []⟩

def setFlag (arguments : Arguments) (key : String) (value : Bool) : Arguments :=
  { arguments with flags := (key, value) :: arguments.flags }

def setValue (arguments : Arguments) (key value : String) : Arguments :=
  { arguments with values := (key, value) :: arguments.values }

def addPositionals (arguments : Arguments) (more : List String) : Arguments :=
  { arguments with positionals := arguments.positionals ++ more }

/-- Cut an argument at its first equals sign. -/
def splitValue (chars : List Char) : List Char × Option String :=
  match chars.dropWhile (· ≠ '=') with
  | [] => (chars, .none)
  | _ :: value => (chars.takeWhile (· ≠ '='), some (String.ofList value))

/-- What reading options off an argument leads to: the arguments so far and the key of an option
that still wants its value. -/
abbrev Pending := Arguments × Option String

/-- Read options of one letter. A letter that takes a value takes the letters behind it. -/
def readLetters (specs : List OptionSpec) (arguments : Arguments) : List Char → Option Pending
  | [] => some (arguments, .none)
  | letter :: rest =>
    match specs.find? fun spec => spec.short = some letter with
    | .none => .none
    | some spec =>
      match spec.kind with
      | .flag value => readLetters specs (arguments.setFlag spec.key value) rest
      | .value =>
        if rest.isEmpty then some (arguments, some spec.key)
        else some (arguments.setValue spec.key (String.ofList rest), .none)

/-- Read an option by its whole spelling, or letter by letter behind a single dash. -/
def readOption (specs : List OptionSpec) (arguments : Arguments) (chars : List Char) :
    Option Pending :=
  let (name, attached) := splitValue chars
  match specs.find? fun spec => spec.long.toList = name with
  | some spec =>
    match spec.kind, attached with
    | .flag value, .none => some (arguments.setFlag spec.key value, .none)
    | .flag _, some _ => .none
    | .value, some value => some (arguments.setValue spec.key value, .none)
    | .value, .none => some (arguments, some spec.key)
  | .none => if chars.take 2 = ['-', '-'] then .none else readLetters specs arguments (chars.drop 1)

/-- An argument that looks like an option. -/
def isOption (chars : List Char) : Bool :=
  match chars with
  | '-' :: _ :: _ => true
  | _ => false

/-- Read arguments. Unless options may be mixed with other arguments, the first other argument ends
them. There is no result if an option is unknown or lacks its value. -/
def read (specs : List OptionSpec) (mixed : Bool) (arguments : Arguments) :
    List String → Option Arguments
  | [] => some arguments
  | argument :: rest =>
    if argument = "--" then some (arguments.addPositionals rest)
    else if isOption argument.toList then
      match readOption specs arguments argument.toList with
      | .none => .none
      | some (arguments, .none) => read specs mixed arguments rest
      | some (arguments, some key) =>
        match rest with
        | [] => .none
        | value :: rest => read specs mixed (arguments.setValue key value) rest
    else if mixed then read specs mixed (arguments.addPositionals [argument]) rest
    else some (arguments.addPositionals (argument :: rest))

def flag (arguments : Arguments) (key : String) (default : Bool) : Bool :=
  (arguments.flags.lookup key).getD default

def value? (arguments : Arguments) (key : String) : Option String :=
  arguments.values.lookup key

end Arguments

end PointTable.CommandLine
