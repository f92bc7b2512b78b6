import PointTable.Workbook.Table

/-!
# Sheets as comma-separated values

Fields are separated by commas and records by line ends of any kind. A field that starts with a
quote goes on to the closing quote, with line ends kept and doubled quotes read as one; what follows
the closing quote is taken as it is. The first record names the columns. Later records without any
field are skipped, cells that are missing at the end of a record are null and surplus cells are
dropped.
-/

namespace PointTable.Workbook.Csv

/-- The most characters a field may have. -/
def fieldLimit : Nat := 131072

/-- A field is too long. -/
inductive Fault where
  | fieldTooLong
  deriving DecidableEq, Repr

def Fault.message : Fault → String
  | .fieldTooLong => "field larger than field limit (" ++ toString fieldLimit ++ ")"

/-- Where in a record reading stands. -/
inductive Phase where
  /-- Nothing of the record is read. -/
  | record
  /-- A comma is read. -/
  | field
  | unquoted
  | quoted
  /-- A quote inside a quoted field is read. -/
  | afterQuote
  deriving DecidableEq, Repr

/-- What is read so far, all in reverse: the records, the fields of the open record and the
characters of the open field. -/
structure State where
  phase : Phase
  records : List (List String)
  fields : List String
  field : List Char

namespace State

def start : State :=
  ⟨.record, [], [], []⟩

def add (state : State) (phase : Phase) (c : Char) : State :=
  { state with phase, field := c :: state.field }

def closeField (state : State) (phase : Phase) : State :=
  { state with phase, fields := String.ofList state.field.reverse :: state.fields, field := [] }

def closeRecord (state : State) : State :=
  { state with phase := .record, records := state.fields.reverse :: state.records, fields := [] }

/-- Read a character other than a line end. -/
def readChar (state : State) (c : Char) : State :=
  match state.phase with
  | .record | .field =>
    if c = '\x22' then { state with phase := .quoted }
    else if c = ',' then state.closeField .field
    else state.add .unquoted c
  | .unquoted => if c = ',' then state.closeField .field else state.add .unquoted c
  | .quoted => if c = '\x22' then { state with phase := .afterQuote } else state.add .quoted c
  | .afterQuote =>
    if c = '\x22' then state.add .quoted c
    else if c = ',' then state.closeField .field
    else state.add .unquoted c

/-- Read a line end. A quoted field keeps it as it is written. -/
def readLineEnd (state : State) (written : List Char) : State :=
  match state.phase with
  | .record => state.closeRecord
  | .field | .unquoted | .afterQuote => (state.closeField .record).closeRecord
  | .quoted => { state with field := written.reverse ++ state.field }

/-- Read the end of the text, which closes what is open. -/
def finish (state : State) : State :=
  match state.phase with
  | .record => state
  | _ => (state.closeField .record).closeRecord

end State

def readChars (state : State) : List Char → State
  | [] => state.finish
  | '\r' :: '\n' :: rest => readChars (state.readLineEnd ['\r', '\n']) rest
  | c :: rest =>
    if c = '\r' || c = '\n' then readChars (state.readLineEnd [c]) rest
    else readChars (state.readChar c) rest

def records (text : String) : Except Fault (List (List String)) :=
  let records := (readChars State.start text.toList).records.reverse
  if records.any fun fields => fields.any fun field => fieldLimit < field.length then
    .error .fieldTooLong
  else .ok records

/-- The cells of a record under the names of the columns. -/
def cellsOf : List String → List String → List (String × Cell)
  | [], _ => []
  | column :: columns, [] => (column, .null) :: cellsOf columns []
  | column :: columns, field :: fields => (column, .text field) :: cellsOf columns fields

def rows (text : String) : Except Fault (List Row) := do
  match ← records text with
  | [] => return []
  | columns :: records =>
    return (records.filter (!·.isEmpty)).map fun fields =>
      cleanRow (Ordered.ofPairs (cellsOf columns fields))

end PointTable.Workbook.Csv
