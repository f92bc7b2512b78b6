import PointTable.FileTree
import PointTable.Text.Utf8
import PointTable.Workbook.Archive
import PointTable.Workbook.Csv
import PointTable.Workbook.Grid
import PointTable.Workbook.Object

/-!
# Loading workbooks

A workbook is a directory of sheets as comma-separated values, a spreadsheet file, or a JSON file.
Which of these is told by what stands at the path and by its ending.
-/

namespace PointTable.Workbook

open Text

/-- Why a workbook cannot be loaded. -/
inductive Fault where
  | notFound (path : String)
  | file (fault : FileTree.Fault)
  | encoding (fault : Utf8Fault)
  | json (fault : Json.Fault)
  | object (path : String) (fault : ObjectFault)
  | csv (fault : Csv.Fault)
  | notAnArchive (path : String)
  | archive (path : String) (fault : Archive.Fault)
  deriving Repr

def Fault.message : Fault → String
  | .notFound path => "Workbook not found: " ++ path
  | .file fault => fault.message
  | .encoding fault => fault.message
  | .json fault => fault.message
  | .object path fault => fault.message path
  | .csv fault => fault.message
  | .notAnArchive path => path ++ ": not an .xlsx workbook"
  | .archive path fault => fault.message path

/-- The octets of a file that is read as text. -/
def octetsOf : File → List UInt8
  | .plain octets => octets
  | .archive _ | .spreadsheet _ => [0x50, 0x4B, 0x03, 0x04]

/-- Line ends of any kind as single ones. -/
def normalizeLines (text : String) : String :=
  String.ofList (Xml.normalizeLines text.toList)

/-- The tables of a JSON file. -/
def loadObject (path : String) (file : File) : Except Fault Tables := do
  let text ← (ofUtf8 (octetsOf file)).mapError .encoding
  let value ← (Json.parse (normalizeLines text)).mapError .json
  (ofObject value).mapError (.object path)

def loadRows (tree : FileTree) (place : List String) (path : Path) :
    Except Fault (List Row) := do
  match tree.file? place with
  | none => throw (.file (.isADirectory path.text))
  | some file =>
    let text ← (ofMarkedUtf8 (octetsOf file)).mapError .encoding
    (Csv.rows text).mapError .csv

/-- The names of a directory's sheet files, in ascending order. -/
def sheetFiles (tree : FileTree) (place : List String) : List String :=
  ((tree.entriesOf place).filter fun name => name.endsWith ".csv").mergeSort
    fun left right => !(right < left)

/-- The tables of a directory's sheet files. -/
def loadFiles (tree : FileTree) (place : List String) (path : Path) :
    List String → Except Fault (List (String × List Row))
  | [] => .ok []
  | name :: rest => do
    let rows ← loadRows tree (place ++ [name]) { path with parts := path.parts ++ [name] }
    let tables ← loadFiles tree place path rest
    return (Path.stem name, rows) :: tables

def loadDirectory (tree : FileTree) (path : Path) : Except Fault Tables := do
  let place ← (tree.place path).mapError .file
  let tables ← loadFiles tree place path (sheetFiles tree place)
  return splitTables (Ordered.ofPairs tables)

/-- The tables of a spreadsheet whose cells are known. -/
def ofWorksheets (worksheets : List (String × List (List Cell))) : Tables :=
  splitTables (Ordered.ofPairs (worksheets.map fun (name, grid) =>
    (name, (Grid.rows grid).map cleanRow)))

/-- The tables of a spreadsheet file. -/
def loadSpreadsheet (path : String) : File → Except Fault Tables
  | .plain _ => .error (.notAnArchive path)
  | .archive parts => (Archive.tables parts).mapError (.archive path)
  | .spreadsheet worksheets => .ok (ofWorksheets worksheets)

/-- The path names a spreadsheet by its ending, in any case. -/
def isSpreadsheet (path : Path) : Bool :=
  let ending := path.ending.toLower
  ending = ".xlsx" || ending = ".xlsm"

def tables (tree : FileTree) (path : Path) : Except Fault Tables :=
  match tree.find path with
  | .error (.nameTooLong path) => .error (.file (.nameTooLong path))
  | .error _ => .error (.notFound path.text)
  | .ok .directory => loadDirectory tree path
  | .ok (.file file) =>
    if isSpreadsheet path then loadSpreadsheet path.text file else loadObject path.text file

/-- The events on the way to a workbook's tables. -/
def readEvents (tree : FileTree) (path : Path) : List Event :=
  match tree.find path with
  | .ok (.file file) =>
    if isSpreadsheet path then
      match file with
      | .plain _ => [.archiveUnreadable path.text]
      | .archive parts => Archive.events path.text parts
      | .spreadsheet _ => []
    else []
  | _ => []

/-- Load a workbook together with its events. -/
def load (tree : FileTree) (path : Path) : Report Fault Tables :=
  let outcome := tables tree path
  ⟨readEvents tree path ++ (match outcome with
    | .ok tables => [.workbookLoaded path.text tables.devices.isSome tables.sheets.length]
    | .error _ => []), outcome⟩

/-- The tables of a spreadsheet read through the elements of its worksheets. -/
def ofElements (worksheets : List (String × List (List Cell))) : Tables :=
  splitTables (Ordered.ofPairs (worksheets.map fun (name, grid) =>
    (name, (Sheet.rows [] (Sheet.ofGrid grid)).map cleanRow)))

/-- Load a file as an archive of XML parts, whatever its ending. -/
def loadArchive (tree : FileTree) (path : Path) : Report Fault Tables :=
  match tree.find path with
  | .error fault => ⟨[], .error (.file fault)⟩
  | .ok .directory => ⟨[], .error (.file (.isADirectory path.text))⟩
  | .ok (.file (.archive parts)) =>
    ⟨Archive.events path.text parts, (Archive.tables parts).mapError (.archive path.text)⟩
  | .ok (.file (.spreadsheet worksheets)) => ⟨[], .ok (ofElements worksheets)⟩
  | .ok (.file (.plain _)) => ⟨[], .error (.notAnArchive path.text)⟩

end PointTable.Workbook
