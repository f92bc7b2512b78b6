import PointTable.Text.Letter
import PointTable.Workbook.Table
import PointTable.Xml.Element

/-!
# Worksheets as element trees

A worksheet lists its rows, and a row its cells with a reference such as `AB12`. The cells of the
first row name the columns by the letters of their references; every later row that holds something
besides blanks is a row of the table. Cell texts stand in the cell or in a table of shared strings.
-/

namespace PointTable.Workbook.Sheet

open Text Number Xml

/-- The shared strings of a workbook; runs of one string are joined. -/
def sharedStrings (root : Element) : List String :=
  (root.named "si").map (Element.joinedText "t")

/-- The letters of a cell's reference. -/
def columnOf (cell : Element) : String :=
  String.ofList (((cell.attribute? "r").getD "").toList.filter isLetter)

/-- The shared string of an index, which counts from the end when it is negative; empty if there is
none. -/
def sharedString (strings : List String) (index : String) : String :=
  match readInteger 10 index with
  | .error _ => ""
  | .ok index =>
    let index := if index < 0 then index + strings.length else index
    if index < 0 then "" else strings[index.toNat]?.getD ""

def cellText (strings : List String) (cell : Element) : String :=
  if cell.attribute? "t" = some "inlineStr" then cell.joinedText "t"
  else
    let text := ((cell.children.find? fun child => child.name = "v").map Element.text).getD ""
    if cell.attribute? "t" = some "s" && !text.isEmpty then sharedString strings text else text

def cells (row : Element) : List Element :=
  row.named "c"

/-- The column names by letters. -/
def header (strings : List String) (row : Element) : List (String × String) :=
  Ordered.ofPairs ((cells row).map fun cell => (columnOf cell, trim (cellText strings cell)))

/-- The cells of a row under their column names; cells without one are left out. -/
def rowOf (strings : List String) (columns : List (String × String)) (row : Element) : Row :=
  Ordered.ofPairs ((cells row).filterMap fun cell =>
    match columns.lookup (columnOf cell) with
    | some column => if column.isEmpty then none else some (column, .text (cellText strings cell))
    | none => none)

def rows (strings : List String) (root : Element) : List Row :=
  match root.named "row" with
  | [] => []
  | first :: rest => (rest.map (rowOf strings (header strings first))).filter isFilled

/-! ## Element trees of grids -/

/-- The letters of a column by its number from zero on: after `Z` comes `AA`. -/
def columnLetters (column : Nat) : List Char :=
  if column < 26 then [Char.ofNat ('A'.toNat + column)]
  else columnLetters (column / 26 - 1) ++ [Char.ofNat ('A'.toNat + column % 26)]

/-- The text under which a worksheet stores a cell: numbers have up to sixteen digits, and truth
values are one and zero. -/
def storedText : Cell → String
  | .bool value => if value then "1" else "0"
  | .int value =>
    match Double.ofInt value with
    | .ok number => number.generalText 16
    | .error _ => toString value
  | .float value => value.generalText 16
  | cell => cell.plainSpelling

/-- The element of a cell; nothing stands for a null cell. -/
def cellElement? (row column : Nat) (cell : Cell) : Option Element :=
  let place : Attribute :=
    ⟨"", "r", String.ofList (columnLetters column) ++ toString (row + 1)⟩
  match cell with
  | .null => none
  | .text text =>
    some (.node "c" [place, ⟨"", "t", "inlineStr"⟩] "" [.node "is" [] "" [.node "t" [] text []]])
  | cell => some (.node "c" [place, ⟨"", "t", "n"⟩] "" [.node "v" [] (storedText cell) []])

def rowElement (row : Nat) (cells : List Cell) : Element :=
  .node "row" [⟨"", "r", toString (row + 1)⟩] ""
    (cells.zipIdx.filterMap fun (cell, column) => cellElement? row column cell)

/-- The worksheet that holds a grid, with its texts inline. -/
def ofGrid (grid : List (List Cell)) : Element :=
  .node "worksheet" [] ""
    [.node "sheetData" [] "" (grid.zipIdx.map fun (cells, row) => rowElement row cells)]

end PointTable.Workbook.Sheet
