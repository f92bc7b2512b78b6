import PointTable.Workbook.Table

/-!
# Worksheets as grids

The first row of a grid names the columns. Every later row that holds something besides blanks is a
row of the table; cells that hold nothing and cells without a column name are left out.
-/

namespace PointTable.Workbook.Grid

open Text

/-- The cell holds something: it is neither null nor an empty text. -/
def isPresent : Cell → Bool
  | .null => false
  | .text text => !text.isEmpty
  | _ => true

/-- The column names of a header; a cell that holds nothing names no column. -/
def header (cells : List Cell) : List String :=
  cells.map fun cell => if isPresent cell then trim cell.plainSpelling else ""

/-- The cells of a row under their column names. -/
def cellsOf (columns : List String) (cells : List Cell) : List (String × Cell) :=
  (columns.zip cells).filter fun (column, cell) => !column.isEmpty && isPresent cell

def rows : List (List Cell) → List Row
  | [] => []
  | first :: rest =>
    (rest.map fun cells => Ordered.ofPairs (cellsOf (header first) cells)).filter isFilled

end PointTable.Workbook.Grid
