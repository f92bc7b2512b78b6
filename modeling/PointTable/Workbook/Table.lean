import PointTable.Ordered
import PointTable.Table

/-!
# Tables of a workbook

What all kinds of workbook share: column names are trimmed, the device table is told from the point
sheets by its trimmed name, and a name that comes again keeps its first place and its last rows.
-/

namespace PointTable.Workbook

open Text

/-- A row with its column names trimmed. -/
def cleanRow (cells : List (String × Cell)) : Row :=
  Ordered.ofPairs (cells.map fun (column, cell) => (trim column, cell))

/-- The row holds something besides blanks. -/
def isFilled (row : Row) : Bool :=
  row.any fun (_, cell) => !cell.isBlank

/-- Add a named table to the device table and the sheets. -/
def addTable (tables : Tables) (table : String × List Row) : Tables :=
  let name := trim table.1
  if name = deviceTableName then { tables with devices := some table.2 }
  else { tables with sheets := Ordered.put name table.2 tables.sheets }

/-- Tell the device table from the sheets. -/
def splitTables (tables : List (String × List Row)) : Tables :=
  tables.foldl addTable ⟨none, []⟩

end PointTable.Workbook
