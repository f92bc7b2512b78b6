import PointTable.Cell

/-!
# Raw tables

The rows of a workbook as they are loaded, before anything is checked: a device table, which may be
missing, and the point sheets in order.
-/

namespace PointTable

/-- A row: cells under the names of their columns. -/
abbrev Row := List (String × Cell)

namespace Row

/-- The cell of a column; an absent cell is null. -/
def get (row : Row) (column : String) : Cell :=
  (row.lookup column).getD .null

/-- The first cell that is not blank among some columns, or null. -/
def firstFilled (row : Row) (columns : List String) : Cell :=
  ((columns.map row.get).find? fun cell => !cell.isBlank).getD .null

end Row

/-- The rows of a workbook by table. -/
structure Tables where
  devices : Option (List Row)
  sheets : List (String × List Row)

/-- The name of the device table. -/
def deviceTableName : String := "IP_Port"

end PointTable
