import PointTable.Json.Reader
import PointTable.Workbook.Table

/-!
# Workbooks as JSON objects

A JSON object maps the names of tables to lists of rows, and a row is an object by column name.
Items of a list that are no objects are dropped.
-/

namespace PointTable.Workbook

/-- Why an object is no workbook. -/
inductive ObjectFault where
  | notAnObject
  | notAList (sheet : String)
  deriving DecidableEq, Repr

def ObjectFault.message (path : String) : ObjectFault → String
  | .notAnObject => path ++ ": expected an object mapping sheet names to row lists"
  | .notAList sheet => path ++ ": sheet " ++ Text.quoted sheet ++ " must be a list of rows"

/-- The row of an item. -/
def rowOf? : Cell → Option Row
  | .record cells => some (cleanRow cells)
  | _ => none

/-- The tables of an object's members. -/
def tablesOfMembers : List (String × Cell) → Except ObjectFault (List (String × List Row))
  | [] => .ok []
  | (name, .list items) :: rest => do
    let tables ← tablesOfMembers rest
    return (name, items.filterMap rowOf?) :: tables
  | (name, _) :: _ => .error (.notAList name)

/-- The tables of a JSON value. -/
def ofObject : Cell → Except ObjectFault Tables
  | .record members => (tablesOfMembers members).map splitTables
  | _ => .error .notAnObject

end PointTable.Workbook
