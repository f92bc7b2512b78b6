import PointTable.SheetUnit

/-!
# Storage schema

The tables that captured groups are written to: one for every sheet and every absolute value of its
periods. Rows of all modules share a table. Where two periods differ in sign only, the first one
seen defines the columns.
-/

namespace PointTable

/-- A column of a storage table. Arrays are stored as text. -/
structure StorageColumn where
  propertyName : String
  displayName : String
  typeText : String
  isJson : Bool
  deriving DecidableEq, Repr

/-- The schema of the points of a sheet that share a period. -/
structure StorageTable where
  name : String
  sheet : String
  period : Double
  columns : List StorageColumn
  deriving DecidableEq, Repr

namespace StorageTable

def columnOf (point : Point) : StorageColumn :=
  ⟨point.propertyName, point.displayName, point.pointType.text, point.pointType.isArray⟩

/-- One table for every period of a sheet, in first-seen order. -/
def candidatesOf (sheet : Sheet) : List StorageTable :=
  (SheetUnit.byPeriod id sheet.points).map fun (period, points) =>
    ⟨Period.storageName sheet.name period, sheet.name, period, points.map columnOf⟩

/-- One table for every period of every sheet. -/
def candidates (config : Config) : List StorageTable :=
  config.sheets.flatMap candidatesOf

/-- The tables whose name is not taken before, each name once. -/
def keepFirst (taken : List String) : List StorageTable → List StorageTable
  | [] => []
  | table :: rest =>
    if table.name ∈ taken then keepFirst taken rest
    else table :: keepFirst (table.name :: taken) rest

def ofConfig (config : Config) : List StorageTable :=
  keepFirst [] (candidates config)

/-- A warning for every table that is dropped. -/
def dropEvents (taken : List String) : List StorageTable → List Event
  | [] => []
  | table :: rest =>
    if table.name ∈ taken then .storageDropped table.name table.period :: dropEvents taken rest
    else dropEvents (table.name :: taken) rest

/-- The events of laying out the schema of a configuration. -/
def events (config : Config) : List Event :=
  dropEvents [] (candidates config)

end StorageTable

end PointTable
