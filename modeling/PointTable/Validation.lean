import PointTable.Config
import PointTable.Event
import PointTable.Options
import PointTable.Table

/-!
# Validation

Raw tables become a configuration, or the first violation is reported. The stages run in this
order: there is a device table, no two devices share an IP address, no two points share a property
name, every point can be used, points of one trigger share a period, and every instance of a sheet
has its device. Within a stage the first offender in source order is named. Cells are read by
their texts, so a stage also stops at the first cell that holds an integer too long to be written.
-/

namespace PointTable

open Text Number

/-- Why a point row cannot be used. -/
inductive PointFault where
  /-- A cell cannot be written. -/
  | digits (fault : WriteFault)
  | type (fault : PointType.Fault)
  /-- The length or the period is no finite number. -/
  | notFinite
  | negativeLength (length : Int)
  | address (fault : Address.Fault)
  deriving Repr

def PointFault.message : PointFault → String
  | .digits fault => fault.message
  | .type fault => fault.message
  | .notFinite => "Length and Period must be finite numbers"
  | .negativeLength length => "negative Length " ++ toString length
  | .address fault => fault.message

namespace Validation

/-- Why tables are refused. -/
inductive Fault where
  | moduleCount (value : Int)
  /-- A cell that is read, or the number of a module, cannot be written. -/
  | digits (fault : WriteFault)
  | missingDeviceTable
  /-- A port is a number beyond all integers. -/
  | port (fault : ConversionFault)
  | duplicateIp (ip : String)
  | duplicateProperty (name sheet : String)
  | invalidPoint (name sheet : String) (fault : PointFault)
  | triggerPeriods (trigger sheet : String)
  | missingDevice (device sheet : String) (module : Int)
  deriving Repr

def Fault.message : Fault → String
  | .moduleCount value => Options.modulesMessage value
  | .digits fault => fault.message
  | .missingDeviceTable => "Missing required table " ++ quoted deviceTableName
  | .port fault => fault.message
  | .duplicateIp ip =>
    "IP address " ++ quoted ip ++ " is defined more than once in the device table"
  | .duplicateProperty name sheet =>
    "Duplicate property name " ++ quoted name ++ " in sheet " ++ quoted sheet
  | .invalidPoint name sheet fault =>
    "Point " ++ quoted name ++ " in sheet " ++ quoted sheet ++ ": " ++ fault.message
  | .triggerPeriods trigger sheet =>
    "Trigger " ++ quoted trigger ++ " in sheet " ++ quoted sheet
      ++ " is used with more than one period"
  | .missingDevice device _ _ => "No device named " ++ quoted device ++ " in the device table"

/-- The fault of a point: all but an integer that cannot be written is put down to the point. -/
def Fault.ofPoint (name sheet : String) : PointFault → Fault
  | .digits fault => .digits fault
  | fault => .invalidPoint name sheet fault

/-- Fail if an offender was found. -/
def refuse {α : Type} (offender : Option α) (fault : α → Fault) : Except Fault Unit :=
  match offender with
  | some found => .error (fault found)
  | none => .ok ()

@[simp] theorem refuse_eq_ok {α : Type} {offender : Option α} {fault : α → Fault} {done : Unit} :
    refuse offender fault = .ok done ↔ offender = none := by
  cases offender <;> simp [refuse]

@[simp] theorem refuse_eq_error {α : Type} {offender : Option α} {fault : α → Fault}
    {shown : Fault} :
    refuse offender fault = .error shown ↔
      ∃ found, offender = some found ∧ fault found = shown := by
  cases offender <;> simp [refuse]

/-- Fail at the first item whose key cannot be written or is a key seen before. -/
def refuseRepeats {α : Type} (key : α → Except WriteFault String) (fault : α → String → Fault)
    (seen : List String) : List α → Except Fault Unit
  | [] => .ok ()
  | item :: rest => do
    let name ← (key item).mapError .digits
    if name ∈ seen then .error (fault item name)
    else refuseRepeats key fault (name :: seen) rest

/-! ## Devices -/

/-- The port a cell gives: the integer part of the number it spells. What spells no number, and
zero, gives the default. -/
def readPort (cell : Cell) : Except Fault Int := do
  let text ← cell.toText.mapError .digits
  match readDouble (trim text) with
  | .error _ => .ok defaultPort
  | .ok number =>
    match number.truncate with
    | .ok port => .ok (if port = 0 then defaultPort else port)
    | .error .notANumber => .ok defaultPort
    | .error fault => .error (.port fault)

/-- The device of a row; a row without a name is none. -/
def readDevice (row : Row) : Except Fault (Option Device) := do
  let name ← (row.firstFilled ["Device", "DeviceName"]).trimmedText.mapError .digits
  if name.isEmpty then return none
  else
    let ip ← (row.firstFilled ["IP"]).trimmedText.mapError .digits
    let port ← readPort (row.firstFilled ["Port", "PORT"])
    return some ⟨name, ip, port⟩

def readDevices : List Row → Except Fault (List Device)
  | [] => .ok []
  | row :: rest => do
    let device ← readDevice row
    let devices ← readDevices rest
    return device.toList ++ devices

/-- Fail at the first device whose IP address an earlier device has. -/
def checkIps (devices : List Device) : Except Fault Unit :=
  refuseRepeats (fun device => .ok device.ip) (fun _ ip => .duplicateIp ip) [] devices

/-! ## Points -/

/-- The property name of a row. -/
def propertyName (row : Row) : Except WriteFault String :=
  (row.get "PropertyName").trimmedText

/-- The rows of a sheet that describe a point: those that name a property. -/
def pointRows (rows : List Row) : List Row :=
  rows.filter fun row => !(row.get "PropertyName").isBlank

/-- The rows of all sheets that name a property, each with the sheet it stands in. -/
def propertyRows (sheets : List (String × List Row)) : List (String × Row) :=
  sheets.flatMap fun (sheet, rows) => (pointRows rows).map fun row => (sheet, row)

/-- Fail at the first row whose property name an earlier row of any sheet has. -/
def checkProperties (sheets : List (String × List Row)) : Except Fault Unit :=
  refuseRepeats (fun entry => propertyName entry.2)
    (fun entry name => .duplicateProperty name entry.1) [] (propertyRows sheets)

/-- The cell in a column of a point row, which is looked at by its text. -/
def writableCell (row : Row) (column : String) : Except PointFault Cell :=
  (ifWritable (row.get column).isWritable (row.get column)).mapError .digits

@[simp] theorem writableCell_of_written {row : Row} {column : String}
    (written : (row.get column).isWritable = true) :
    writableCell row column = .ok (row.get column) := by
  rw [writableCell, written]
  rfl

/-- The finite number in a cell; a blank cell has none. -/
def finiteNumber (cell : Cell) : Except PointFault (Option Double) :=
  if cell.isBlank then .ok none
  else
    match cell.toDouble with
    | .ok number => if number.isFinite then .ok (some number) else .error .notFinite
    | .error _ => .error .notFinite

/-- The length in a cell, which is not negative; zero counts as none. -/
def readLength (number : Option Double) : Except PointFault (Option Int) :=
  match number with
  | none => .ok none
  | some number =>
    match number.truncate with
    | .error _ => .error .notFinite
    | .ok length =>
      if length < 0 then .error (.negativeLength length)
      else .ok (if length = 0 then none else some length)

/-- A text unless it is empty. -/
def filledText (text : String) : Option String :=
  if text.isEmpty then none else some text

/-- The trimmed text in a column of a point row. -/
def columnText (row : Row) (column : String) : Except PointFault String :=
  (row.get column).trimmedText.mapError .digits

@[simp] theorem columnText_of_written {row : Row} {column : String}
    (written : (row.get column).isWritable = true) :
    columnText row column = .ok (row.get column).trimmedSpelling := by
  rw [columnText, Cell.trimmedText, written]
  rfl

/-- The point of a row. -/
def readPoint (row : Row) : Except PointFault Point := do
  let propertyName ← columnText row "PropertyName"
  let pointType ← (PointType.parse (row.get "Type")).mapError .type
  let lengthCell ← writableCell row "Length"
  let periodCell ← writableCell row "Period"
  let length ← finiteNumber lengthCell
  let period ← finiteNumber periodCell
  let length ← readLength length
  let address ← columnText row "ValueAddress"
  let _ ← (Address.register (.text address)).mapError .address
  let displayName ← columnText row "KeyName"
  let triggerAddress ← columnText row "TriggerAddress"
  let returnAddress ← columnText row "ReturnAddress"
  return {
    propertyName, displayName, address, pointType, length
    triggerAddress := filledText triggerAddress
    returnAddress := filledText returnAddress
    period := period.getD (Double.zero false) }

def readPoints (sheet : String) : List Row → Except Fault (List Point)
  | [] => .ok []
  | row :: rest => do
    let name ← (propertyName row).mapError .digits
    let point ← (readPoint row).mapError (.ofPoint name sheet)
    let points ← readPoints sheet rest
    return point :: points

/-- The sheet of a named table. -/
def readSheet (table : String × List Row) : Except Fault Sheet := do
  let points ← readPoints (trim table.1) (pointRows table.2)
  return ⟨trim table.1, points⟩

def readSheets : List (String × List Row) → Except Fault (List Sheet)
  | [] => .ok []
  | table :: rest => do
    let sheet ← readSheet table
    let sheets ← readSheets rest
    return sheet :: sheets

@[simp] theorem readSheets_eq_mapM (tables : List (String × List Row)) :
    readSheets tables = tables.mapM readSheet := by
  induction tables with
  | nil => rfl
  | cons table rest ih => simp only [readSheets, ih, List.mapM_cons]

/-! ## Consistency -/

/-- The trigger, as written, of the first point whose period differs from that of an earlier point
with the same trigger. -/
def conflictingTrigger (periods : List (String × Double)) : List Point → Option String
  | [] => none
  | point :: rest =>
    match point.triggerKey? with
    | none => conflictingTrigger periods rest
    | some key =>
      match periods.lookup key with
      | none => conflictingTrigger ((key, point.period) :: periods) rest
      | some period =>
        if period.sameValue point.period then conflictingTrigger periods rest
        else point.triggerAddress

/-- The first conflicting trigger of all sheets, with its sheet. -/
def triggerConflict : List Sheet → Option (String × String)
  | [] => none
  | sheet :: rest =>
    match conflictingTrigger [] sheet.points with
    | some trigger => some (trigger, sheet.name)
    | none => triggerConflict rest

/-- Fail at the first sheet that has no device for a module. -/
def checkModule (names : List String) (module : Int) : List Sheet → Except Fault Unit
  | [] => .ok ()
  | sheet :: rest => do
    let device ← (deviceNameFor sheet.name module).mapError .digits
    if device ∈ names then checkModule names module rest
    else .error (.missingDevice device sheet.name module)

/-- Fail at the first instance without device among `count` modules from `module` on: modules in
order, and the sheets of a module in order. -/
def checkInstances (names : List String) (sheets : List Sheet) : Int → Nat → Except Fault Unit
  | _, 0 => .ok ()
  | module, count + 1 => do
    checkModule names module sheets
    checkInstances names sheets (module + 1) count

/-! ## The stages in order -/

/-- The devices of a workbook, with distinct IP addresses. -/
def checkedDevices (rows : Option (List Row)) : Except Fault (List Device) :=
  match rows with
  | none => .error .missingDeviceTable
  | some rows => do
    let devices ← readDevices rows
    checkIps devices
    return devices

/-- Check tables and give them as a configuration. -/
def validate (tables : Tables) (maxModules : Int) : Except Fault Config := do
  if maxModules < 1 then
    throw (.moduleCount maxModules)
  let devices ← checkedDevices tables.devices
  checkProperties tables.sheets
  let sheets ← readSheets tables.sheets
  refuse (triggerConflict sheets) fun (trigger, sheet) => .triggerPeriods trigger sheet
  checkInstances (devices.map Device.name) sheets 1 maxModules.toNat
  return ⟨devices, sheets, maxModules.toNat⟩

/-! ## Events -/

/-- One event for every sheet that can be read, up to the first that cannot. -/
def sheetEvents : List (String × List Row) → List Event
  | [] => []
  | table :: rest =>
    match readSheet table with
    | .ok sheet => .sheetRead sheet.name sheet.points.length :: sheetEvents rest
    | .error _ => []

/-- The events of a validation, as far as it gets. -/
def events (tables : Tables) (maxModules : Int) : List Event :=
  if maxModules < 1 then []
  else
    match checkedDevices tables.devices with
    | .error _ => []
    | .ok devices =>
      .devicesRead devices.length ::
        match checkProperties tables.sheets with
        | .error _ => []
        | .ok () => sheetEvents tables.sheets

end Validation

end PointTable
