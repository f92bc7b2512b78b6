import PointTable.Config
import PointTable.Event
import PointTable.Ordered
import PointTable.Tag

/-!
# Units

A unit is a sheet instantiated for one module: its device, one tag per point, and the tags grouped
by period. Points of a period below zero are grouped again by their trigger.
-/

namespace PointTable

open Text Number

/-- Tags of one unit that share a period and, below zero, a trigger. -/
structure PeriodGroup where
  sheet : String
  module : Int
  period : Double
  tags : List Tag
  triggerAddress : Option String
  returnAddress : Option String
  deriving DecidableEq, Repr

/-- The text that tells the groups of a unit apart. -/
def PeriodGroup.key (group : PeriodGroup) : String :=
  match group.triggerAddress with
  | some trigger => Period.text group.period ++ "@" ++ trigger
  | none => Period.text group.period

/-- A sheet instantiated for one module. -/
structure SheetUnit where
  sheet : String
  module : Int
  device : Device
  tags : List Tag
  groups : List PeriodGroup
  deriving DecidableEq, Repr

namespace SheetUnit

/-- Why a unit cannot be built. -/
inductive Fault where
  /-- The number of the module cannot be written. -/
  | digits (fault : WriteFault)
  | noDevice (device sheet : String) (module : Int)
  | address (fault : Address.Fault)
  | tag (fault : Tag.Fault)
  deriving Repr

def Fault.message : Fault → String
  | .digits fault => fault.message
  | .noDevice device sheet module =>
    quoted ("No device " ++ quoted device ++ " for sheet " ++ quoted sheet ++ " module "
      ++ toString module)
  | .address fault => fault.message
  | .tag fault => fault.message

/-- The name of a point's tag in a module. -/
def tagName (propertyName : String) (module : Int) : Except WriteFault String :=
  instanceName propertyName module

@[simp] theorem tagName_eq_ok {propertyName name : String} {module : Int} :
    tagName propertyName module = .ok name ↔
      isWritable module = true ∧ instanceSpelling propertyName module = name :=
  ifWritable_eq_ok

/-- The tag of a point in a module. -/
def tagOf (module : Int) (point : Point) : Except Fault Tag := do
  let name ← (tagName point.propertyName module).mapError .digits
  let address ← (Address.register (.text point.address)).mapError .address
  (Tag.make name point.propertyName address
    (point.pointType.registerLength point.length) point.pointType
    (point.pointType.arrayLength point.length)).mapError .tag

def tagsOf (module : Int) : List Point → Except Fault (List Tag)
  | [] => .ok []
  | point :: rest => do
    let tag ← tagOf module point
    let tags ← tagsOf module rest
    return tag :: tags

@[simp] theorem tagsOf_eq_mapM (module : Int) (points : List Point) :
    tagsOf module points = points.mapM (tagOf module) := by
  induction points with
  | nil => rfl
  | cons point rest ih => simp only [tagsOf, ih, List.mapM_cons]

/-! ## Groups -/

/-- Items of points by period, without the points of period zero. -/
def byPeriod {α : Type} (point : α → Point) (items : List α) : List (Double × List α) :=
  Ordered.groupBy Double.sameValue (fun item => (point item).period)
    (items.filter fun item => !(point item).period.isZero)

/-- Items of points by the normal form of their trigger. -/
def byTrigger {α : Type} (point : α → Point) (items : List α) : List (String × List α) :=
  Ordered.groupBy (fun left right => left = right)
    (fun item => Address.normalizeOption (point item).triggerAddress) items

/-- The normal form of the first item's return address. -/
def returnAddressOf {α : Type} (point : α → Point) (items : List α) : String :=
  Address.normalizeOption (items.head?.bind fun item => (point item).returnAddress)

def groupsOfPeriod (sheet : String) (module : Int) (period : Double)
    (members : List (Point × Tag)) : List PeriodGroup :=
  if period.isPositive then
    [⟨sheet, module, period, members.map Prod.snd, none, none⟩]
  else
    (byTrigger Prod.fst members).map fun (trigger, members) =>
      ⟨sheet, module, period, members.map Prod.snd, some trigger,
        some (returnAddressOf Prod.fst members)⟩

/-- The groups of a sheet's tags in a module, in first-seen order. -/
def groupsOf (sheet : Sheet) (module : Int) (tags : List Tag) : List PeriodGroup :=
  (byPeriod Prod.fst (sheet.points.zip tags)).flatMap fun (period, members) =>
    groupsOfPeriod sheet.name module period members

/-! ## Units -/

/-- The instance of a sheet for a module. -/
def ofSheet (config : Config) (module : Int) (sheet : Sheet) : Except Fault SheetUnit := do
  let name ← (deviceNameFor sheet.name module).mapError .digits
  match config.device? name with
  | none => .error (.noDevice name sheet.name module)
  | some device => do
    let tags ← tagsOf module sheet.points
    return ⟨sheet.name, module, device, tags, groupsOf sheet module tags⟩

def ofSheets (config : Config) (module : Int) : List Sheet → Except Fault (List SheetUnit)
  | [] => .ok []
  | sheet :: rest => do
    let unit ← ofSheet config module sheet
    let units ← ofSheets config module rest
    return unit :: units

@[simp] theorem ofSheets_eq_mapM (config : Config) (module : Int) (sheets : List Sheet) :
    ofSheets config module sheets = sheets.mapM (ofSheet config module) := by
  induction sheets with
  | nil => rfl
  | cons sheet rest ih => simp only [ofSheets, ih, List.mapM_cons]

/-- The units of `count` modules from `module` on. -/
def ofModules (config : Config) : Int → Nat → Except Fault (List SheetUnit)
  | _, 0 => .ok []
  | module, count + 1 => do
    let units ← ofSheets config module config.sheets
    let rest ← ofModules config (module + 1) count
    return units ++ rest

/-- All units of a configuration, modules in order and the sheets of a module in order. -/
def ofConfig (config : Config) : Except Fault (List SheetUnit) :=
  ofModules config 1 config.maxModules

/-- The first unit of a sheet and module. -/
def find? (units : List SheetUnit) (sheet : String) (module : Int) : Option SheetUnit :=
  units.find? fun unit => unit.sheet = sheet && unit.module = module

/-! ## Events -/

/-- The distinct texts in ascending order. -/
def distinctSorted (texts : List String) : List String :=
  texts.eraseDups.mergeSort fun left right => !(right < left)

/-- A warning if the points of one trigger name several return addresses. -/
def returnEvents (sheet trigger : String) (points : List Point) : List Event :=
  let addresses := distinctSorted (points.map fun point =>
    Address.normalizeOption point.returnAddress)
  if 1 < addresses.length then
    [.returnConflict sheet trigger addresses (returnAddressOf id points)]
  else []

/-- The events of grouping a sheet's points. -/
def groupEvents (sheet : Sheet) : List Event :=
  (byPeriod id sheet.points).flatMap fun (period, points) =>
    if period.isPositive then []
    else (byTrigger id points).flatMap fun (trigger, points) =>
      returnEvents sheet.name trigger points

/-- The events of building all units of a configuration: those of every sheet once per module, and
a note on the whole. -/
def events (config : Config) (units : List SheetUnit) : List Event :=
  let perModule := config.sheets.flatMap groupEvents
  (List.replicate (if perModule.isEmpty then 0 else config.maxModules) perModule).flatten
    ++ [.unitsBuilt config.sheets.length config.maxModules
      (units.flatMap tags).length]

end SheetUnit

end PointTable
