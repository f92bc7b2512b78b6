import PointTable.Address
import PointTable.PointType

/-!
# Configurations

The devices and the points of all sheets as typed, ordered data. A sheet describes the points of
one kind of module; it is instantiated once for every module, and each instance is served by the
device named for the sheet and the module.
-/

namespace PointTable

open Number

/-- The endpoint of a device. -/
structure Device where
  name : String
  ip : String
  port : Int
  deriving DecidableEq, Repr

/-- The port of a device that gives none. -/
def defaultPort : Int := 502

/-- A row of a point sheet. Addresses are kept as they are written. -/
structure Point where
  propertyName : String
  displayName : String
  address : String
  pointType : PointType
  length : Option Int
  triggerAddress : Option String
  returnAddress : Option String
  period : Double
  deriving DecidableEq, Repr

/-- The normal form of a point's trigger address, if the point has one. -/
def Point.triggerKey? (point : Point) : Option String :=
  match point.triggerAddress with
  | some trigger => if trigger.isEmpty then none else some (Address.normalizeText trigger)
  | none => none

/-- A sheet of points. -/
structure Sheet where
  name : String
  points : List Point
  deriving DecidableEq, Repr

/-- Devices and sheets, and for how many modules each sheet is instantiated. -/
structure Config where
  devices : List Device
  sheets : List Sheet
  maxModules : Nat
  deriving DecidableEq, Repr

/-- The first device of a name. -/
def Config.device? (config : Config) (name : String) : Option Device :=
  config.devices.find? (·.name = name)

/-- How a name with the number of a module behind it is spelled. -/
def instanceSpelling (stem : String) (module : Int) : String :=
  stem ++ "_M" ++ toString module

def instanceName (stem : String) (module : Int) : Except WriteFault String :=
  ifWritable (isWritable module) (instanceSpelling stem module)

/-- The name of the device that serves a sheet's instance for a module. -/
def deviceNameFor (sheet : String) (module : Int) : Except WriteFault String :=
  instanceName sheet module

@[simp] theorem deviceNameFor_eq_ok {sheet name : String} {module : Int} :
    deviceNameFor sheet module = .ok name ↔
      isWritable module = true ∧ instanceSpelling sheet module = name :=
  ifWritable_eq_ok

end PointTable
