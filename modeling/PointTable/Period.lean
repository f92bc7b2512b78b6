import PointTable.Cell
import PointTable.Number.Decimal

/-!
# Periods

The period of a point says how it is captured. Zero is for live display only; a period from one on
is a number of milliseconds; between zero and one it is a number of seconds between checks for a
change; below zero it is, without its sign, the seconds between handshakes.
-/

namespace PointTable

open Number

/-- How a group of points is captured. -/
inductive TaskKind where
  | monitor
  | periodic
  | change
  | handshake
  deriving DecidableEq, Repr

def TaskKind.name : TaskKind → String
  | .monitor => "monitor"
  | .periodic => "periodic"
  | .change => "change"
  | .handshake => "handshake"

namespace Period

/-- A period as tables spell it: whole periods without a point. -/
def text (period : Double) : String :=
  match period.toInt? with
  | some whole => toString whole
  | none => period.text

def kind (period : Double) : TaskKind :=
  if period.isZero then .monitor
  else if period.isNegative then .handshake
  else if period.isBelowOne then .change
  else .periodic

/-- The nearest integer, the greater one of two. -/
def roundHalfUp (value : Double) : Except ConversionFault Int :=
  value.plusHalf.floor

/-- The milliseconds between two ticks of a period's task. -/
def milliseconds (period : Double) : Except ConversionFault Int :=
  match kind period with
  | .change | .handshake => roundHalfUp (period.abs.scale 1000)
  | .monitor | .periodic => roundHalfUp period

/-- The spelling of a period without sign, fit for a name. -/
def nameText (period : Double) : String :=
  String.ofList ((text period.abs).toList.map fun c => if c = '.' then '_' else c)

/-- The name of the storage table of a sheet's points of one period. -/
def storageName (sheet : String) (period : Double) : String :=
  sheet ++ "_PeriodAbs_" ++ nameText period

end Period

namespace Numeral

/-- The double nearest to a number. -/
def toDouble : Numeral → Except ConversionFault Double
  | .int value => Double.ofInt value
  | .float value => .ok value

def abs : Numeral → Numeral
  | .int value => .int value.natAbs
  | .float value => .float value.abs

/-- A number as tables spell it. -/
def periodText (period : Numeral) : Except ConversionFault String :=
  period.toDouble.map Period.text

/-- The kind of task of a number; integers of any size have one. -/
def taskKind : Numeral → TaskKind
  | .int value => if value = 0 then .monitor else if value < 0 then .handshake else .periodic
  | .float value => Period.kind value

/-- The milliseconds between two ticks. An integer is scaled before it is rounded to a double. -/
def milliseconds : Numeral → Except ConversionFault Int
  | .int value =>
    (Double.ofInt (if value < 0 then -value * 1000 else value)).bind Period.roundHalfUp
  | .float value => Period.milliseconds value

/-- The name of the storage table of a sheet's points of one period. -/
def storageName (sheet : String) (period : Numeral) : Except ConversionFault String :=
  period.abs.toDouble.map (Period.storageName sheet)

end Numeral

end PointTable
