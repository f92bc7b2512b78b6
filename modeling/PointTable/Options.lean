import PointTable.Batching
import PointTable.Text.UpperCase

/-!
# Build options

The tunables of a build with their ranges in the type: at least one module, no negative gap, reads
of at least one register, a handshake that polls at least every millisecond.
-/

namespace PointTable

open Text

/-- The tunables of a build. -/
structure Options where
  maxModules : Nat
  maxGap : Nat
  maxBatchSize : Nat
  orders : Codec.Orders
  monitorInterval : Nat
  handshakeTimeout : Nat
  handshakePoll : Nat
  maxModules_pos : 0 < maxModules
  maxBatchSize_pos : 0 < maxBatchSize
  handshakePoll_pos : 0 < handshakePoll
  deriving Repr

namespace Options

/-- Why options are refused. -/
inductive Fault where
  | maxModules (value : Int)
  | maxGap (value : Int)
  | maxBatchSize (value : Int)
  | monitorInterval (value : Int)
  | handshakeTiming
  | order (unknown : UnknownName)
  deriving Repr

/-- What is said of a number below its least value. -/
def tooSmall (name : String) (least value : Int) : String :=
  Number.wording value (name ++ " must be >= " ++ toString least ++ ", got " ++ toString value)

/-- What is said of too few modules. -/
def modulesMessage (value : Int) : String :=
  tooSmall "max_modules" 1 value

def Fault.message : Fault → String
  | .maxModules value => modulesMessage value
  | .maxGap value => tooSmall "max_gap" 0 value
  | .maxBatchSize value => tooSmall "max_batch_size" 1 value
  | .monitorInterval value => tooSmall "monitor_interval_ms" 0 value
  | .handshakeTiming => "handshake timeout must be >= 0 and poll interval >= 1"
  | .order unknown => unknown.message

/-- Options as they are asked for, before any check. -/
structure Request where
  maxModules : Int := 1
  maxGap : Int := 20
  maxBatchSize : Int := 100
  byteOrder : Cell := .text "ABCD"
  stringOrder : Cell := .text "BADC"
  monitorInterval : Int := 1000
  handshakeTimeout : Int := 5000
  handshakePoll : Int := 100
  deriving Repr

/-- Check a request. The numbers are checked before the orders. -/
def ofRequest (request : Request) : Except Fault Options :=
  if modules : 0 < request.maxModules.toNat then
    if request.maxGap < 0 then .error (.maxGap request.maxGap)
    else if batch : 0 < request.maxBatchSize.toNat then
      if request.monitorInterval < 0 then .error (.monitorInterval request.monitorInterval)
      else if request.handshakeTimeout < 0 then .error .handshakeTiming
      else if poll : 0 < request.handshakePoll.toNat then
        match ByteOrder.ofName request.byteOrder, StringOrder.ofName request.stringOrder with
        | .error unknown, _ => .error (.order unknown)
        | .ok _, .error unknown => .error (.order unknown)
        | .ok bytes, .ok strings =>
          .ok ⟨request.maxModules.toNat, request.maxGap.toNat, request.maxBatchSize.toNat,
            ⟨bytes, strings⟩, request.monitorInterval.toNat, request.handshakeTimeout.toNat,
            request.handshakePoll.toNat, modules, batch, poll⟩
      else .error .handshakeTiming
    else .error (.maxBatchSize request.maxBatchSize)
  else .error (.maxModules request.maxModules)

/-- The options of an empty request. -/
def standard : Options :=
  ⟨1, 20, 100, ⟨.abcd, .badc⟩, 1000, 5000, 100, by decide, by decide, by decide⟩

/-- The limits that options set for batching. -/
def limits (options : Options) : Limits :=
  ⟨options.maxGap, options.maxBatchSize⟩

/-- The name of an order as a user types it. -/
def typedName (typed : String) : Cell :=
  .text (upper (trim typed))

/-- Check options as a user types them: orders in any case, and checked before the numbers. -/
def ofTyped (maxModules maxGap maxBatchSize : Int) (byteOrder stringOrder : String)
    (monitorInterval : Int) : Except Fault Options :=
  match ByteOrder.ofName (typedName byteOrder), StringOrder.ofName (typedName stringOrder) with
  | .error unknown, _ => .error (.order unknown)
  | .ok _, .error unknown => .error (.order unknown)
  | .ok bytes, .ok strings =>
    ofRequest { maxModules, maxGap, maxBatchSize, monitorInterval,
                byteOrder := .text bytes.name, stringOrder := .text strings.name }

end Options

end PointTable
