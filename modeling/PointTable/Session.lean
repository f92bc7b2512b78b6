import PointTable.ChangeLog
import PointTable.Program

/-!
# Sessions

A session works with one program: it looks up units, devices and blocks, and takes in what the
device answers to a read. The values of a block are kept when they differ from those kept before.
-/

namespace PointTable

/-- Whose values a kept snapshot holds. -/
structure SnapshotKey where
  table : TableKind
  start : Int
  sheet : String
  module : Int
  deriving DecidableEq, Repr

/-- A program and the snapshots kept so far. -/
structure Session where
  program : Program
  snapshots : List (SnapshotKey × Snapshot)

namespace Session

def start (program : Program) : Session :=
  ⟨program, []⟩

/-- Something asked of a session. A table is given by name. -/
inductive Request where
  | unit (sheet : String) (module : Int)
  | device (name : String)
  | blocks (sheet : String) (module : Int) (table : Option Cell)
  | read (sheet : String) (module : Int) (table : Option Cell) (index : Int) (data : List Cell)

/-- What a session answers. -/
inductive Answer where
  | unit (unit : SheetUnit)
  | device (device : Option Device)
  | blocks (blocks : List Block)
  | reading (values : Snapshot) (changed : Bool)

/-- Why a session cannot answer. -/
inductive Fault where
  | noUnit (missing : Program.NoUnit)
  | table (unknown : UnknownName)
  | noBlock
  | decode (fault : Codec.DecodeFault)

def Fault.message : Fault → String
  | .noUnit missing => missing.message
  | .table unknown => unknown.message
  | .noBlock => "list index out of range"
  | .decode fault => fault.message

/-- The blocks of a unit, of a table given by name or of both. -/
def blocksFor (session : Session) (sheet : String) (module : Int) (table : Option Cell) :
    Except Fault (List Block) :=
  match table with
  | none => .ok (session.program.blocksFor sheet module none)
  | some name => do
    let table ← (TableKind.ofName name).mapError .table
    return session.program.blocksFor sheet module (some table)

/-- The item at an index, which counts from the end when it is negative. -/
def itemAt {α : Type} (items : List α) (index : Int) : Option α :=
  let index := if index < 0 then index + items.length else index
  if index < 0 then none else items[index.toNat]?

/-- Take in what a device answers to the read of a block. -/
def read (session : Session) (sheet : String) (module : Int) (block : Block) (data : List Cell) :
    Except Fault (Snapshot × Bool × Session) := do
  let values ← (Codec.decodeBlock block data session.program.options.orders).mapError .decode
  let key : SnapshotKey := ⟨block.table, block.start, sheet, module⟩
  let changed := Snapshot.hasChanged (session.snapshots.lookup key) values
  let snapshots := if changed then Ordered.put key values session.snapshots else session.snapshots
  return (values, changed, { session with snapshots })

/-- Answer a request. A request that fails leaves the session as it is. -/
def answer (session : Session) : Request → Except Fault Answer × Session
  | .unit sheet module =>
    (((session.program.unit sheet module).mapError .noUnit).map .unit, session)
  | .device name => (.ok (.device (session.program.config.device? name)), session)
  | .blocks sheet module table =>
    ((session.blocksFor sheet module table).map .blocks, session)
  | .read sheet module table index data =>
    match session.blocksFor sheet module table with
    | .error fault => (.error fault, session)
    | .ok blocks =>
      match itemAt blocks index with
      | none => (.error .noBlock, session)
      | some block =>
        match session.read sheet module block data with
        | .error fault => (.error fault, session)
        | .ok (values, changed, next) => (.ok (.reading values changed), next)

def answers (session : Session) : List Request → List (Except Fault Answer)
  | [] => []
  | request :: rest => (session.answer request).1 :: (session.answer request).2.answers rest

end Session

end PointTable
