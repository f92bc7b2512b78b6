import PointTable.PointType

/-!
# Byte orders

How the four bytes `A B C D` of a 32-bit value, `A` the most significant, lie in two registers, and
which byte of a register carries the first of its two characters.
-/

namespace PointTable

open Text

/-- The layout of a 32-bit value across two registers. -/
inductive ByteOrder where
  | abcd
  | cdab
  | badc
  | dcba
  deriving DecidableEq, Repr

/-- Which byte of each register carries the first character: the high one for `abcd`. -/
inductive StringOrder where
  | abcd
  | badc
  deriving DecidableEq, Repr

/-- The kinds of value that are given by name. -/
inductive NameKind where
  | byteOrder
  | stringOrder
  | table
  deriving DecidableEq, Repr

def NameKind.label : NameKind → String
  | .byteOrder => "ByteOrder"
  | .stringOrder => "StringByteOrder"
  | .table => "ModbusTable"

/-- A name that names nothing of its kind. -/
structure UnknownName where
  raw : Cell
  kind : NameKind
  deriving Repr

def UnknownName.message (unknown : UnknownName) : String :=
  match unknown.raw.shown with
  | .ok name => name ++ " is not a valid " ++ unknown.kind.label
  | .error fault => fault.message

namespace ByteOrder

def name : ByteOrder → String
  | .abcd => "ABCD"
  | .cdab => "CDAB"
  | .badc => "BADC"
  | .dcba => "DCBA"

def all : List ByteOrder := [.abcd, .cdab, .badc, .dcba]

def ofName (raw : Cell) : Except UnknownName ByteOrder :=
  match all.find? fun order => (Cell.text order.name).same raw with
  | some order => .ok order
  | none => .error ⟨raw, .byteOrder⟩

/-- The bytes within each word are exchanged. -/
def swapsBytes : ByteOrder → Bool
  | .badc | .dcba => true
  | .abcd | .cdab => false

/-- The low word comes first. -/
def swapsWords : ByteOrder → Bool
  | .cdab | .dcba => true
  | .abcd | .badc => false

end ByteOrder

namespace StringOrder

def name : StringOrder → String
  | .abcd => "ABCD"
  | .badc => "BADC"

def all : List StringOrder := [.abcd, .badc]

def ofName (raw : Cell) : Except UnknownName StringOrder :=
  match all.find? fun order => (Cell.text order.name).same raw with
  | some order => .ok order
  | none => .error ⟨raw, .stringOrder⟩

end StringOrder

def TableKind.ofName (raw : Cell) : Except UnknownName TableKind :=
  match TableKind.all.find? fun table => (Cell.text table.name).same raw with
  | some table => .ok table
  | none => .error ⟨raw, .table⟩

end PointTable
