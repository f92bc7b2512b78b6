import PointTable.Cell
import PointTable.Text.UpperCase

/-!
# Addresses

Point sheets spell addresses with an optional letter for the address space (`D200`). The normal
form is trimmed upper case without that letter; a normal form made of digits names a register.
-/

namespace PointTable.Address

open Text Number

/-- Drop one leading character that is no digit; an empty address is address zero. -/
def dropSpaceLetter : List Char → List Char
  | [] => ['0']
  | c :: rest =>
    if isDigit c then c :: rest
    else if rest.isEmpty then ['0']
    else rest

/-- The normal form of an address as it is written. -/
def normalizeText (text : String) : String :=
  String.ofList (dropSpaceLetter (upper (trim text)).toList)

/-- The normal form of how an address cell is spelled. An absent address is address zero, and a
whole number is spelled without a point. -/
def normalSpelling : Cell → String
  | .null => "0"
  | .float value =>
    match value.toInt? with
    | some n => normalizeText (toString n)
    | none => normalizeText value.text
  | cell => normalizeText cell.plainSpelling

def normalize (raw : Cell) : Except WriteFault String :=
  ifWritable raw.isWritable (normalSpelling raw)

@[simp] theorem normalize_text (text : String) :
    normalize (.text text) = .ok (normalizeText text) := rfl

def normalizeOption (address : Option String) : String :=
  match address with
  | some text => normalizeText text
  | none => "0"

/-- Why an address names no register. -/
inductive Fault where
  | digits (fault : WriteFault)
  | notNumeric (raw : Cell) (normalized : String)
  | literal (fault : LiteralFault)
  deriving Repr

def Fault.message : Fault → String
  | .digits fault => fault.message
  | .notNumeric raw normalized =>
    "Address " ++ raw.spelling ++ " does not normalize to a register number (got "
      ++ quoted normalized ++ ")"
  | .literal fault => fault.message

/-- The register that the normal form of an address cell names. -/
def registerOf (raw : Cell) (normalized : String) : Except Fault Nat :=
  if isNumeric normalized then
    match readInteger 10 normalized with
    | .ok n => .ok n.toNat
    | .error fault => .error (.literal fault)
  else .error (.notNumeric raw normalized)

def register (raw : Cell) : Except Fault Nat := do
  let normalized ← (normalize raw).mapError .digits
  registerOf raw normalized

@[simp] theorem register_text (text : String) :
    register (.text text) = registerOf (.text text) (normalizeText text) := by
  rw [register, normalize_text]
  generalize registerOf (.text text) = next
  rfl

end PointTable.Address
