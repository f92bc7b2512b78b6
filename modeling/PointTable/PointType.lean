import PointTable.Cell

/-!
# Point types

A point is a scalar of one of five base types or an array of them. The type fixes the table the
point is read from and, with its length, how many registers or coils it occupies.
-/

namespace PointTable

open Text Number

/-- The tables of a device. Coils and registers are never read in one request. -/
inductive TableKind where
  | coil
  | holdingRegister
  deriving DecidableEq, Repr

def TableKind.name : TableKind → String
  | .coil => "coil"
  | .holdingRegister => "holding_register"

/-- The tables in the order they are planned. -/
def TableKind.all : List TableKind := [.coil, .holdingRegister]

/-- The scalar types. -/
inductive BaseType where
  | bool
  | short
  | int
  | float
  | string
  deriving DecidableEq, Repr

namespace BaseType

def name : BaseType → String
  | .bool => "bool"
  | .short => "short"
  | .int => "int"
  | .float => "float"
  | .string => "string"

def all : List BaseType := [.bool, .short, .int, .float, .string]

def ofName? (text : String) : Option BaseType :=
  all.find? (·.name = text)

end BaseType

/-- A base type with an array flag. -/
structure PointType where
  base : BaseType
  isArray : Bool
  deriving DecidableEq, Repr

namespace PointType

def text (pointType : PointType) : String :=
  if pointType.isArray then pointType.base.name ++ "[]" else pointType.base.name

/-- The table a point of this type is read from. -/
def table (pointType : PointType) : TableKind :=
  if pointType.base = .bool then .coil else .holdingRegister

/-- Why a type is refused. -/
inductive Fault where
  | digits (fault : WriteFault)
  | unknown (raw : Cell)
  | badBase (name : String)
  deriving Repr

def Fault.message : Fault → String
  | .digits fault => fault.message
  | .unknown raw => "Unknown point type: " ++ raw.spelling
  | .badBase name =>
    "base type must be one of " ++ ", ".intercalate (BaseType.all.map BaseType.name)
      ++ ", got " ++ quoted name

/-- The type of an exact base spelling. -/
def ofBase (name : String) (isArray : Bool) : Except Fault PointType :=
  match BaseType.ofName? name with
  | some base => .ok ⟨base, isArray⟩
  | none => .error (.badBase name)

/-- The type of an exact spelling, an array when it ends in brackets. -/
def ofText (text : String) : Except Fault PointType :=
  match text.toList.reverse with
  | ']' :: '[' :: base => ofBase (String.ofList base.reverse) true
  | _ => ofBase text false

/-- The character is a letter of a type name in either case. The long s and the i with or without
its dot count as letters too, though no base type is spelled with them. -/
def matchesLetter (letter c : Char) : Bool :=
  c.toLower = letter
    || (letter = 's' && c = '\u017f')
    || (letter = 'i' && (c = '\u0130' || c = '\u0131'))

/-- The lower case of a letter of a type name. -/
def lowerLetter (c : Char) : List Char :=
  if c = '\u0130' then ['i', '\u0307'] else [c.toLower]

/-- Take a type name off the front of a cell: what was written and the rest. -/
def takeName? : List Char → List Char → Option (List Char × List Char)
  | [], rest => some ([], rest)
  | _ :: _, [] => none
  | letter :: letters, c :: rest =>
    if matchesLetter letter c then
      (takeName? letters rest).map fun (written, rest) => (c :: written, rest)
    else none

/-- What may follow a type name: nothing, or blanks and brackets. -/
def takeBrackets? (rest : List Char) : Option Bool :=
  match rest.dropWhile isBlank with
  | [] => some false
  | ['[', ']'] => some true
  | _ => none

/-- The name as written and the array flag of a trimmed type cell. -/
def split? (chars : List Char) : Option (List Char × Bool) :=
  BaseType.all.findSome? fun base => do
    let (written, rest) ← takeName? base.name.toList chars
    let isArray ← takeBrackets? rest
    return (written, isArray)

/-- The type a cell spells, in any case and with blanks around the parts. -/
def parse (raw : Cell) : Except Fault PointType := do
  let text ← (if raw.truthy then raw.toText else .ok "").mapError .digits
  match split? (trim text).toList with
  | some (written, isArray) => ofBase (String.ofList (written.flatMap lowerLetter)) isArray
  | none => .error (.unknown raw)

/-- The registers a string occupies when its length is not given. -/
def defaultStringLength : Int := 10

/-- The elements an array has when its length is not given. -/
def defaultArrayLength : Int := 5

/-- A length that is given and not zero, or a default. -/
def lengthOr (default : Int) : Option Int → Int
  | some length => if length = 0 then default else length
  | none => default

/-- Registers or coils per element. An element of a string array is one register. -/
def elementWidth (pointType : PointType) : Nat :=
  match pointType.base with
  | .int | .float => 2
  | .bool | .short | .string => 1

/-- The number of elements; a scalar has one. -/
def arrayLength (pointType : PointType) (length : Option Int) : Int :=
  if pointType.isArray then lengthOr defaultArrayLength length else 1

/-- The registers or coils a point occupies. -/
def registerLength (pointType : PointType) (length : Option Int) : Int :=
  if pointType.isArray then pointType.arrayLength length * pointType.elementWidth
  else if pointType.base = .string then lengthOr defaultStringLength length
  else pointType.elementWidth

end PointType

end PointTable
