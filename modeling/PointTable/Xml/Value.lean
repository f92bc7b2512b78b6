import PointTable.Xml.Doctype

/-!
# Attribute values

The value of an attribute is read with its references replaced by what they stand for and with every
blank as a space. A value of any type but character data has no spaces at its ends and no two in a
row. A fault inside an entity's text has no place of its own.
-/

namespace PointTable.Xml

/-- A fault of a value: what is wrong, and what is left of the text where it is, unless the fault
has no place in the text. -/
abbrev ValueFault := Cause × Option Nat

/-- The fault of a reader that stops in a text. A reference that the text ends in is no token. -/
def Stop.valueFault (reference : Nat) : Stop → ValueFault
  | .cause found left => (found, some left)
  | _ => (.invalidToken, some reference)

/-- The characters of a text in a value, given what entities stand for. An entity's own fault is at
the reference or has no place. -/
def valueWith (entity : String → Except (Cause × Bool) (List Char)) :
    Nat → List Char → Except ValueFault (List Char)
  | 0, _ => .ok []
  | fuel + 1, chars =>
    match chars with
    | [] => .ok []
    | '<' :: _ => .error (.invalidToken, some chars.length)
    | '&' :: rest =>
      match reference rest with
      | .error stop => .error (stop.valueFault chars.length)
      | .ok (.number code, rest) => do
        let c ← (numberedChar code).mapError fun cause => (cause, some chars.length)
        let others ← valueWith entity fuel rest
        return c :: others
      | .ok (.entity name, rest) => do
        let text ← (entity name).mapError fun (cause, placed) =>
          (cause, if placed then some chars.length else none)
        let others ← valueWith entity fuel rest
        return text ++ others
    | c :: rest => do
      let others ← valueWith entity fuel rest
      return (if isSpace c then ' ' else c) :: others

/-- The characters that an entity stands for in a value. The entities in `pending` are being
replaced, and `depth` bounds their number. An entity that need not be declared stands for nothing
if it is not. -/
def entityValue (doctype : Doctype) :
    Nat → List String → String → Except (Cause × Bool) (List Char)
  | 0, _, _ => .error (.recursiveEntity, false)
  | depth + 1, pending, name =>
    match predefined.lookup name with
    | some c => .ok [c]
    | none =>
      match doctype.entities.lookup name with
      | none => if doctype.mustDeclare then .error (.undefinedEntity, false) else .ok []
      | some entity =>
        if name ∈ pending then .error (.recursiveEntity, false)
        else
          match entity with
          | .unparsed => .error (.binaryEntity, true)
          | .external => .error (.externalEntity, true)
          | .internal text =>
            let inner := entityValue doctype depth (name :: pending)
            (valueWith inner (text.length + 1) text).mapError fun (cause, _) => (cause, false)

/-- Drop every space that starts the text or follows a space. -/
def collapseSpaces (spaced : Bool) : List Char → List Char
  | [] => []
  | c :: rest =>
    if c = ' ' && spaced then collapseSpaces true rest
    else c :: collapseSpaces (c = ' ') rest

/-- A value of any type but character data: no spaces at the ends and no two in a row. -/
def tokenized (chars : List Char) : List Char :=
  let collapsed := collapseSpaces true chars
  if collapsed.getLast? = some ' ' then collapsed.dropLast else collapsed

/-- The value of an attribute. -/
def attributeValue (doctype : Doctype) (pending : List String) (isText : Bool)
    (chars : List Char) : Except ValueFault (List Char) := do
  let value ← valueWith (entityValue doctype (doctype.entities.length + 1) pending)
    (chars.length + 1) chars
  return if isText then value else tokenized value

/-- A fault of a value as a stop. `behind` stands behind the value, and a fault without a place is
found at `outer`. -/
def valueStop (behind outer : List Char) (fault : ValueFault) : Stop :=
  .cause fault.1
    (match fault.2 with
    | some left => left + behind.length
    | none => outer.length)

end PointTable.Xml
