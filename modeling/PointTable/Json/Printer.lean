import PointTable.Cell

/-!
# Writing JSON

Cells written as JSON text, on one line or indented, in plain ASCII or with all characters kept.
Non-numbers and infinities are written by name.
-/

namespace PointTable.Json

open Text Number

/-- How JSON is laid out. -/
structure Layout where
  /-- The blanks per level; everything stands on one line without. -/
  indent : Option Nat
  /-- Characters beyond ASCII are escaped. -/
  asciiOnly : Bool
  deriving DecidableEq, Repr

/-- Everything on one line in ASCII. -/
def Layout.line : Layout := ⟨none, true⟩

/-- Two blanks per level in ASCII. -/
def Layout.indentedAscii : Layout := ⟨some 2, true⟩

/-- Two blanks per level with all characters kept. -/
def Layout.indented : Layout := ⟨some 2, false⟩

/-- A code unit as an escape. -/
def unitEscape (unit : Nat) : List Char :=
  '\\' :: 'u' :: hexText 4 unit

/-- A character as one escape, or two beyond the basic plane. -/
def charEscape (c : Char) : List Char :=
  if codePoint c < 0x10000 then unitEscape (codePoint c)
  else
    let code := c.toNat - 0x10000
    unitEscape (0xD800 + code / 0x400) ++ unitEscape (0xDC00 + code % 0x400)

def stringChar (asciiOnly : Bool) (c : Char) : List Char :=
  if c = '\x22' then ['\\', '\x22']
  else if c = '\\' then ['\\', '\\']
  else if c = '\n' then ['\\', 'n']
  else if c = '\r' then ['\\', 'r']
  else if c = '\t' then ['\\', 't']
  else if c = '\x08' then ['\\', 'b']
  else if c = '\x0c' then ['\\', 'f']
  else if c.toNat < 0x20 || (asciiOnly && 0x7E < c.toNat) then charEscape c
  else [c]

/-- A string with its quotes. -/
def stringText (asciiOnly : Bool) (text : String) : String :=
  "\"" ++ String.ofList (text.toList.flatMap (stringChar asciiOnly)) ++ "\""

/-- A number; the ones without digits are written by name. -/
def numberText : Double → String
  | .nan _ => "NaN"
  | .infinite false => "Infinity"
  | .infinite true => "-Infinity"
  | number => number.text

/-- The parts of a list or an object between its brackets. -/
def enclose (layout : Layout) (level : Nat) (opening closing : String) (parts : List String) :
    String :=
  if parts.isEmpty then opening ++ closing
  else
    match layout.indent with
    | none => opening ++ ", ".intercalate parts ++ closing
    | some width =>
      let newline (level : Nat) := "\n" ++ String.ofList (List.replicate (width * level) ' ')
      opening ++ newline (level + 1) ++ ("," ++ newline (level + 1)).intercalate parts
        ++ newline level ++ closing

mutual

/-- A cell at a level of nesting. -/
def write (layout : Layout) (level : Nat) : Cell → String
  | .null => "null"
  | .bool true => "true"
  | .bool false => "false"
  | .int value => toString value
  | .float value => numberText value
  | .text value => stringText layout.asciiOnly value
  | .list items => enclose layout level "[" "]" (writeItems layout (level + 1) items)
  | .tuple items => enclose layout level "[" "]" (writeItems layout (level + 1) items)
  | .octets value => stringText layout.asciiOnly (quotedOctets value)
  | .record entries =>
    enclose layout level "\x7b" "\x7d" (writeEntries layout (level + 1) entries)

def writeItems (layout : Layout) (level : Nat) : List Cell → List String
  | [] => []
  | item :: rest => write layout level item :: writeItems layout level rest

def writeEntries (layout : Layout) (level : Nat) : List (String × Cell) → List String
  | [] => []
  | (key, value) :: rest =>
    (stringText layout.asciiOnly key ++ ": " ++ write layout level value)
      :: writeEntries layout level rest

end

@[simp] theorem writeItems_eq_map (layout : Layout) (level : Nat) (items : List Cell) :
    writeItems layout level items = items.map (write layout level) := by
  induction items with
  | nil => rfl
  | cons item rest ih => rw [writeItems, ih, List.map_cons]

/-- A cell as JSON text. -/
def render (layout : Layout) (cell : Cell) : Except WriteFault String :=
  ifWritable cell.isWritable (write layout 0 cell)

end PointTable.Json
