import PointTable.Number.Literal

/-!
# Cells

A cell is whatever a table, a reading or a snapshot can hold. Cells are typed only where the
program takes them in: addresses, types, lengths and periods are read off them, and everything
behind that works on precise types.
-/

namespace PointTable

open Text Number

/-- A value of unknown kind. -/
inductive Cell where
  | null
  | bool (value : Bool)
  | int (value : Int)
  | float (value : Double)
  | text (value : String)
  | list (items : List Cell)
  | tuple (items : List Cell)
  | octets (value : List UInt8)
  | record (entries : List (String × Cell))
  deriving Repr, Inhabited

/-- A number as a cell holds it: integers stay exact. -/
inductive Numeral where
  | int (value : Int)
  | float (value : Double)
  deriving DecidableEq, Repr

/-- The numbers are equal as values. -/
def Numeral.same : Numeral → Numeral → Bool
  | .int m, .int n => m = n
  | .int m, .float y => y.equalsInt m
  | .float x, .int n => x.equalsInt n
  | .float x, .float y => x.sameValue y

namespace Cell

def ofNat (n : Nat) : Cell :=
  .int n

/-- A text as a cell; an absent one is null. -/
def ofText? (text : Option String) : Cell :=
  (text.map Cell.text).getD .null

/-- The number in a cell; a truth value counts as zero or one. -/
def number? : Cell → Option Numeral
  | .bool value => some (.int value.toInt)
  | .int value => some (.int value)
  | .float value => some (.float value)
  | _ => none

/-- The integer in a cell; a truth value counts as zero or one. -/
def integer? : Cell → Option Int
  | .bool value => some value.toInt
  | .int value => some value
  | _ => none

/-- The cell counts as true: it is a number other than zero, or not empty. -/
def truthy : Cell → Bool
  | .null => false
  | .bool value => value
  | .int value => value ≠ 0
  | .float value => !value.isZero
  | .text value => !value.isEmpty
  | .list items => !items.isEmpty
  | .tuple items => !items.isEmpty
  | .octets value => !value.isEmpty
  | .record entries => !entries.isEmpty

mutual

/-- How the cell is spelled inside other cells and in messages: texts are quoted. -/
def spelling : Cell → String
  | .null => "None"
  | .bool true => "True"
  | .bool false => "False"
  | .int value => toString value
  | .float value => value.text
  | .text value => quoted value
  | .list items => "[" ++ ", ".intercalate (itemSpellings items) ++ "]"
  | .tuple items =>
    match itemSpellings items with
    | [item] => "(" ++ item ++ ",)"
    | items => "(" ++ ", ".intercalate items ++ ")"
  | .octets value => quotedOctets value
  | .record entries => "\x7b" ++ ", ".intercalate (entrySpellings entries) ++ "\x7d"

def itemSpellings : List Cell → List String
  | [] => []
  | item :: rest => spelling item :: itemSpellings rest

def entrySpellings : List (String × Cell) → List String
  | [] => []
  | (key, value) :: rest => (quoted key ++ ": " ++ spelling value) :: entrySpellings rest

end

/-- How the cell is spelled by itself: a text stands for itself. -/
def plainSpelling : Cell → String
  | .text value => value
  | cell => cell.spelling

/-- How the cell is spelled without blanks around it. A whole number is spelled without a point,
and nothing is spelled for an absent cell. -/
def trimmedSpelling : Cell → String
  | .null => ""
  | .float value =>
    match value.toInt? with
    | some n => toString n
    | none => trim value.text
  | cell => trim cell.plainSpelling

/-- The cell is absent or holds only blanks. -/
def isBlank : Cell → Bool
  | .null => true
  | cell => (trim cell.plainSpelling).isEmpty

mutual

/-- All integers in the cell can be written. -/
def isWritable : Cell → Bool
  | .int value => Number.isWritable value
  | .list items | .tuple items => itemsWritable items
  | .record entries => entriesWritable entries
  | _ => true

def itemsWritable : List Cell → Bool
  | [] => true
  | item :: rest => isWritable item && itemsWritable rest

def entriesWritable : List (String × Cell) → Bool
  | [] => true
  | (_, value) :: rest => isWritable value && entriesWritable rest

end

/-- The cell as it stands inside other cells and in messages. -/
def shown (cell : Cell) : Except WriteFault String :=
  ifWritable cell.isWritable cell.spelling

/-- The cell as plain text. -/
def toText (cell : Cell) : Except WriteFault String :=
  ifWritable cell.isWritable cell.plainSpelling

/-- The trimmed text of a cell. -/
def trimmedText (cell : Cell) : Except WriteFault String :=
  ifWritable cell.isWritable cell.trimmedSpelling

@[simp] theorem toText_eq_ok {cell : Cell} {text : String} :
    cell.toText = .ok text ↔ cell.isWritable = true ∧ cell.plainSpelling = text :=
  ifWritable_eq_ok

@[simp] theorem trimmedText_eq_ok {cell : Cell} {text : String} :
    cell.trimmedText = .ok text ↔ cell.isWritable = true ∧ cell.trimmedSpelling = text :=
  ifWritable_eq_ok

@[simp] theorem trimmedText_eq_error {cell : Cell} {fault : WriteFault} :
    cell.trimmedText = .error fault ↔ cell.isWritable = false ∧ fault = .tooManyDigits :=
  ifWritable_eq_error

@[simp] theorem isWritable_null : Cell.null.isWritable = true := rfl

@[simp] theorem isWritable_bool (value : Bool) : (Cell.bool value).isWritable = true := rfl

@[simp] theorem isWritable_float (value : Double) : (Cell.float value).isWritable = true := rfl

@[simp] theorem isWritable_text (value : String) : (Cell.text value).isWritable = true := rfl

@[simp] theorem isWritable_int (value : Int) :
    (Cell.int value).isWritable = Number.isWritable value := rfl

theorem itemsWritable_iff {items : List Cell} :
    itemsWritable items = true ↔ ∀ item ∈ items, item.isWritable = true := by
  induction items with
  | nil => simp [itemsWritable]
  | cons item rest ih => simp [itemsWritable, ih]

@[simp] theorem plainSpelling_text (value : String) : (Cell.text value).plainSpelling = value := rfl

@[simp] theorem toText_text (value : String) : (Cell.text value).toText = .ok value := rfl

mutual

/-- The cells are equal: numbers by value, sequences of one kind item by item, records by key. -/
def same : Cell → Cell → Bool
  | .null, .null => true
  | .text a, .text b => a = b
  | .octets a, .octets b => a = b
  | .list as, .list bs => sameItems as bs
  | .tuple as, .tuple bs => sameItems as bs
  | .record as, .record bs => as.length = bs.length && sameEntries as bs
  | a, b =>
    match a.number?, b.number? with
    | some x, some y => x.same y
    | _, _ => false

def sameItems : List Cell → List Cell → Bool
  | [], [] => true
  | a :: as, b :: bs => same a b && sameItems as bs
  | _, _ => false

def sameEntries : List (String × Cell) → List (String × Cell) → Bool
  | [], _ => true
  | (key, value) :: rest, others =>
    (match others.lookup key with
      | some other => same value other
      | none => false) && sameEntries rest others

end

@[simp] theorem same_null_iff {cell : Cell} : Cell.null.same cell = true ↔ cell = .null := by
  cases cell <;> simp [same, number?]

@[simp] theorem same_text_iff {text : String} {cell : Cell} :
    (Cell.text text).same cell = true ↔ cell = .text text := by
  cases cell <;> simp [same, number?, eq_comm]

@[simp] theorem same_octets_iff {octets : List UInt8} {cell : Cell} :
    (Cell.octets octets).same cell = true ↔ cell = .octets octets := by
  cases cell <;> simp [same, number?, eq_comm]

/-- The items of a sequence; octets are a sequence of integers, a text is none. -/
def items? : Cell → Option (List Cell)
  | .list items => some items
  | .tuple items => some items
  | .octets value => some (value.map fun octet => .int octet.toNat)
  | _ => none

/-- Why a cell is no number of the kind asked for. -/
inductive NumberFault where
  /-- The cell is no number and no text. -/
  | wrongKind
  | literal (fault : LiteralFault)
  | conversion (fault : ConversionFault)
  deriving DecidableEq, Repr

def NumberFault.message : NumberFault → String
  | .wrongKind => "not a number"
  | .literal fault => fault.message
  | .conversion fault => fault.message

/-- The cell as an integer: decimals lose their fraction, texts are read. -/
def toInteger : Cell → Except NumberFault Int
  | .bool value => .ok value.toInt
  | .int value => .ok value
  | .float value => value.truncate.mapError .conversion
  | .text value => (readInteger 10 value).mapError .literal
  | .octets value => (readIntegerOctets value).mapError .literal
  | _ => .error .wrongKind

/-- The cell as a double: integers are rounded, texts are read. -/
def toDouble : Cell → Except NumberFault Double
  | .bool value => (Double.ofInt value.toInt).mapError .conversion
  | .int value => (Double.ofInt value).mapError .conversion
  | .float value => .ok value
  | .text value => (readDouble value).mapError .literal
  | .octets value => (readDoubleOctets value).mapError .literal
  | _ => .error .wrongKind

end Cell

end PointTable
