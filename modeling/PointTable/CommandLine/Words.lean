import PointTable.Cell

/-!
# Words and values on the command line

Register words are typed in decimal or in hexadecimal; decoded values are shown with at most six
digits after rounding.
-/

namespace PointTable.CommandLine

open Text Number

/-- Why a typed word is refused. -/
inductive WordFault where
  | literal (fault : LiteralFault)
  | outOfRange (typed : String)
  deriving DecidableEq, Repr

def WordFault.message : WordFault → String
  | .literal fault => fault.message
  | .outOfRange typed => "Register word out of range 0..65535: " ++ quoted typed

/-- The base in which a trimmed word is written. -/
def wordBase (trimmed : String) : Nat :=
  match trimmed.toList with
  | '0' :: 'x' :: _ => 16
  | '0' :: 'X' :: _ => 16
  | _ => 10

/-- The word that is typed. -/
def readWord (typed : String) : Except WordFault Nat :=
  let trimmed := trim typed
  match readInteger (wordBase trimmed) trimmed with
  | .error fault => .error (.literal fault)
  | .ok n => if 0 ≤ n ∧ n ≤ 0xFFFF then .ok n.toNat else .error (.outOfRange typed)

/-- The words that are typed, up to the first that is refused. -/
def readWords : List String → Except WordFault (List Nat)
  | [] => .ok []
  | typed :: rest => do
    let word ← readWord typed
    let words ← readWords rest
    return word :: words

mutual

/-- How a decoded value is spelled. -/
def valueSpelling : Cell → String
  | .bool true => "true"
  | .bool false => "false"
  | .float value => value.generalText 6
  | .list items => "[" ++ ", ".intercalate (valueSpellings items) ++ "]"
  | cell => cell.plainSpelling

def valueSpellings : List Cell → List String
  | [] => []
  | item :: rest => valueSpelling item :: valueSpellings rest

end

@[simp] theorem valueSpellings_eq_map (items : List Cell) :
    valueSpellings items = items.map valueSpelling := by
  induction items with
  | nil => rfl
  | cons item rest ih => rw [valueSpellings, ih, List.map_cons]

/-- A decoded value as it is shown. -/
def valueText (value : Cell) : Except WriteFault String :=
  ifWritable value.isWritable (valueSpelling value)

end PointTable.CommandLine
