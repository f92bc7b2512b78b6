import PointTable.Number.Decimal
import PointTable.Text.Blank
import PointTable.Text.Digit
import PointTable.Text.Quoted

/-!
# Number literals

The grammar of numbers in cells and on the command line. Blanks around a number are ignored,
decimal digits of every script count, and single underscores may stand between digits. Integers
are read in base ten or sixteen; decimals may have a point, an exponent, or be one of the words for
infinity and the non-number. In base ten there is a limit to the digits of an integer, both where
it is read and where it is written.
-/

namespace PointTable.Number

open Text

/-- Why a text is no number. The text is kept as it is shown in messages. -/
inductive LiteralFault where
  | badInteger (base : Nat) (shown : String)
  | tooManyDigits (count : Nat)
  | badDecimal (shown : String)
  deriving DecidableEq, Repr

/-- The most digits a base-ten integer may have, read or written. -/
def digitLimit : Nat := 4300

/-- How much of a text that is no integer is shown. -/
def shownLimit : Nat := 200

def LiteralFault.message : LiteralFault → String
  | .badInteger base shown =>
    "invalid literal for int() with base " ++ toString base ++ ": "
      ++ String.ofList (shown.toList.take shownLimit)
  | .tooManyDigits count =>
    "Exceeds the limit (" ++ toString digitLimit ++ " digits) for integer string conversion: "
      ++ "value has " ++ toString count
      ++ " digits; use sys.set_int_max_str_digits() to increase the limit"
  | .badDecimal shown => "could not convert string to float: " ++ shown

/-- The value of a digit of base ten or sixteen. -/
def digitValue? (base : Nat) (c : Char) : Option Nat :=
  match decimalValue? c with
  | some value => some value
  | none =>
    if base = 16 && 'a' ≤ c && c ≤ 'f' then some (c.toNat - 'a'.toNat + 10)
    else if base = 16 && 'A' ≤ c && c ≤ 'F' then some (c.toNat - 'A'.toNat + 10)
    else none

@[simp] theorem digitValue?_ten (c : Char) : digitValue? 10 c = decimalValue? c := by
  cases value : decimalValue? c <;> simp [digitValue?, value]

/-- The values of a run of digits with at most one underscore between any two. -/
def separatedDigits (base : Nat) : List Char → Option (List Nat)
  | [] => none
  | [c] => (digitValue? base c).map fun digit => [digit]
  | c :: '_' :: rest => do
    let digit ← digitValue? base c
    let digits ← separatedDigits base rest
    return digit :: digits
  | c :: rest => do
    let digit ← digitValue? base c
    let digits ← separatedDigits base rest
    return digit :: digits

/-- The natural that digits spell, most significant first. -/
def ofDigits (base : Nat) (digits : List Nat) : Nat :=
  digits.foldl (fun value digit => value * base + digit) 0

def splitSign : List Char → Bool × List Char
  | '-' :: rest => (true, rest)
  | '+' :: rest => (false, rest)
  | chars => (false, chars)

/-- The digits after the mark that base sixteen may begin with; one underscore may follow it. -/
def dropHexMark : List Char → List Char
  | '0' :: x :: '_' :: rest => if x = 'x' || x = 'X' then rest else '0' :: x :: '_' :: rest
  | '0' :: x :: rest => if x = 'x' || x = 'X' then rest else '0' :: x :: rest
  | chars => chars

/-- Read an integer that has no blanks around it. -/
def integerOf? (base : Nat) (shown : String) (chars : List Char) : Except LiteralFault Int :=
  let (negative, magnitude) := splitSign chars
  match separatedDigits base (if base = 16 then dropHexMark magnitude else magnitude) with
  | none => .error (.badInteger base shown)
  | some digits =>
    if base = 10 && digitLimit < digits.length then .error (.tooManyDigits digits.length)
    else .ok (if negative then -(ofDigits base digits : Int) else ofDigits base digits)

def readInteger (base : Nat) (text : String) : Except LiteralFault Int :=
  integerOf? base (quoted text) (trimBy isNumberBlank text.toList)

/-- Every underscore stands between two digits. -/
def underscoresSeparate : List Char → Bool
  | [] => true
  | '_' :: _ => false
  | c :: '_' :: d :: rest =>
    (decimalValue? c).isSome && (decimalValue? d).isSome && underscoresSeparate (d :: rest)
  | [_, '_'] => false
  | _ :: rest => underscoresSeparate rest

/-- A run of decimal digits and the rest. -/
def takeDigits : List Char → List Nat × List Char
  | [] => ([], [])
  | c :: rest =>
    match decimalValue? c with
    | some digit =>
      let (digits, rest) := takeDigits rest
      (digit :: digits, rest)
    | none => ([], c :: rest)

/-- The exponent part of a decimal, which ends it. -/
def exponentOf? : List Char → Option Int
  | [] => some 0
  | mark :: rest =>
    if mark = 'e' || mark = 'E' then
      let (negative, magnitude) := splitSign rest
      match takeDigits magnitude with
      | (digit :: digits, []) =>
        let value := ofDigits 10 (digit :: digits)
        some (if negative then -(value : Int) else value)
      | _ => none
    else none

/-- The digits of a decimal with an optional point and exponent. -/
def decimalOf? (chars : List Char) : Option Decimal :=
  let (whole, rest) := takeDigits chars
  let (fraction, rest) :=
    match rest with
    | '.' :: rest => takeDigits rest
    | _ => ([], rest)
  if whole.isEmpty && fraction.isEmpty then none
  else (exponentOf? rest).map fun exponent =>
    ⟨ofDigits 10 (whole ++ fraction), exponent - fraction.length⟩

/-- Read a decimal or one of the words for infinity and the non-number, without blanks. -/
def doubleOf? (shown : String) (chars : List Char) : Except LiteralFault Double :=
  let (negative, magnitude) := splitSign chars
  let word := String.ofList (magnitude.map Char.toLower)
  if word = "inf" || word = "infinity" then .ok (.infinite negative)
  else if word = "nan" then .ok (.nan negative)
  else if !underscoresSeparate magnitude then .error (.badDecimal shown)
  else
    match decimalOf? (magnitude.filter (· ≠ '_')) with
    | some decimal => .ok (decimal.toDouble negative)
    | none => .error (.badDecimal shown)

def readDouble (text : String) : Except LiteralFault Double :=
  doubleOf? (quoted text) (trimBy isNumberBlank text.toList)

/-- The characters of octets, without ASCII blanks around them. -/
def octetChars (octets : List UInt8) : List Char :=
  trimBy (fun c => c = ' ' || (9 ≤ c.toNat && c.toNat ≤ 13))
    (octets.map fun octet => Char.ofNat octet.toNat)

/-- Read octets as an integer in ASCII. -/
def readIntegerOctets (octets : List UInt8) : Except LiteralFault Int :=
  integerOf? 10 (quotedOctets octets) (octetChars octets)

/-- Read octets as a double in ASCII. -/
def readDoubleOctets (octets : List UInt8) : Except LiteralFault Double :=
  doubleOf? (quotedOctets octets) (octetChars octets)

/-! ## Writing integers -/

/-- Why an integer is not written. -/
inductive WriteFault where
  | tooManyDigits
  deriving DecidableEq, Repr

def WriteFault.message : WriteFault → String
  | .tooManyDigits =>
    "Exceeds the limit (" ++ toString digitLimit ++ " digits) for integer string conversion; "
      ++ "use sys.set_int_max_str_digits() to increase the limit"

/-- The integer has no more digits than may be written. -/
def isWritable (n : Int) : Bool :=
  (Nat.toDigits 10 n.natAbs).length ≤ digitLimit

/-- Something that is made by writing integers, if they can be written. -/
def ifWritable {α : Type} (writable : Bool) (value : α) : Except WriteFault α :=
  if writable then .ok value else .error .tooManyDigits

@[simp] theorem ifWritable_true {α : Type} (value : α) : ifWritable true value = .ok value := rfl

@[simp] theorem ifWritable_false {α : Type} (value : α) :
    ifWritable false value = .error .tooManyDigits := rfl

@[simp] theorem ifWritable_eq_ok {α : Type} {writable : Bool} {value made : α} :
    ifWritable writable value = .ok made ↔ writable = true ∧ value = made := by
  cases writable <;> simp

@[simp] theorem ifWritable_eq_error {α : Type} {writable : Bool} {value : α} {fault : WriteFault} :
    ifWritable writable value = .error fault ↔ writable = false ∧ fault = .tooManyDigits := by
  cases writable <;> simp [eq_comm]

/-- A wording with an integer in it, or what is said of an integer that cannot be written. -/
def wording (n : Int) (text : String) : String :=
  match ifWritable (isWritable n) text with
  | .ok text => text
  | .error fault => fault.message

end PointTable.Number
