import PointTable.Cell
import PointTable.Ordered

/-!
# Reading JSON

JSON text becomes a cell. Objects keep the order of their keys; a key that comes again keeps its
first place and takes the last value. Besides the standard grammar the names of the non-number and
the infinities are read. A fault says how much of the text was left where it was found, which gives
its line and column.
-/

namespace PointTable.Json

open Text Number

/-- What is wrong with a JSON text. -/
inductive Cause where
  | byteOrderMark
  | value
  | propertyName
  | colon
  | comma
  | unterminated
  | controlCharacter
  | escape
  | unicodeEscape
  | extraData
  deriving DecidableEq, Repr

def Cause.message : Cause → String
  | .byteOrderMark => "Unexpected UTF-8 BOM (decode using utf-8-sig)"
  | .value => "Expecting value"
  | .propertyName => "Expecting property name enclosed in double quotes"
  | .colon => "Expecting ':' delimiter"
  | .comma => "Expecting ',' delimiter"
  | .unterminated => "Unterminated string starting at"
  | .controlCharacter => "Invalid control character at"
  | .escape => "Invalid \\escape"
  | .unicodeEscape => "Invalid \\uXXXX escape"
  | .extraData => "Extra data"

/-- What holds other values. -/
inductive Container where
  | array
  | object
  deriving DecidableEq, Repr

def Container.name : Container → String
  | .array => "array"
  | .object => "object"

/-- The most containers that may be open at once. -/
def nestingLimit : Nat := 975

/-- A fault where `remaining` characters are left, or one that has no place. -/
inductive Stop where
  | cause (cause : Cause) (remaining : Nat)
  | literal (fault : LiteralFault)
  | nesting (container : Container)
  deriving DecidableEq, Repr

/-- Why a text is no JSON. -/
inductive Fault where
  /-- The text breaks the grammar at a line, a column and a position. -/
  | malformed (cause : Cause) (line column position : Nat)
  | literal (fault : LiteralFault)
  /-- A container is nested too deep. -/
  | nesting (container : Container)
  deriving DecidableEq, Repr

def Fault.message : Fault → String
  | .malformed cause line column position =>
    cause.message ++ ": line " ++ toString line ++ " column " ++ toString column ++ " (char "
      ++ toString position ++ ")"
  | .literal fault => fault.message
  | .nesting container =>
    "maximum recursion depth exceeded while decoding a JSON " ++ container.name
      ++ " from a unicode string"

def isSpace (c : Char) : Bool :=
  c = ' ' || c = '\t' || c = '\n' || c = '\r'

def skipSpace (rest : List Char) : List Char :=
  rest.dropWhile isSpace

/-! ## Strings -/

def hexDigit? (c : Char) : Option Nat :=
  if '0' ≤ c && c ≤ '9' then some (c.toNat - '0'.toNat)
  else if 'a' ≤ c && c ≤ 'f' then some (c.toNat - 'a'.toNat + 10)
  else if 'A' ≤ c && c ≤ 'F' then some (c.toNat - 'A'.toNat + 10)
  else none

/-- The code unit of four hexadecimal digits that are followed by something. -/
def codeUnit? : List Char → Option (Nat × List Char)
  | a :: b :: c :: d :: e :: rest => do
    let a ← hexDigit? a
    let b ← hexDigit? b
    let c ← hexDigit? c
    let d ← hexDigit? d
    return (((a * 16 + b) * 16 + c) * 16 + d, e :: rest)
  | _ => none

/-- The character of an escape of one letter. -/
def shortEscape? (c : Char) : Option Char :=
  if c = '\x22' || c = '\\' || c = '/' then some c
  else if c = 'b' then some '\x08'
  else if c = 'f' then some '\x0c'
  else if c = 'n' then some '\n'
  else if c = 'r' then some '\r'
  else if c = 't' then some '\t'
  else none

/-- A unit that opens a pair. -/
def isHighUnit (unit : Nat) : Bool :=
  0xD800 ≤ unit && unit ≤ 0xDBFF

/-- A unit that closes a pair. -/
def isLowUnit (unit : Nat) : Bool :=
  0xDC00 ≤ unit && unit ≤ 0xDFFF

/-- The character of a code unit, which may be a lone half of a pair. -/
def charOfUnit (unit : Nat) : Char :=
  if isHighUnit unit || isLowUnit unit then ofSurrogate unit else Char.ofNat unit

/-- The character of an escape by code, which starts at its letter, and how many characters it
takes. Two halves of a pair make one character. -/
def unicodeEscape (escape : List Char) : Except Stop (Char × Nat) :=
  match codeUnit? (escape.drop 1) with
  | none => .error (.cause .unicodeEscape escape.length)
  | some (unit, rest) =>
    if isHighUnit unit && 6 < rest.length && rest.take 2 = ['\\', 'u'] then
      match codeUnit? (rest.drop 2) with
      | none => .error (.cause .unicodeEscape (rest.length - 1))
      | some (low, _) =>
        if isLowUnit low then
          .ok (Char.ofNat (0x10000 + (unit - 0xD800) * 0x400 + (low - 0xDC00)), 11)
        else .ok (charOfUnit unit, 5)
    else .ok (charOfUnit unit, 5)

/-- The characters of a string up to its closing quote, and the rest behind it. `skip` characters
belong to an escape that is read already, and `opening` is what stood behind the opening quote. -/
def stringChars (opening : List Char) : Nat → List Char → Except Stop (List Char × List Char)
  | _, [] => .error (.cause .unterminated (opening.length + 1))
  | skip + 1, _ :: rest => stringChars opening skip rest
  | 0, c :: rest =>
    if c = '\x22' then .ok ([], rest)
    else if c = '\\' then
      match rest with
      | [] => .error (.cause .unterminated (opening.length + 1))
      | letter :: _ =>
        if letter = 'u' then
          match unicodeEscape rest with
          | .error stop => .error stop
          | .ok (decoded, length) => do
            let (chars, rest) ← stringChars opening length rest
            return (decoded :: chars, rest)
        else
          match shortEscape? letter with
          | none => .error (.cause .escape (rest.length + 1))
          | some decoded => do
            let (chars, rest) ← stringChars opening 1 rest
            return (decoded :: chars, rest)
    else if c.toNat < 0x20 then .error (.cause .controlCharacter (rest.length + 1))
    else do
      let (chars, rest) ← stringChars opening 0 rest
      return (c :: chars, rest)

/-- A string whose opening quote is read already. -/
def string (rest : List Char) : Except Stop (String × List Char) := do
  let (chars, rest) ← stringChars rest 0 rest
  return (String.ofList chars, rest)

/-! ## Numbers -/

def digits (rest : List Char) : List Char :=
  rest.takeWhile Char.isDigit

/-- The integer digits at the front: a single zero, or digits that start with another one. -/
def wholeDigits (rest : List Char) : List Char :=
  match rest with
  | '0' :: _ => ['0']
  | _ => digits rest

/-- The fraction at the front: a point and at least one digit. -/
def fraction (rest : List Char) : List Char :=
  match rest with
  | '.' :: rest => if (digits rest).isEmpty then [] else '.' :: digits rest
  | _ => []

/-- The exponent at the front: its mark, a sign if there is one, and at least one digit. -/
def exponent (rest : List Char) : List Char :=
  match rest with
  | [] => []
  | mark :: rest =>
    if mark = 'e' || mark = 'E' then
      let sign := rest.take 1 |>.filter fun c => c = '+' || c = '-'
      let power := digits (rest.drop sign.length)
      if power.isEmpty then [] else mark :: sign ++ power
    else []

def number (chars : List Char) : Except Stop (Cell × List Char) :=
  let sign := chars.take 1 |>.filter (· = '-')
  let whole := wholeDigits (chars.drop sign.length)
  if whole.isEmpty then .error (.cause .value chars.length)
  else
    let integer := sign ++ whole
    let rest := chars.drop integer.length
    let fractional := fraction rest
    let power := exponent (rest.drop fractional.length)
    if fractional.isEmpty && power.isEmpty then
      match readInteger 10 (String.ofList integer) with
      | .ok value => .ok (.int value, rest)
      | .error fault => .error (.literal fault)
    else
      match readDouble (String.ofList (integer ++ fractional ++ power)) with
      | .ok value => .ok (.float value, rest.drop (fractional.length + power.length))
      | .error fault => .error (.literal fault)

/-! ## Values -/

/-- The values that are written by name. -/
def named : List (List Char × Cell) :=
  [("null".toList, .null), ("true".toList, .bool true), ("false".toList, .bool false),
    ("NaN".toList, .float (.nan false)), ("Infinity".toList, .float (.infinite false)),
    ("-Infinity".toList, .float (.infinite true))]

/-- A value other than a list or an object at the front of a text. -/
def scalar (chars : List Char) : Except Stop (Cell × List Char) :=
  match named.find? fun entry => entry.1.isPrefixOf chars with
  | some (name, value) => .ok (value, chars.drop name.length)
  | none =>
    match chars with
    | '\x22' :: rest => do
      let (text, rest) ← string rest
      return (.text text, rest)
    | _ => number chars

mutual

/-- The value at the front of a text, inside of `depth` containers. -/
def value : Nat → Nat → List Char → Except Stop (Cell × List Char)
  | 0, _, chars => .error (.cause .value chars.length)
  | fuel + 1, depth, chars =>
    match chars with
    | '[' :: rest =>
      if nestingLimit ≤ depth then .error (.nesting .array)
      else
        match skipSpace rest with
        | ']' :: rest => .ok (.list [], rest)
        | rest => do
          let (items, rest) ← items fuel (depth + 1) rest
          return (.list items, rest)
    | '\x7b' :: rest =>
      if nestingLimit ≤ depth then .error (.nesting .object)
      else
        match skipSpace rest with
        | '\x7d' :: rest => .ok (.record [], rest)
        | rest => do
          let (members, rest) ← members fuel (depth + 1) rest
          return (.record (Ordered.ofPairs members), rest)
    | _ => scalar chars

/-- The items of a list from the first one on, and the rest behind the closing bracket. -/
def items : Nat → Nat → List Char → Except Stop (List Cell × List Char)
  | 0, _, chars => .error (.cause .value chars.length)
  | fuel + 1, depth, chars => do
    let (item, rest) ← value fuel depth chars
    match skipSpace rest with
    | ']' :: rest => return ([item], rest)
    | ',' :: rest =>
      let (others, rest) ← items fuel depth (skipSpace rest)
      return (item :: others, rest)
    | rest => .error (.cause .comma rest.length)

/-- The members of an object from the first one on, and the rest behind the closing brace. -/
def members : Nat → Nat → List Char → Except Stop (List (String × Cell) × List Char)
  | 0, _, chars => .error (.cause .value chars.length)
  | fuel + 1, depth, chars =>
    match chars with
    | '\x22' :: rest => do
      let (key, rest) ← string rest
      match skipSpace rest with
      | ':' :: rest =>
        let (item, rest) ← value fuel depth (skipSpace rest)
        match skipSpace rest with
        | '\x7d' :: rest => return ([(key, item)], rest)
        | ',' :: rest =>
          let (others, rest) ← members fuel depth (skipSpace rest)
          return ((key, item) :: others, rest)
        | rest => .error (.cause .comma rest.length)
      | rest => .error (.cause .colon rest.length)
    | rest => .error (.cause .propertyName rest.length)

end

/-- The one value of a text. Each step into a value takes a character or two, so the length of the
text bounds their number. -/
def document (chars : List Char) : Except Stop Cell :=
  match chars with
  | '\ufeff' :: rest => .error (.cause .byteOrderMark (rest.length + 1))
  | _ => do
    let (cell, rest) ← value (2 * chars.length + 2) 0 (skipSpace chars)
    match skipSpace rest with
    | [] => return cell
    | rest => .error (.cause .extraData rest.length)

/-- Line, column and position of the place where some characters are left. -/
def locate (cause : Cause) (chars : List Char) (remaining : Nat) : Fault :=
  let position := chars.length - remaining
  let before := chars.take position
  .malformed cause ((before.filter (· = '\n')).length + 1)
    ((before.reverse.takeWhile (· ≠ '\n')).length + 1) position

def parse (text : String) : Except Fault Cell :=
  match document text.toList with
  | .ok cell => .ok cell
  | .error (.cause cause remaining) => .error (locate cause text.toList remaining)
  | .error (.literal fault) => .error (.literal fault)
  | .error (.nesting container) => .error (.nesting container)

end PointTable.Json
