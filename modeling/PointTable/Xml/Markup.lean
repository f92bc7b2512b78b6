import PointTable.Xml.Fault
import PointTable.Xml.Name

/-!
# Pieces of markup

Names, references, comments and processing instructions, which stand in the content of a document
as well as around its root. A reader takes the characters it starts at and gives what it found with
the rest behind.
-/

namespace PointTable.Xml

/-! ## Characters -/

def isSpace (c : Char) : Bool :=
  c = ' ' || c = '\t' || c = '\n' || c = '\r'

def isDocumentChar (c : Char) : Bool :=
  isSpace c || (0x20 ≤ c.toNat && c.toNat ≠ 0xFFFE && c.toNat ≠ 0xFFFF)

def skipSpace (rest : List Char) : List Char :=
  rest.dropWhile isSpace

/-- Line ends of any kind as single ones. -/
def normalizeLines : List Char → List Char
  | [] => []
  | '\r' :: '\n' :: rest => '\n' :: normalizeLines rest
  | c :: rest => (if c = '\r' then '\n' else c) :: normalizeLines rest

/-- The characters up to a mark, and the rest behind it. -/
def upTo? (mark : List Char) : List Char → Option (List Char × List Char)
  | [] => none
  | c :: rest =>
    if mark.isPrefixOf (c :: rest) then some ([], (c :: rest).drop mark.length)
    else (upTo? mark rest).map fun (before, rest) => (c :: before, rest)

/-- The first character of a text that may not stand in a document stops reading there. `behind`
is what stands behind the text. -/
def checkChars (behind : List Char) : List Char → Except Stop Unit
  | [] => .ok ()
  | c :: rest =>
    if isDocumentChar c then checkChars behind rest
    else .error (.cause .invalidToken (behind.length + rest.length + 1))

/-- The characters of a text that a word goes on with; the first that differs stops reading. -/
def expectWord : List Char → List Char → Except Stop (List Char)
  | [], rest => .ok rest
  | _ :: _, [] => .error .ended
  | c :: word, d :: rest => if c = d then expectWord word rest else unexpected (d :: rest)

/-! ## Names -/

/-- A name with an optional prefix, as written. -/
structure QName where
  qualifier : Option String
  name : String
  deriving DecidableEq, Repr

/-- The name that a text spells. -/
def QName.ofText (text : String) : QName :=
  match text.toList.dropWhile (· ≠ ':') with
  | [] => ⟨none, text⟩
  | _ :: name =>
    ⟨some (String.ofList (text.toList.takeWhile (· ≠ ':'))), String.ofList name⟩

/-- A name as it is written. -/
def QName.written (name : QName) : String :=
  match name.qualifier with
  | some qualifier => qualifier ++ ":" ++ name.name
  | none => name.name

def plainName (chars : List Char) : Except Stop (String × List Char) :=
  match chars with
  | [] => .error .ended
  | c :: _ =>
    if isNameStart c then
      .ok (String.ofList (chars.takeWhile isNameChar), chars.dropWhile isNameChar)
    else unexpected chars

def qualifiedName (chars : List Char) : Except Stop (QName × List Char) := do
  let (first, rest) ← plainName chars
  match rest with
  | ':' :: rest =>
    let (second, rest) ← plainName rest
    return (⟨some first, second⟩, rest)
  | _ => return (⟨none, first⟩, rest)

/-! ## References -/

/-- What a reference refers to. -/
inductive Reference where
  | entity (name : String)
  | number (code : Nat)
  deriving DecidableEq, Repr

def hexValue? (c : Char) : Option Nat :=
  if c.isDigit then some (c.toNat - '0'.toNat)
  else if 'a' ≤ c && c ≤ 'f' then some (c.toNat - 'a'.toNat + 10)
  else if 'A' ≤ c && c ≤ 'F' then some (c.toNat - 'A'.toNat + 10)
  else none

/-- The digits at the front in a base, as their values. -/
def referenceDigits (base : Nat) : List Char → List Nat × List Char
  | [] => ([], [])
  | c :: rest =>
    match hexValue? c with
    | some digit =>
      if digit < base then
        let (digits, rest) := referenceDigits base rest
        (digit :: digits, rest)
      else ([], c :: rest)
    | none => ([], c :: rest)

def semicolon {α : Type} (result : α) (rest : List Char) : Except Stop (α × List Char) :=
  match rest with
  | ';' :: rest => .ok (result, rest)
  | _ => unexpected rest

/-- The number of a character reference in a base. -/
def numberReference (base : Nat) (chars : List Char) : Except Stop (Reference × List Char) :=
  match referenceDigits base chars with
  | ([], rest) => unexpected rest
  | (digits, rest) =>
    semicolon (.number (digits.foldl (fun number digit => number * base + digit) 0)) rest

def reference (chars : List Char) : Except Stop (Reference × List Char) :=
  match chars with
  | '#' :: 'x' :: rest => numberReference 16 rest
  | '#' :: rest => numberReference 10 rest
  | _ => do
    let (name, rest) ← plainName chars
    semicolon (.entity name) rest

/-- The character of a number, if it may stand in a document. -/
def numberedChar (code : Nat) : Except Cause Char :=
  if code.isValidChar && isDocumentChar (Char.ofNat code) then .ok (Char.ofNat code)
  else .error .characterNumber

/-- The entities that every document has. -/
def predefined : List (String × Char) :=
  [("lt", '<'), ("gt", '>'), ("amp", '&'), ("apos", '\x27'), ("quot", '\x22')]

/-! ## Comments and instructions -/

def comment (chars : List Char) : Except Stop (List Char) :=
  match upTo? ['-', '-'] chars with
  | none => do
    checkChars [] chars
    .error .ended
  | some (before, rest) => do
    checkChars ('-' :: '-' :: rest) before
    match rest with
    | '>' :: rest => return rest
    | _ => unexpected rest

/-- What an instruction is for. -/
inductive Target where
  | application
  /-- The XML declaration has the form of an instruction. -/
  | declaration
  deriving DecidableEq, Repr

/-- What an instruction of a name is for. The reserved name has one spelling only. -/
def targetOf? (name : String) : Option Target :=
  if name = "xml" then some .declaration
  else if name.toLower = "xml" then none
  else some .application

/-- A processing instruction whose opening is read already: what it is for, its inside and the
rest. -/
def instruction (chars : List Char) : Except Stop (Target × List Char × List Char) := do
  let (name, rest) ← plainName chars
  match rest with
  | [] => .error .ended
  | c :: inside =>
    if c ≠ '?' && !isSpace c then unexpected rest
    else
      match targetOf? name with
      | none => unexpected rest
      | some target =>
        if c = '?' then
          match inside with
          | '>' :: rest => return (target, [], rest)
          | _ => unexpected inside
        else
          match upTo? ['?', '>'] rest with
          | none => do
            checkChars [] rest
            .error .ended
          | some (before, behind) => do
            checkChars ('?' :: '>' :: behind) before
            return (target, before, behind)

end PointTable.Xml
