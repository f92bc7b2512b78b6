import PointTable.Xml.Markup

/-!
# Tokens around the root

What stands outside of a document's root is read token by token, and so is the inside of a document
type. Names, literals and marks are tokens only if a character follows that can end them.
-/

namespace PointTable.Xml

/-- A token outside of the root. -/
inductive Token where
  /-- The root's tag starts. -/
  | start
  /-- A declaration opens with its keyword. -/
  | opening (keyword : String)
  | conditionOpening
  | conditionClosing
  | comment
  | instruction
  /-- An XML declaration. -/
  | declaration
  | name (text : String)
  /-- A name with a prefix. -/
  | qualified (text : String)
  /-- Characters of names that are no name. -/
  | word
  /-- A name with a mark of repetition behind. -/
  | repeated
  /-- A name behind a number sign. -/
  | keyword (text : String)
  | literal (text : List Char)
  | percent
  /-- A reference to a parameter. -/
  | parameter
  | comma
  | bar
  | openBracket
  | closeBracket
  | openGroup
  /-- A closing parenthesis and its mark of repetition. -/
  | closeGroup (mark : Option Char)
  | close
  deriving DecidableEq, Repr

namespace Token

def isRepetition (c : Char) : Bool :=
  c = '?' || c = '*' || c = '+'

/-- What characters of a name come to. -/
inductive NameKind where
  | name
  | qualified
  | word
  deriving DecidableEq, Repr

/-- The token of a name. -/
def ofName (kind : NameKind) (reversed : List Char) : Token :=
  match kind with
  | .name => .name (String.ofList reversed.reverse)
  | .qualified => .qualified (String.ofList reversed.reverse)
  | .word => .word

def endsName (c : Char) : Bool :=
  isSpace c || c = '>' || c = ')' || c = ',' || c = '|' || c = '[' || c = '%'

/-- A name from its second character on; the characters before are in reverse. -/
def readName (kind : NameKind) (reversed : List Char) :
    List Char → Except Stop (Token × List Char)
  | [] => .ok (ofName kind reversed, [])
  | c :: rest =>
    if isNameChar c then readName kind (c :: reversed) rest
    else if c = ':' then
      match kind, rest with
      | .name, [] => .error .ended
      | .name, next :: _ =>
        readName (if isNameChar next then .qualified else .word) (c :: reversed) rest
      | _, _ => readName .word (c :: reversed) rest
    else if endsName c then .ok (ofName kind reversed, c :: rest)
    else if isRepetition c && kind ≠ .word then .ok (.repeated, rest)
    else unexpected (c :: rest)

/-- A literal whose opening mark is read already. -/
def readLiteral (mark : Char) (chars : List Char) : Except Stop (Token × List Char) :=
  match upTo? [mark] chars with
  | none => do
    checkChars [] chars
    .error .ended
  | some (text, rest) => do
    checkChars (mark :: rest) text
    match rest with
    | [] => return (.literal text, [])
    | c :: _ =>
      if isSpace c || c = '>' || c = '%' || c = '[' then return (.literal text, rest)
      else unexpected rest

/-- A percent sign that is read already: alone before a blank, or the start of a reference. -/
def readPercent (chars : List Char) : Except Stop (Token × List Char) :=
  match chars with
  | [] => .error .ended
  | c :: _ =>
    if isSpace c || c = '%' then .ok (.percent, chars)
    else do
      let (_, rest) ← plainName chars
      semicolon .parameter rest

/-- A keyword whose number sign is read already. -/
def readKeyword (chars : List Char) : Except Stop (Token × List Char) := do
  let (found, rest) ← plainName chars
  match rest with
  | [] => return (.keyword found, [])
  | c :: _ =>
    if isSpace c || c = ')' || c = '>' || c = '%' || c = '|' then return (.keyword found, rest)
    else unexpected rest

/-- A closing parenthesis that is read already. -/
def readCloseGroup (chars : List Char) : Except Stop (Token × List Char) :=
  match chars with
  | [] => .ok (.closeGroup none, [])
  | c :: rest =>
    if isRepetition c then .ok (.closeGroup (some c), rest)
    else if isSpace c || c = '>' || c = ',' || c = '|' || c = ')' then
      .ok (.closeGroup none, chars)
    else unexpected chars

/-- A closing bracket that is read already. -/
def readCloseBracket (chars : List Char) : Except Stop (Token × List Char) :=
  match chars with
  | ']' :: '>' :: rest => .ok (.conditionClosing, rest)
  | [']'] => .error .ended
  | _ => .ok (.closeBracket, chars)

def isKeywordChar (c : Char) : Bool :=
  c.isAlpha || c = '_'

/-- The keyword of a declaration. A percent sign may follow it only if it starts a reference. -/
def readOpening (chars : List Char) : Except Stop (Token × List Char) :=
  let found := Token.opening (String.ofList (chars.takeWhile isKeywordChar))
  match chars.dropWhile isKeywordChar with
  | [] => .error .ended
  | '%' :: rest =>
    match rest with
    | [] => .error .ended
    | c :: _ =>
      if isSpace c || c = '%' then unexpected ('%' :: rest) else .ok (found, '%' :: rest)
  | c :: rest => if isSpace c then .ok (found, c :: rest) else unexpected (c :: rest)

/-- Markup whose angle bracket is read already. -/
def readMarkup (start chars : List Char) : Except Stop (Token × List Char) :=
  match chars with
  | [] => .error .ended
  | '!' :: rest =>
    match rest with
    | [] => .error .ended
    | '-' :: rest => do return (.comment, ← Xml.comment (← expectWord ['-'] rest))
    | '[' :: rest => .ok (.conditionOpening, rest)
    | c :: _ => if isKeywordChar c then readOpening rest else unexpected rest
  | '?' :: rest => do
    let (target, _, rest) ← Xml.instruction rest
    return (if target = Target.declaration then .declaration else .instruction, rest)
  | c :: _ =>
    if isNameStart c || 0x80 ≤ c.toNat then .ok (.start, start) else unexpected chars

/-- The token at the front, where no blank stands. -/
def read (chars : List Char) : Except Stop (Token × List Char) :=
  match chars with
  | [] => .error (.cause .noElement 0)
  | c :: rest =>
    if c = '<' then readMarkup chars rest
    else if c = '\x22' || c = '\x27' then readLiteral c rest
    else if c = '%' then readPercent rest
    else if c = '#' then readKeyword rest
    else if c = ',' then .ok (.comma, rest)
    else if c = '|' then .ok (.bar, rest)
    else if c = '[' then .ok (.openBracket, rest)
    else if c = ']' then readCloseBracket rest
    else if c = '(' then .ok (.openGroup, rest)
    else if c = ')' then readCloseGroup rest
    else if c = '>' then .ok (.close, rest)
    else if isNameStart c then readName .name [c] rest
    else if isNameChar c || c = ':' then readName .word [c] rest
    else unexpected chars

/-- The next token behind blanks, with the characters it starts at. At the end there is none. -/
def next (chars : List Char) : Except Stop (Token × List Char × List Char) := do
  let start := skipSpace chars
  let (token, rest) ← closing start (read start)
  return (token, start, rest)

/-- What is wrong with a token that may not stand where it does. -/
def misfit : Token → Cause
  | .parameter => .parameterReference
  | .declaration => .misplacedDeclaration
  | _ => .syntaxError

/-- A token that may not stand where it does. -/
def refuse {α : Type} (token : Token) (start : List Char) : Except Stop α :=
  .error (.cause token.misfit start.length)

end Token

end PointTable.Xml
