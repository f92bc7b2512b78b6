import PointTable.Xml.Token
import PointTable.Xml.Value

/-!
# Reading document types

A document type names the root and may declare entities, attributes, elements and notations. All
declarations are checked for their form; those of entities and attributes are kept. Nothing outside
of the document is read.
-/

namespace PointTable.Xml.Doctype

/-! ## Expected tokens -/

def expectClose (chars : List Char) : Except Stop (List Char) := do
  let (token, start, rest) ← Token.next chars
  match token with
  | .close => return rest
  | _ => token.refuse start

def expectName (chars : List Char) : Except Stop (String × List Char) := do
  let (token, start, rest) ← Token.next chars
  match token with
  | .name text => return (text, rest)
  | _ => token.refuse start

/-- The name of an element or an attribute that a token spells. -/
def nodeName? : Token → Option QName
  | .name text => some (QName.ofText text)
  | .qualified text => some (QName.ofText text)
  | _ => none

def expectElement (chars : List Char) : Except Stop (QName × List Char) := do
  let (token, start, rest) ← Token.next chars
  match nodeName? token with
  | some name => return (name, rest)
  | none => token.refuse start

def expectLiteral (chars : List Char) : Except Stop (List Char × List Char) := do
  let (token, start, rest) ← Token.next chars
  match token with
  | .literal text => return (text, rest)
  | _ => token.refuse start

/-- The marks of a public identifier besides letters, digits, spaces and line ends. -/
def publicMarks : List Char := "-'()+,./:=?;!*#@$_%".toList

/-- A character of a public identifier. -/
def isPublicChar (c : Char) : Bool :=
  c.isAlphanum || c = ' ' || c = '\n' || c ∈ publicMarks

def expectPublic (chars : List Char) : Except Stop (List Char) := do
  let (text, rest) ← expectLiteral chars
  match text.dropWhile isPublicChar with
  | [] => return rest
  | bad => throw (.cause .publicIdentifier (bad.length + 1 + rest.length))

/-- Where something outside of the document is, by the keyword that starts it. -/
def expectOutside (token : Token) (start rest : List Char) : Except Stop (List Char) := do
  match token with
  | .name "SYSTEM" => return (← expectLiteral rest).2
  | .name "PUBLIC" => return (← expectLiteral (← expectPublic rest)).2
  | _ => token.refuse start

/-! ## Entities -/

/-- The text that an entity is declared to have. Numbered characters are replaced and other
references kept. -/
def entityText : Nat → List Char → Except ValueFault (List Char)
  | 0, _ => .ok []
  | fuel + 1, chars =>
    match chars with
    | [] => .ok []
    | '%' :: rest =>
      match Token.readPercent rest with
      | .error stop => .error (stop.valueFault chars.length)
      | .ok (.parameter, _) => .error (.parameterReference, some chars.length)
      | .ok _ => .error (.invalidToken, some rest.length)
    | '&' :: rest =>
      match reference rest with
      | .error stop => .error (stop.valueFault chars.length)
      | .ok (.number code, rest) => do
        let c ← (numberedChar code).mapError fun cause => (cause, some chars.length)
        let others ← entityText fuel rest
        return c :: others
      | .ok (.entity name, rest) => do
        let others ← entityText fuel rest
        return '&' :: name.toList ++ ';' :: others
    | c :: rest => do
      let others ← entityText fuel rest
      return c :: others

/-- The text of an entity from its literal. It is looked at only if declarations count. -/
def literalText (doctype : Doctype) (text rest : List Char) : Except Stop (List Char) :=
  if doctype.heeded then
    (entityText (text.length + 1) text).mapError (valueStop ('\x22' :: rest) rest)
  else .ok text

/-- What a parameter stands for, which never counts inside of the document. -/
def parameterEntity (doctype : Doctype) (chars : List Char) : Except Stop (List Char) := do
  let (_, rest) ← expectName chars
  let (token, start, rest) ← Token.next rest
  match token with
  | .literal text =>
    let _ ← literalText doctype text rest
    expectClose rest
  | _ => expectClose (← expectOutside token start rest)

/-- The end of an entity outside of the document, which may be no text. -/
def outsideEntity (chars : List Char) : Except Stop (Entity × List Char) := do
  let (token, start, rest) ← Token.next chars
  match token with
  | .close => return (.external, rest)
  | .name "NDATA" =>
    let (_, rest) ← expectName rest
    return (.unparsed, ← expectClose rest)
  | _ => token.refuse start

/-- What an entity stands for. -/
def namedEntity (doctype : Doctype) (chars : List Char) : Except Stop (Entity × List Char) := do
  let (token, start, rest) ← Token.next chars
  match token with
  | .literal text =>
    let value ← literalText doctype text rest
    return (.internal value, ← expectClose rest)
  | _ => outsideEntity (← expectOutside token start rest)

/-- The declaration of an entity behind its keyword. -/
def entityDeclaration (doctype : Doctype) (chars : List Char) :
    Except Stop (Doctype × List Char) := do
  let (token, start, rest) ← Token.next chars
  match token with
  | .percent => return (doctype, ← parameterEntity doctype rest)
  | .name name =>
    let (entity, rest) ← namedEntity doctype rest
    return (doctype.addEntity name entity, rest)
  | _ => token.refuse start

/-! ## Attributes -/

/-- The type of an attribute, as far as its value depends on it. -/
inductive AttributeType where
  | text
  | identifier
  | other
  deriving DecidableEq, Repr

/-- The types of attributes that have a name. -/
def namedTypes : List (String × AttributeType) :=
  [("CDATA", .text), ("ID", .identifier), ("IDREF", .other), ("IDREFS", .other),
    ("ENTITY", .other), ("ENTITIES", .other), ("NMTOKEN", .other), ("NMTOKENS", .other)]

/-- A token that may be listed as a value of an attribute. -/
def isChoice (notations : Bool) : Token → Bool
  | .name _ => true
  | .qualified _ => !notations
  | .word => !notations
  | _ => false

/-- The values of an attribute behind the opening parenthesis, divided by bars. -/
def choices (notations : Bool) : Nat → List Char → Except Stop (List Char)
  | 0, chars => .error (.cause .noElement chars.length)
  | fuel + 1, chars => do
    let (token, start, rest) ← Token.next chars
    if !isChoice notations token then
      token.refuse start
    else
      let (token, start, rest) ← Token.next rest
      match token with
      | .bar => choices notations fuel rest
      | .closeGroup none => return rest
      | _ => token.refuse start

/-- The type of an attribute. -/
def attributeType (chars : List Char) : Except Stop (AttributeType × List Char) := do
  let (token, start, rest) ← Token.next chars
  match token with
  | .openGroup => return (.other, ← choices false (rest.length + 1) rest)
  | .name "NOTATION" =>
    let (token, start, rest) ← Token.next rest
    match token with
    | .openGroup => return (.other, ← choices true (rest.length + 1) rest)
    | _ => token.refuse start
  | .name text =>
    match namedTypes.lookup text with
    | some type => return (type, rest)
    | none => token.refuse start
  | _ => token.refuse start

/-- The value of a default. A fault without a place is found where the literal starts. -/
def defaultValue (doctype : Doctype) (type : AttributeType) (text start rest : List Char) :
    Except Stop (Option (List Char)) :=
  if doctype.heeded then
    ((attributeValue doctype [] (type = .text) text).mapError
      (valueStop ('\x22' :: rest) start)).map some
  else .ok none

/-- The default of an attribute. -/
def attributeDefault (doctype : Doctype) (type : AttributeType) (chars : List Char) :
    Except Stop (Option (List Char) × List Char) := do
  let (token, start, rest) ← Token.next chars
  match token with
  | .keyword "IMPLIED" => return (none, rest)
  | .keyword "REQUIRED" => return (none, rest)
  | .keyword "FIXED" =>
    let (token, start, rest) ← Token.next rest
    match token with
    | .literal text => return (← defaultValue doctype type text start rest, rest)
    | _ => token.refuse start
  | .literal text => return (← defaultValue doctype type text start rest, rest)
  | _ => token.refuse start

/-- The attributes of an element up to the end of their declaration. -/
def attributes (element : QName) : Nat → Doctype → List Char → Except Stop (Doctype × List Char)
  | 0, _, chars => .error (.cause .noElement chars.length)
  | fuel + 1, doctype, chars => do
    let (token, start, rest) ← Token.next chars
    match nodeName? token with
    | some name =>
      let (type, rest) ← attributeType rest
      let (default, rest) ← attributeDefault doctype type rest
      attributes element fuel
        (doctype.addRule (type = .identifier) ⟨element, name, type = .text, default⟩) rest
    | none => if token = .close then return (doctype, rest) else token.refuse start

/-- The declaration of attributes behind its keyword. -/
def attributeDeclaration (doctype : Doctype) (chars : List Char) :
    Except Stop (Doctype × List Char) := do
  let (element, rest) ← expectElement chars
  attributes element (rest.length + 1) doctype rest

/-! ## Elements and notations -/

/-- The names behind a mark of text in a group, up to its end. -/
def mixedNames : Nat → List Char → Except Stop (List Char)
  | 0, chars => .error (.cause .noElement chars.length)
  | fuel + 1, chars => do
    let (_, rest) ← expectElement chars
    let (token, start, rest) ← Token.next rest
    match token with
    | .bar => mixedNames fuel rest
    | .closeGroup (some '*') => return rest
    | _ => token.refuse start

/-- A group with text behind the mark of text. -/
def mixedGroup (chars : List Char) : Except Stop (List Char) := do
  let (token, start, rest) ← Token.next chars
  match token with
  | .closeGroup none => return rest
  | .closeGroup (some '*') => return rest
  | .bar => mixedNames (rest.length + 1) rest
  | _ => token.refuse start

/-- A token that stands for one element of a group. -/
def isParticle : Token → Bool
  | .name _ => true
  | .qualified _ => true
  | .repeated => true
  | _ => false

/-- Where a group goes on: at an item, or behind one. -/
inductive GroupPlace where
  | item
  | behindItem
  deriving DecidableEq, Repr

/-- Groups of elements up to the end of the outermost. For each group that is open, the innermost
first, `dividers` holds the token that divides its items, which is one and the same. -/
def groups : Nat → GroupPlace → List (Option Token) → List Char → Except Stop (List Char)
  | 0, _, _, chars => .error (.cause .noElement chars.length)
  | _, _, [], chars => .ok chars
  | fuel + 1, .item, dividers, chars => do
    let (token, start, rest) ← Token.next chars
    if token = .openGroup then groups fuel .item (none :: dividers) rest
    else if isParticle token then groups fuel .behindItem dividers rest
    else token.refuse start
  | fuel + 1, .behindItem, divider :: outer, chars => do
    let (token, start, rest) ← Token.next chars
    match token with
    | .closeGroup _ => groups fuel .behindItem outer rest
    | _ =>
      if (token = .comma || token = .bar) && divider.all (· = token) then
        groups fuel .item (some token :: outer) rest
      else token.refuse start

/-- What an element may hold, in parentheses whose opening is read already. -/
def contentGroup (chars : List Char) : Except Stop (List Char) := do
  let (token, _, rest) ← Token.next chars
  match token with
  | .keyword "PCDATA" => mixedGroup rest
  | _ => groups (chars.length + 1) .item [none] chars

/-- The declaration of an element behind its keyword. -/
def elementDeclaration (chars : List Char) : Except Stop (List Char) := do
  let (_, rest) ← expectElement chars
  let (token, start, rest) ← Token.next rest
  match token with
  | .name "EMPTY" => expectClose rest
  | .name "ANY" => expectClose rest
  | .openGroup => expectClose (← contentGroup rest)
  | _ => token.refuse start

/-- The declaration of a notation behind its keyword. -/
def notationDeclaration (chars : List Char) : Except Stop (List Char) := do
  let (_, rest) ← expectName chars
  let (token, start, rest) ← Token.next rest
  match token with
  | .name "SYSTEM" => expectClose (← expectLiteral rest).2
  | .name "PUBLIC" =>
    let (token, start, rest) ← Token.next (← expectPublic rest)
    match token with
    | .literal _ => expectClose rest
    | .close => return rest
    | _ => token.refuse start
  | _ => token.refuse start

/-! ## The type -/

/-- A declaration behind its keyword, if there is one of that keyword. -/
def declaration? (doctype : Doctype) (keyword : String) (rest : List Char) :
    Option (Except Stop (Doctype × List Char)) :=
  if keyword = "ENTITY" then some (entityDeclaration doctype rest)
  else if keyword = "ATTLIST" then some (attributeDeclaration doctype rest)
  else if keyword = "ELEMENT" then some ((elementDeclaration rest).map fun rest => (doctype, rest))
  else if keyword = "NOTATION" then
    some ((notationDeclaration rest).map fun rest => (doctype, rest))
  else none

/-- The declarations of a type up to the closing bracket. A parameter might declare anything, so
what follows it counts only in a document that stands alone. -/
def declarations : Nat → Doctype → List Char → Except Stop (Doctype × List Char)
  | 0, _, chars => .error (.cause .noElement chars.length)
  | fuel + 1, doctype, chars => do
    let (token, start, rest) ← Token.next chars
    match token with
    | .opening keyword =>
      match doctype.declaration? keyword rest with
      | some result =>
        let (doctype, rest) ← result
        declarations fuel doctype rest
      | none => token.refuse start
    | .instruction => declarations fuel doctype rest
    | .comment => declarations fuel doctype rest
    | .parameter =>
      declarations fuel { doctype with incomplete := true, heeded := doctype.standsAlone } rest
    | .closeBracket => return (doctype, rest)
    | _ => token.refuse start

/-- The end of a type behind its names, with its declarations. -/
def body (doctype : Doctype) (token : Token) (start rest : List Char) :
    Except Stop (Doctype × List Char) := do
  match token with
  | .close => return (doctype, rest)
  | .openBracket =>
    let (doctype, rest) ← declarations (rest.length + 1) doctype rest
    return (doctype, ← expectClose rest)
  | _ => token.refuse start

/-- A type behind its keyword. One that is outside of the document too may declare anything. -/
def read (doctype : Doctype) (chars : List Char) : Except Stop (Doctype × List Char) := do
  let (_, rest) ← expectElement chars
  let (token, start, rest) ← Token.next rest
  match token with
  | .name _ =>
    let rest ← expectOutside token start rest
    let (token, start, rest) ← Token.next rest
    body { doctype with incomplete := true } token start rest
  | _ => body doctype token start rest

end PointTable.Xml.Doctype
