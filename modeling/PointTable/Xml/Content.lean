import PointTable.Xml.Tag

/-!
# Content

The content of an element is text, references, character sections, comments, instructions and other
elements. A reference to an entity stands for the entity's text, which is content again and closes
all that it opens. A fault in such a text is found where the reference stands in the document.
-/

namespace PointTable.Xml

/-- An element whose end tag is still to come. The text and the children are in reverse. -/
structure Frame where
  name : QName
  attributes : List Attribute
  scope : Scope
  text : List Char
  children : List Element

namespace Frame

def ofTag (tag : Tag) : Frame :=
  ⟨tag.name, tag.attributes, tag.scope, [], []⟩

def addText (frame : Frame) (chars : List Char) : Frame :=
  if frame.children.isEmpty then { frame with text := chars.reverse ++ frame.text } else frame

def addChild (frame : Frame) (child : Element) : Frame :=
  { frame with children := child :: frame.children }

def close (frame : Frame) : Element :=
  .node frame.name.name frame.attributes (String.ofList frame.text.reverse) frame.children.reverse

end Frame

/-! ## Steps -/

/-- What a step of the content leads to. -/
inductive Step where
  /-- The frames that are open, the innermost first, and the rest. -/
  | more (frame : Frame) (outer : List Frame) (rest : List Char)
  /-- The outermost frame is closed. -/
  | done (element : Element) (rest : List Char)

def closeFrame (frame : Frame) (outer : List Frame) (rest : List Char) : Step :=
  match outer with
  | [] => .done frame.close rest
  | parent :: outer => .more (parent.addChild frame.close) outer rest

/-- The name of an end tag, in which colons may stand anywhere but first. -/
def endName (chars : List Char) : Except Stop (String × List Char) :=
  match chars with
  | [] => .error .ended
  | c :: _ =>
    if isNameStart c then
      .ok (String.ofList (chars.takeWhile fun c => isNameChar c || c = ':'),
        chars.dropWhile fun c => isNameChar c || c = ':')
    else unexpected chars

/-- An end tag whose opening is read already. An entity's text, if `inEntity` says so, closes no
frame that it has not opened. -/
def endTag (inEntity : Bool) (frame : Frame) (outer : List Frame) (chars : List Char) :
    Except Stop Step := do
  let (name, rest) ← endName chars
  match skipSpace rest with
  | '>' :: rest =>
    if inEntity && outer.isEmpty then throw (.cause .unbalancedEntity chars.length)
    else if name = frame.name.written then return closeFrame frame outer rest
    else throw (.cause .mismatchedTag chars.length)
  | rest => unexpected rest

/-- What opens a character section, behind its first bracket. -/
def sectionWord : List Char := "CDATA[".toList

/-- The opening of a character section, whose first bracket is read already. It is looked at only if
there are octets enough for it. -/
def sectionOpening (chars : List Char) : Except Stop (List Char) :=
  if (String.ofList (chars.take sectionWord.length)).utf8ByteSize < sectionWord.length then
    .error .ended
  else expectWord sectionWord chars

/-- A character section whose opening is read already. One that is not closed is so at its end, or
at the brackets there that might close it. -/
def characterSection (frame : Frame) (outer : List Frame) (chars : List Char) : Except Stop Step :=
  match upTo? [']', ']', '>'] chars with
  | none => do
    checkChars [] chars
    .error (.cause .unclosedCdata (min 2 (chars.reverse.takeWhile (· = ']')).length))
  | some (before, rest) => do
    checkChars (']' :: ']' :: '>' :: rest) before
    return .more (frame.addText before) outer rest

/-- An instruction in the content, which `start` starts with. -/
def contentInstruction (start : List Char) : Except Stop (List Char) := do
  let (target, _, rest) ← instruction (start.drop 2)
  match target with
  | .application => return rest
  | .declaration => throw (.cause .misplacedDeclaration start.length)

/-- The plain text at the front. -/
def plainText (chars : List Char) : List Char :=
  chars.takeWhile fun c => c ≠ '<' && c ≠ '&'

/-- Plain text must not hold the end of a character section. -/
def checkText (behind chars : List Char) : Except Stop Unit :=
  match upTo? [']', ']', '>'] chars with
  | none => checkChars behind chars
  | some (before, rest) => do
    checkChars (']' :: ']' :: '>' :: rest ++ behind) before
    .error (.cause .invalidToken (behind.length + rest.length + 1))

/-- What the content is read with: the document type, the entities that are being replaced, and what
becomes of a frame when an entity's text is read into it. -/
structure Setting where
  doctype : Doctype
  pending : List String
  expand : Frame → String → Except Stop Frame

/-- A reference in the innermost frame, which `start` starts with. -/
def contentReference (setting : Setting) (start : List Char) (frame : Frame) :
    Reference → Except Stop Frame
  | .number code =>
    ((numberedChar code).mapError fun cause => Stop.cause cause start.length).map fun c =>
      frame.addText [c]
  | .entity name =>
    match predefined.lookup name with
    | some c => .ok (frame.addText [c])
    | none => placedAt start (setting.expand frame name)

/-- One step inside the innermost frame. `fuel` is more than the number of characters. -/
def contentStep (setting : Setting) (fuel : Nat) (frame : Frame) (outer : List Frame)
    (chars : List Char) : Except Stop Step :=
  match chars with
  | [] => .error (.cause .noElement 0)
  | '<' :: '/' :: rest =>
    closing chars (endTag (!setting.pending.isEmpty) frame outer rest)
  | '<' :: '?' :: _ => (closing chars (contentInstruction chars)).map (.more frame outer)
  | '<' :: '!' :: '-' :: rest =>
    (closing chars (do comment (← expectWord ['-'] rest))).map (.more frame outer)
  | '<' :: '!' :: '[' :: rest =>
    closing chars (do characterSection frame outer (← sectionOpening rest))
  | '<' :: '!' :: rest => closing chars (unexpected rest)
  | '<' :: _ => do
    let (tag, rest) ←
      closing chars (startTag setting.doctype setting.pending fuel frame.scope chars)
    let inner := Frame.ofTag tag
    return if tag.empty then closeFrame inner (frame :: outer) rest
      else .more inner (frame :: outer) rest
  | '&' :: rest => do
    let (found, rest) ← closing chars (reference rest)
    return .more (← contentReference setting chars frame found) outer rest
  | _ => do
    let text := plainText chars
    let rest := chars.drop text.length
    checkText rest text
    return .more (frame.addText text) outer rest

/-! ## Texts of entities -/

/-- Read an entity's text into a frame. At its end all that it opened is closed. -/
def entityContent (setting : Setting) :
    Nat → Frame → List Frame → List Char → Except Stop Frame
  | 0, frame, _, _ => .ok frame
  | _, frame, outer, [] =>
    if outer.isEmpty then .ok frame else .error (.cause .unbalancedEntity 0)
  | fuel + 1, frame, outer, chars => do
    match ← contentStep setting (fuel + 1) frame outer chars with
    | .more frame outer rest => entityContent setting fuel frame outer rest
    | .done _ rest => throw (.cause .unbalancedEntity rest.length)

/-- Read the text of an entity of a name into a frame. The entities in `pending` are being replaced,
and `depth` bounds their number. -/
def expandEntity (doctype : Doctype) : Nat → List String → Frame → String → Except Stop Frame
  | 0, _, _, _ => .error (.cause .recursiveEntity 0)
  | depth + 1, pending, frame, name =>
    match doctype.entities.lookup name with
    | none =>
      .error (.cause (if doctype.mustDeclare then .undefinedEntity else .unresolvedEntity name) 0)
    | some entity =>
      if name ∈ pending then .error (.cause .recursiveEntity 0)
      else
        match entity with
        | .unparsed => .error (.cause .binaryEntity 0)
        | .external => .error (.cause (.unresolvedEntity name) 0)
        | .internal text =>
          let pending := name :: pending
          entityContent ⟨doctype, pending, expandEntity doctype depth pending⟩ (text.length + 1)
            frame [] text

/-- What the content of a document is read with. -/
def Setting.ofDoctype (doctype : Doctype) : Setting :=
  ⟨doctype, [], expandEntity doctype (doctype.entities.length + 1) []⟩

/-- The content of the open frames up to the end of the root. -/
def content (setting : Setting) :
    Nat → Frame → List Frame → List Char → Except Stop (Element × List Char)
  | 0, _, _, chars => .error (.cause .noElement chars.length)
  | fuel + 1, frame, outer, chars => do
    match ← contentStep setting (fuel + 1) frame outer chars with
    | .more frame outer rest => content setting fuel frame outer rest
    | .done root rest => return (root, rest)

end PointTable.Xml
