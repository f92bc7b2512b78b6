import PointTable.Xml.Element
import PointTable.Xml.Value

/-!
# Start tags

A start tag names an element and its attributes. The attributes come first as they are written, then
with their values and what the document type adds, and last with the namespaces of their prefixes.
-/

namespace PointTable.Xml

/-! ## What is written -/

/-- An attribute as written. The text goes on with `start` where its name starts, and with `behind`
at its closing quote. -/
structure RawAttribute where
  name : QName
  value : List Char
  start : List Char
  behind : List Char
  deriving Repr

/-- The characters of an attribute value up to its closing quote, references among them. -/
def rawValue (mark : Char) : Nat → List Char → Except Stop (List Char × List Char)
  | 0, _ => .error .ended
  | fuel + 1, chars =>
    match chars with
    | [] => .error .ended
    | c :: rest =>
      if c = mark then .ok ([], rest)
      else if c = '<' || !isDocumentChar c then unexpected chars
      else if c = '&' then do
        let (_, behind) ← reference rest
        let (value, rest) ← rawValue mark fuel behind
        return (chars.takeWhile (· ≠ ';') ++ ';' :: value, rest)
      else do
        let (value, rest) ← rawValue mark fuel rest
        return (c :: value, rest)

/-- An attribute at the front of a tag's inside. -/
def rawAttribute (fuel : Nat) (chars : List Char) : Except Stop (RawAttribute × List Char) := do
  let (name, rest) ← qualifiedName chars
  match skipSpace rest with
  | '=' :: rest =>
    match skipSpace rest with
    | mark :: rest =>
      if mark = '\x22' || mark = '\x27' then
        let (value, rest) ← rawValue mark fuel rest
        return (⟨name, value, chars, mark :: rest⟩, rest)
      else unexpected (mark :: rest)
    | [] => .error .ended
  | rest => unexpected rest

/-- The attributes of a start tag, whether it is empty, and the rest behind the tag. `spaced` says
that a blank stands before. -/
def tagInside : Nat → Bool → List Char → Except Stop (List RawAttribute × Bool × List Char)
  | 0, _, _ => .error .ended
  | fuel + 1, spaced, chars =>
    match chars with
    | [] => .error .ended
    | '>' :: rest => .ok ([], false, rest)
    | '/' :: '>' :: rest => .ok ([], true, rest)
    | '/' :: rest => unexpected rest
    | c :: rest =>
      if isSpace c then tagInside fuel true rest
      else if spaced && isNameStart c then do
        let (first, rest) ← rawAttribute fuel (c :: rest)
        let (attributes, empty, rest) ← tagInside fuel false rest
        return (first :: attributes, empty, rest)
      else unexpected (c :: rest)

/-! ## Namespaces -/

/-- The namespaces of prefixes, the innermost first. The default namespace has no prefix. -/
abbrev Scope := List (Option String × String)

/-- The namespace that the prefix `xml` always has. -/
def xmlSpace : String := "http://www.w3.org/XML/1998/namespace"

/-- The namespace of declarations, which nothing may be bound to. -/
def xmlnsSpace : String := "http://www.w3.org/2000/xmlns/"

/-- The scope of a document. -/
def Scope.outermost : Scope := [(some "xml", xmlSpace), (none, "")]

/-- The prefix that an attribute declares, if it is a declaration. -/
def QName.declares? (name : QName) : Option (Option String) :=
  if name.qualifier = some "xmlns" then some (some name.name)
  else if name.qualifier = none && name.name = "xmlns" then some none
  else none

/-- Why a namespace may not be declared for a prefix. A closing brace ends a namespace where it is
written with a name, so none may hold one. -/
def declarationFault? (qualifier : Option String) (space : String) : Option Cause :=
  if qualifier.isSome && space.isEmpty then some .undeclaredPrefix
  else if qualifier = some "xmlns" then some .reservedXmlns
  else if '}' ∈ space.toList then some .syntaxError
  else if qualifier = some "xml" then if space = xmlSpace then none else some .reservedXml
  else if space = xmlSpace || space = xmlnsSpace then some .reservedNamespace
  else none

/-- The attributes with their values and the scope they make, attribute by attribute. The attributes
are in reverse. -/
structure Bindings where
  attributes : List (QName × String)
  scope : Scope

/-- Add an attribute of a tag: a declaration of a namespace to the scope, any other to the
attributes. -/
def Bindings.add (bindings : Bindings) (tag : List Char) (name : QName) (value : String) :
    Except Stop Bindings :=
  match name.declares? with
  | some declared =>
    match declarationFault? declared value with
    | some cause => .error (.cause cause tag.length)
    | none => .ok { bindings with scope := (declared, value) :: bindings.scope }
  | none => .ok { bindings with attributes := (name, value) :: bindings.attributes }

/-- Add the attributes that a tag holds. Each name comes once. -/
def addWritten (doctype : Doctype) (pending : List String) (tag : List Char) (element : QName)
    (seen : List QName) (bindings : Bindings) : List RawAttribute → Except Stop Bindings
  | [] => .ok bindings
  | raw :: rest => do
    if raw.name ∈ seen then
      throw (.cause .duplicateAttribute raw.start.length)
    let isText := doctype.isText element raw.name
    let value ← (attributeValue doctype pending isText raw.value).mapError
      (valueStop raw.behind tag)
    let bindings ← bindings.add tag raw.name (String.ofList value)
    addWritten doctype pending tag element (raw.name :: seen) bindings rest

/-- Add the attributes that have a default and are not written. -/
def addDefaults (tag : List Char) (seen : List QName) (bindings : Bindings) :
    List AttributeRule → Except Stop Bindings
  | [] => .ok bindings
  | rule :: rest =>
    match rule.default with
    | none => addDefaults tag seen bindings rest
    | some value =>
      if rule.name ∈ seen then addDefaults tag seen bindings rest
      else do
        let bindings ← bindings.add tag rule.name (String.ofList value)
        addDefaults tag seen bindings rest

/-- The namespace of an attribute. -/
def attributeSpace (tag : List Char) (scope : Scope) (name : QName) : Except Stop String :=
  match name.qualifier with
  | none => .ok ""
  | some qualifier =>
    match scope.lookup (some qualifier) with
    | some space => .ok space
    | none => .error (.cause .unboundPrefix tag.length)

/-- The attributes with their namespaces, no two of one name. -/
def resolveAttributes (tag : List Char) (scope : Scope) (resolved : List Attribute) :
    List (QName × String) → Except Stop (List Attribute)
  | [] => .ok resolved.reverse
  | (name, value) :: rest => do
    let space ← attributeSpace tag scope name
    if resolved.any fun other => other.space = space && other.name = name.name then
      throw (.cause .duplicateAttribute tag.length)
    resolveAttributes tag scope (⟨space, name.name, value⟩ :: resolved) rest

/-! ## The tag -/

/-- A start tag that is read. -/
structure Tag where
  name : QName
  attributes : List Attribute
  scope : Scope
  /-- The element has no content and no end tag. -/
  empty : Bool

/-- A start tag, which `tag` starts with. The entities in `pending` are being replaced, and `fuel`
is more than the number of characters. -/
def startTag (doctype : Doctype) (pending : List String) (fuel : Nat) (scope : Scope)
    (tag : List Char) : Except Stop (Tag × List Char) := do
  let (name, rest) ← qualifiedName (tag.drop 1)
  let (raw, empty, rest) ← tagInside fuel false rest
  let written ← addWritten doctype pending tag name [] ⟨[], scope⟩ raw
  let bindings ← addDefaults tag (raw.map RawAttribute.name) written
    (doctype.rules.filter fun rule => rule.element = name)
  let attributes ← resolveAttributes tag bindings.scope [] bindings.attributes.reverse
  let _ ← attributeSpace tag bindings.scope name
  return (⟨name, attributes, bindings.scope, empty⟩, rest)

end PointTable.Xml
