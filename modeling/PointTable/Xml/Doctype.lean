import PointTable.Xml.Markup

/-!
# Document types

What the type of a document declares: the texts of entities, and the types and defaults of
attributes. What is declared first counts.
-/

namespace PointTable.Xml

/-- What an entity stands for. -/
inductive Entity where
  | internal (text : List Char)
  | external
  /-- The entity is not text. -/
  | unparsed
  deriving DecidableEq, Repr

/-- What is declared of an attribute of an element. -/
structure AttributeRule where
  element : QName
  name : QName
  /-- The attribute has the type of character data. -/
  isText : Bool
  default : Option (List Char)
  deriving DecidableEq, Repr

/-- What the type of a document declares. -/
structure Doctype where
  entities : List (String × Entity)
  rules : List AttributeRule
  /-- There may be declarations outside of the document. -/
  incomplete : Bool
  /-- Further declarations count. -/
  heeded : Bool
  standsAlone : Bool
  deriving DecidableEq, Repr

namespace Doctype

/-- The type of a document before anything is declared. -/
def initial (standsAlone : Bool) : Doctype :=
  ⟨[], [], false, true, standsAlone⟩

/-- An entity that is not declared is a fault. -/
def mustDeclare (doctype : Doctype) : Bool :=
  !doctype.incomplete || doctype.standsAlone

/-- Declare an entity. The first declaration of a name counts, and the predefined ones stay. -/
def addEntity (doctype : Doctype) (name : String) (entity : Entity) : Doctype :=
  if !doctype.heeded || (predefined.lookup name).isSome
      || (doctype.entities.lookup name).isSome then
    doctype
  else { doctype with entities := doctype.entities ++ [(name, entity)] }

/-- The rules for an attribute of an element. -/
def rulesFor (doctype : Doctype) (element name : QName) : List AttributeRule :=
  doctype.rules.filter fun rule => rule.element = element && rule.name = name

/-- Declare an attribute. A default counts only for an attribute that is not declared yet, and so
does an identifier. -/
def addRule (doctype : Doctype) (isIdentifier : Bool) (rule : AttributeRule) : Doctype :=
  if !doctype.heeded
      || ((rule.default.isSome || isIdentifier)
        && !(doctype.rulesFor rule.element rule.name).isEmpty) then
    doctype
  else { doctype with rules := doctype.rules ++ [rule] }

/-- An attribute of an element has the type of character data. -/
def isText (doctype : Doctype) (element name : QName) : Bool :=
  ((doctype.rulesFor element name).head?.map AttributeRule.isText).getD true

end Doctype

end PointTable.Xml
