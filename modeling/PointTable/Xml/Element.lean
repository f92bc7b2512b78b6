/-!
# Elements

An XML document as a tree of elements. An element keeps its name without namespace, its attributes
with theirs, and the text before its first child; what else stands between children is dropped.
-/

namespace PointTable.Xml

/-- An attribute. One without prefix has the empty namespace. -/
structure Attribute where
  space : String
  name : String
  value : String
  deriving DecidableEq, Repr

/-- An element with its descendants. -/
inductive Element where
  | node (name : String) (attributes : List Attribute) (text : String) (children : List Element)
  deriving Repr

namespace Element

def name : Element → String
  | .node name _ _ _ => name

def text : Element → String
  | .node _ _ text _ => text

def children : Element → List Element
  | .node _ _ _ children => children

/-- The value of an attribute in a namespace. -/
def attributeIn? (element : Element) (space name : String) : Option String :=
  match element with
  | .node _ attributes _ _ =>
    (attributes.find? fun entry => entry.space = space && entry.name = name).map
      Attribute.value

/-- The value of an attribute without namespace. -/
def attribute? (element : Element) (name : String) : Option String :=
  element.attributeIn? "" name

mutual

/-- The element and all below it, in document order. -/
def descendants : Element → List Element
  | .node name attributes text children =>
    .node name attributes text children :: descendantsOf children

/-- All elements of a list of trees, in document order. -/
def descendantsOf : List Element → List Element
  | [] => []
  | element :: rest => descendants element ++ descendantsOf rest

end

@[simp] theorem descendantsOf_eq_flatMap (elements : List Element) :
    descendantsOf elements = elements.flatMap descendants := by
  induction elements with
  | nil => rfl
  | cons element rest ih => rw [descendantsOf, ih, List.flatMap_cons]

/-- All elements of a name in a tree, its root included. -/
def named (name : String) (element : Element) : List Element :=
  element.descendants.filter fun descendant => descendant.name = name

/-- The texts of all elements of a name in a tree, joined. -/
def joinedText (name : String) (element : Element) : String :=
  String.join ((element.named name).map text)

end Element

end PointTable.Xml
