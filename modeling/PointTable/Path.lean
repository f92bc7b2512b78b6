/-!
# Paths

A path is a list of parts below a root, or below the working directory if it has none. Parts that
say nothing are dropped, so two spellings of one path print alike; a step up is kept, since it means
something else where a part is a link.
-/

namespace PointTable

/-- A path. -/
structure Path where
  root : String
  parts : List String
  deriving DecidableEq, Repr

namespace Path

def splitSlashes : List Char → List (List Char)
  | [] => [[]]
  | c :: rest =>
    if c = '/' then [] :: splitSlashes rest
    else
      match splitSlashes rest with
      | [] => [[c]]
      | part :: parts => (c :: part) :: parts

/-- The root of a spelling: two slashes are a root of their own. -/
def rootOf (chars : List Char) : String :=
  match (chars.takeWhile (· = '/')).length with
  | 0 => ""
  | 2 => "//"
  | _ => "/"

def ofText (text : String) : Path :=
  ⟨rootOf text.toList,
    ((splitSlashes text.toList).filter fun part => part ≠ [] && part ≠ ['.']).map String.ofList⟩

def text (path : Path) : String :=
  if path.root.isEmpty && path.parts.isEmpty then "."
  else path.root ++ "/".intercalate path.parts

def name (path : Path) : String :=
  path.parts.getLast?.getD ""

/-- Cut a name before its last point. A point at either end does not count. -/
def splitName (name : String) : String × String :=
  let chars := name.toList
  let ending := chars.reverse.takeWhile (· ≠ '.')
  let stem := chars.take (chars.length - ending.length - 1)
  if ending.isEmpty || stem.isEmpty then (name, "")
  else (String.ofList stem, String.ofList ('.' :: ending.reverse))

def stem (name : String) : String :=
  (splitName name).1

/-- The ending of a path with its point. -/
def ending (path : Path) : String :=
  (splitName path.name).2

end Path

end PointTable
