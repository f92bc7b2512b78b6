import PointTable.Cell
import PointTable.Path

/-!
# File trees

The files that a run may see, by their place below the working directory; a place outside of it
starts with the root or with steps up. Besides plain files there are archives, given by their parts,
and spreadsheets whose cells are known already.
-/

namespace PointTable

/-- What a file holds. -/
inductive File where
  | plain (octets : List UInt8)
  /-- The parts of an archive by name. -/
  | archive (parts : List (String × String))
  /-- The cells of each worksheet, row by row. -/
  | spreadsheet (worksheets : List (String × List (List Cell)))

/-- What stands at a place of a tree. -/
inductive Node where
  | file (file : File)
  | directory

/-- Files and directories by place. -/
structure FileTree where
  files : List (List String × File)
  directories : List (List String)

namespace FileTree

/-- Why a place cannot be reached or written. -/
inductive Fault where
  | missing (path : String)
  | notADirectory (path : String)
  | isADirectory (path : String)
  | nameTooLong (path : String)
  /-- A path holds the character that ends paths. -/
  | nullCharacter
  deriving DecidableEq, Repr

def Fault.message : Fault → String
  | .missing path => "[Errno 2] No such file or directory: " ++ Text.quoted path
  | .notADirectory path => "[Errno 20] Not a directory: " ++ Text.quoted path
  | .isADirectory path => "[Errno 21] Is a directory: " ++ Text.quoted path
  | .nameTooLong path => "[Errno 36] File name too long: " ++ Text.quoted path
  | .nullCharacter => "embedded null byte"

/-- The most octets that one part of a path may have. -/
def partLimit : Nat := 255

/-- The most octets that a path may have. -/
def pathLimit : Nat := 4095

/-- A place is a directory: it is one, or something lies below it. -/
def isDirectory (tree : FileTree) (place : List String) : Bool :=
  place.isEmpty || (tree.files.any fun entry => place.isPrefixOf entry.1 && place ≠ entry.1)
    || tree.directories.any (place.isPrefixOf ·)

def file? (tree : FileTree) (place : List String) : Option File :=
  tree.files.lookup place

/-- The place one step up. Above the working directory the steps up are kept, and the root is its
own parent. -/
def parent (place : List String) : List String :=
  match place.getLast? with
  | none => [".."]
  | some ".." => place ++ [".."]
  | some part => if place.length = 1 && part.startsWith "/" then place else place.dropLast

/-- Walk the parts of a path from a directory: the place they lead to. Every part but the last
must be a directory, and no part that is reached may be too long. -/
def walk (tree : FileTree) (path : String) : List String → List String →
    Except Fault (List String)
  | place, [] => .ok place
  | place, part :: rest =>
    if (tree.file? place).isSome then .error (.notADirectory path)
    else if !tree.isDirectory place then .error (.missing path)
    else if part = ".." then walk tree path (parent place) rest
    else if partLimit < part.utf8ByteSize then .error (.nameTooLong path)
    else walk tree path (place ++ [part]) rest

/-- The place of a path. It need not exist, but what is above it does. -/
def place (tree : FileTree) (path : Path) : Except Fault (List String) :=
  if path.text.contains '\x00' then .error .nullCharacter
  else if pathLimit < path.text.utf8ByteSize then .error (.nameTooLong path.text)
  else walk tree path.text (if path.root.isEmpty then [] else [path.root]) path.parts

/-- What stands at a path. -/
def find (tree : FileTree) (path : Path) : Except Fault Node := do
  let place ← tree.place path
  match tree.file? place with
  | some file => return .file file
  | none => if tree.isDirectory place then return .directory else throw (.missing path.text)

/-- The places directly below a directory, each once. -/
def entriesOf (tree : FileTree) (directory : List String) : List String :=
  ((tree.files.map Prod.fst ++ tree.directories).filterMap fun place =>
    if directory.isPrefixOf place then (place.drop directory.length).head? else none).eraseDups

/-- The place at which a file can be written. -/
def writable (tree : FileTree) (path : Path) : Except Fault (List String) := do
  let place ← tree.place path
  if tree.isDirectory place && (tree.file? place).isNone then throw (.isADirectory path.text)
  return place

end FileTree

end PointTable
