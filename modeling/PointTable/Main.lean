import PointTable.CommandLine.Run

/-!
# The command line

Collects what a run needs to see, runs it, and prints and writes what it comes to.
-/

namespace PointTable.CommandLine

/-- The spellings of paths among arguments: an argument, or a value attached to an option. -/
def candidatePaths (typed : List String) : List String :=
  typed.flatMap fun argument =>
    argument :: (Arguments.splitValue argument.toList).2.toList

/-- The place that a path leads to when all it passes are directories. -/
def expectedPlace (path : Path) : List String :=
  path.parts.foldl (fun place part =>
    if part = ".." then FileTree.parent place else place ++ [part])
    (if path.root.isEmpty then [] else [path.root])

def placeText (place : List String) : String :=
  match place with
  | [] => "."
  | part :: rest =>
    if part.startsWith "/" then part ++ "/".intercalate rest else "/".intercalate place

def addFile (tree : FileTree) (place : List String) : IO FileTree := do
  let octets ← IO.FS.readBinFile (placeText place)
  return { tree with files := Ordered.put place (.plain octets.toList) tree.files }

def addDirectory (tree : FileTree) (place : List String) : IO FileTree := do
  let mut tree := { tree with directories := tree.directories ++ [place] }
  let directory := (← IO.currentDir) / placeText place
  for entry in ← directory.readDir do
    let inner := place ++ [entry.fileName]
    if ← entry.path.isDir then
      tree := { tree with directories := tree.directories ++ [inner] }
    else if entry.fileName.endsWith ".csv" then
      tree ← addFile tree inner
  return tree

def addPlace (tree : FileTree) (place : List String) : IO FileTree := do
  let path := (← IO.currentDir) / placeText place
  if ← path.isDir then addDirectory tree place
  else if ← path.pathExists then addFile tree place
  else return tree

/-- The files that arguments name, with the directories around them. -/
def visibleFiles (typed : List String) : IO FileTree := do
  let mut tree : FileTree := ⟨[], []⟩
  for spelling in candidatePaths typed do
    let place := expectedPlace (Path.ofText spelling)
    let around := FileTree.parent place
    if ← ((← IO.currentDir) / placeText around).isDir then
      tree := { tree with directories := tree.directories ++ [around] }
    tree ← addPlace tree place
  return tree

/-- The variables that a run looks at. -/
def visibleVariables : IO Environment := do
  let mut environment : Environment := []
  for (_, name) in Command.environmentNames do
    if let some value ← IO.getEnv name then
      environment := environment ++ [(name, value)]
  return environment

/-- How the program is called. -/
def usageText : String :=
  "Usage: pyplcpoint [OPTIONS] COMMAND [ARGS]...\n\nCommands: "
    ++ ", ".intercalate (Command.all.map (·.name))

/-- Print and write what a run comes to, and give its exit code. -/
def finish : Ending → IO UInt32
  | .usage => do
    IO.eprintln usageText
    return 2
  | .help => do
    IO.println usageText
    return 0
  | .outcome outcome => do
    IO.print outcome.stdout
    IO.eprint outcome.stderr
    if let some (place, text) := outcome.written then
      IO.FS.writeFile (placeText place) text
    if let some fault := outcome.escaped then
      IO.eprintln fault.message
    return outcome.exitCode.toUInt32

end PointTable.CommandLine

def main (typed : List String) : IO UInt32 := do
  let tree ← PointTable.CommandLine.visibleFiles typed
  let environment ← PointTable.CommandLine.visibleVariables
  PointTable.CommandLine.finish (PointTable.CommandLine.run tree environment typed)
