import SarifDigest.Program.Run

/-!
# The program

The command line around `runProgram`. It loads the part of the file system that the run looks
at: what marks the folders above the start, and everything below the places where patterns
start. Links are left out, and so is what cannot be read.
-/
namespace SarifDigest

/-- The names that a path leads to from some others, on the condition that there are folders all
the way. -/
def namesFrom (here : List String) (path : Path) : List String :=
  let follow (names : List String) (piece : String) : List String :=
    if Path.isIdle piece then names else if piece = ".." then names.dropLast else names ++ [piece]
  if path.isAbsolute then path.rest.foldl follow []
  else (path.first :: path.rest).foldl follow here

/-- The path that a pattern keeps to up to its first wildcard. -/
def patternStart (root : Path) (pattern : String) : Path :=
  let path := root.join (.ofText pattern)
  let isPlain (piece : String) : Bool := !piece.toList.any fun c => c = '*' || c = '?' || c = '['
  if isPlain path.first then ⟨path.first, path.rest.takeWhile isPlain⟩ else .here

/-- What is at a place, a folder with everything in it. -/
partial def readNode (place : String) : IO (Option Node) := do
  let path := (← IO.currentDir) / place
  try
    match (← path.symlinkMetadata).type with
    | .dir =>
      let mut entries := []
      for entry in ← path.readDir do
        if let some node ← readNode entry.path.toString then
          entries := Node.insertEntry entry.fileName node entries
      return some (.folder entries)
    | .file => return some (.file (← IO.FS.readBinFile path))
    | _ => return none
  catch _ => return none

/-- What is at a place, a folder without what is in it. -/
def readShallow (place : String) : IO (Option Node) := do
  let path := (← IO.currentDir) / place
  if ← path.isDir then return some (.folder [])
  else if ← path.pathExists then readNode place
  else return none

/-- Add a node to a tree at a path. -/
def addNode (tree : FileTree) (path : Path) (node : Option Node) : FileTree :=
  match node with
  | some node => { tree with top := tree.top.put node (namesFrom tree.here path) }
  | none => tree

/-- Load the folders that a path leads through. -/
def loadWay (tree : FileTree) (path : Path) : IO FileTree := do
  let mut loaded := tree
  for folder in path.ancestors.reverse do
    if (loaded.top.at? (namesFrom loaded.here folder)).isNone then
      loaded := addNode loaded folder (← readShallow folder.text)
  return loaded

/-- Load what marks a folder. -/
def loadMarks (tree : FileTree) (folder : Path) : IO FileTree := do
  let mut loaded := tree
  for name in repositoryEntry :: configFiles.map Prod.fst do
    let path := folder.child name
    loaded := addNode loaded path (← readShallow path.text)
  return loaded

/-- Load what a run with some settings looks at. -/
def loadTree (overrides : Overrides) : IO FileTree := do
  let working := (← IO.currentDir).toString
  let here := namesFrom [] (.ofText working)
  let mut tree : FileTree := ⟨(Node.folder []).put (.folder []) here, here⟩
  let root := Path.ofText (overrides.root.getD ".")
  tree ← loadWay tree root
  for folder in root.ancestors do
    tree ← loadMarks tree folder
  if let .ok settings := overrides.resolve tree then
    for pattern in settings.inputs do
      let start := patternStart settings.root pattern
      tree ← loadWay tree start
      tree := addNode tree start (← readNode start.text)
  return tree

/-- The overrides of a command line, none if it is for something else. -/
def overridesOf (words : List String) : Overrides :=
  match Invocation.ofWords words with
  | .ok ⟨.digest overrides, _⟩ => overrides
  | _ => {}

/-- The text of a remark. -/
def remarkText : Remark → String
  | .text text => text
  | .record record => record.text ++ "\n"

end SarifDigest

open SarifDigest in
/-- Run the program on the arguments that it is given. -/
def main (words : List String) : IO UInt32 := do
  let tree ← loadTree (overridesOf words)
  let environment : Environment := {
    colours := (← IO.getEnv "NO_COLOR").isNone
    filter := ← IO.getEnv "RUST_LOG" }
  let outcome := runProgram tree environment words
  let errors ← IO.getStderr
  for remark in outcome.remarks do
    errors.putStr (remarkText remark)
  let output ← IO.getStdout
  output.putStr outcome.output
  output.flush
  return outcome.status.code.toUInt32
