import SarifDigest.Files.Tree
import SarifDigest.Glob.Pattern

/-!
# Expanding patterns

The paths that a pattern leads to in a file tree, each spelled as the pattern goes. A part of a
pattern without wildcards is followed as a path is; one with wildcards is compared with the
entries of a folder, and with the two names for a folder itself and the folder around it if it
starts with a dot. Two stars lead to everything below a folder, but not to the folder itself.
-/
namespace SarifDigest.Glob

/-- What a pattern says between two separators. -/
inductive Part
  | name (name : String)
  | wild (tokens : List Token)
  | folders
deriving DecidableEq

namespace Part

/-- The characters of tokens that each stand for a fixed one. -/
def fixedName? : List Token → Option (List Char)
  | [] => some []
  | .char c :: tokens => (fixedName? tokens).map (c :: ·)
  | _ :: _ => none

/-- The part that tokens make up. -/
def ofTokens (tokens : List Token) : Part :=
  if tokens = [.anyFolders] then folders
  else
    match fixedName? tokens with
    | some fixed => name (.ofList fixed)
    | none => wild tokens

/-- Whether an entry of this name is one that a part stands for. -/
def admits (part : Part) (entry : String) : Bool :=
  match part with
  | name wanted => entry == wanted
  | wild tokens => matchesName tokens entry.toList
  | folders => true

/-- The parts without repeated stars for folders. -/
def collapse : List Part → List Part
  | folders :: folders :: parts => collapse (folders :: parts)
  | part :: parts => part :: collapse parts
  | [] => []

end Part

/-- A pattern that has been read: where it starts, its parts, and whether a separator at its
end asks for folders. -/
structure Pattern where
  absolute : Bool
  parts : List Part
  foldersOnly : Bool
deriving DecidableEq

/-- The pieces that a path has behind the separator that makes it absolute, but for an empty
one at its end. -/
def patternPieces (path : Path) : List String :=
  let pieces := if path.isAbsolute then path.rest else path.first :: path.rest
  match Path.dropEndEmpty pieces with
  | [] => [""]
  | pieces => pieces

/-- Read a path as a pattern. It is checked as a whole first, and then piece by piece, so a set
may not hold a separator although it may seem to. -/
def Pattern.ofPath (path : Path) : Except PatternFault Pattern := do
  let _ ← tokensOf path.text.toList
  let parts ← (patternPieces path).mapM fun piece => (tokensOf piece.toList).map Part.ofTokens
  return {
    absolute := path.isAbsolute
    parts := Part.collapse parts
    foldersOnly := path.rest.getLast? = some "" }

/-- The path of an entry of a folder. The dot for the working folder is left out. -/
def entryPath (folder : Path) (entry : String) : Path :=
  if folder.components = [.here] then .ofPiece entry else folder.child entry

mutual

/-- Everything below a node at a path, a folder before what is in it: the path, the name and
the node of each entry. -/
def below (path : Path) : Node → List (Path × String × Node)
  | .file _ => []
  | .folder entries => belowEntries path entries

/-- Entries of the folder at a path, and everything below each. -/
def belowEntries (path : Path) : List (String × Node) → List (Path × String × Node)
  | [] => []
  | (name, node) :: others =>
    (entryPath path name, name, node) :: below (entryPath path name) node ++
      belowEntries path others

end

/-- The node at a path with everything below it left out if there is no node. -/
def belowPath (tree : FileTree) (path : Path) : List (Path × String × Node) :=
  match tree.node? path with
  | some node => below path node
  | none => []

/-- Whether a name leads on from a path, where it is followed without looking at entries. -/
def leadsOn (tree : FileTree) (path : Path) (name : String) : Bool :=
  if name = "." ∨ name = ".." then tree.isFolder path
  else tree.holds (entryPath path name)

/-- The names for a folder itself and the folder around it that tokens match; only tokens that
start with a dot can. -/
def dotEntries (tokens : List Token) : List String :=
  if tokens.head? = some (.char '.') then
    ["..", "."].filter fun entry => matchesName tokens entry.toList
  else []

/-- The paths that parts lead to from a path. -/
def expandParts (tree : FileTree) : List Part → Path → List Path
  | [], path => [path]
  | .name name :: parts, path =>
    if leadsOn tree path name then expandParts tree parts (entryPath path name) else []
  | .wild tokens :: parts, path =>
    match tree.node? path with
    | some (.folder entries) =>
      (dotEntries tokens).flatMap (fun entry => expandParts tree parts (path.child entry)) ++
        entries.flatMap fun (entry, _) =>
          if matchesName tokens entry.toList then expandParts tree parts (entryPath path entry)
          else []
    | _ => []
  | [.folders], path =>
    (belowPath tree path).filterMap fun (path, _, node) =>
      if node.isFolder then some path else none
  | .folders :: part :: parts, path =>
    (belowPath tree path).flatMap fun (path, entry, _) =>
      if part.admits entry then expandParts tree parts path else []

/-- The paths that a pattern leads to. -/
def Pattern.expand (pattern : Pattern) (tree : FileTree) : List Path :=
  let start := if pattern.absolute then Path.top else Path.here
  (expandParts tree pattern.parts start).filter fun path =>
    !pattern.foldersOnly || tree.isFolder path

end SarifDigest.Glob
