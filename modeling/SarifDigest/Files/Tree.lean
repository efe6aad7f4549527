import SarifDigest.Files.Path

/-!
# File trees

The files and folders that a program finds, and the folder that it works in. A path is followed
piece by piece: every piece needs a folder to start from, empty pieces and single dots stay in
it, two dots lead to the folder around it. A path that cannot be followed gives the first
reason for it. There are no links, so a folder has one location.
-/
namespace SarifDigest

/-- A file with its bytes, or a folder with its entries. -/
inductive Node
  | file (bytes : ByteArray)
  | folder (entries : List (String × Node))

namespace Node

/-- The entries of a folder, none for a file. -/
def entries : Node → List (String × Node)
  | folder entries => entries
  | file _ => []

/-- Whether a node is a folder. -/
def isFolder : Node → Bool
  | folder _ => true
  | file _ => false

/-- Whether a node is a file. -/
def isFile (node : Node) : Bool := !node.isFolder

/-- The node at the end of some names. -/
def at? (node : Node) : List String → Option Node
  | [] => some node
  | name :: names => (node.entries.lookup name).bind (·.at? names)

/-- Put an entry into a list that is sorted by name, in place of the one of its name. -/
def insertEntry (name : String) (node : Node) : List (String × Node) → List (String × Node)
  | [] => [(name, node)]
  | (other, old) :: others =>
    match compare name other with
    | .lt => (name, node) :: (other, old) :: others
    | .eq => (name, node) :: others
    | .gt => (other, old) :: insertEntry name node others

/-- Put a node at the end of some names, in folders that are made where there are none. -/
def put (node : Node) (new : Node) : List String → Node
  | [] => new
  | name :: names =>
    let inner := (node.entries.lookup name).getD (folder [])
    folder (insertEntry name (inner.put new names) node.entries)

end Node

/-- Why a path cannot be followed or a file not be read. -/
inductive FileError
  | notFound
  | notAFolder
  | isAFolder
  | nameTooLong
  | holdsNul
  | notText
deriving DecidableEq

/-- The wording of each reason; those of the system have its number. -/
def FileError.message : FileError → String
  | notFound => "No such file or directory (os error 2)"
  | notAFolder => "Not a directory (os error 20)"
  | isAFolder => "Is a directory (os error 21)"
  | nameTooLong => "File name too long (os error 36)"
  | holdsNul => "file name contained an unexpected NUL byte"
  | notText => "stream did not contain valid UTF-8"

/-- The bytes that a name may have. -/
def nameLimit : Nat := 255

/-- The bytes that the spelling of a path may have. -/
def pathLimit : Nat := 4095

/-- All files, by their names from the top, and the names that lead to the working folder. -/
structure FileTree where
  top : Node
  here : List String

namespace FileTree

/-- Follow one piece from a location. -/
def follow (tree : FileTree) (location : List String) (piece : String) :
    Except FileError (List String) :=
  match tree.top.at? location with
  | none => .error .notFound
  | some (.file _) => .error .notAFolder
  | some (.folder entries) =>
    if piece = "" ∨ piece = "." then .ok location
    else if piece = ".." then .ok location.dropLast
    else if nameLimit < piece.utf8ByteSize then .error .nameTooLong
    else if (entries.lookup piece).isSome then .ok (location ++ [piece])
    else .error .notFound

/-- The names from the top that a path leads to. -/
def locate (tree : FileTree) (path : Path) : Except FileError (List String) :=
  if path.text.toList.contains '\x00' then .error .holdsNul
  else if pathLimit < path.text.utf8ByteSize then .error .nameTooLong
  else if path.isEmpty then .error .notFound
  else if path.isAbsolute then path.rest.foldlM tree.follow []
  else (path.first :: path.rest).foldlM tree.follow tree.here

/-- The node that a path leads to. -/
def node? (tree : FileTree) (path : Path) : Option Node :=
  (tree.locate path).toOption.bind fun location => tree.top.at? location

/-- Whether a path leads anywhere. -/
def holds (tree : FileTree) (path : Path) : Bool :=
  (tree.node? path).isSome

/-- Whether a path leads to a folder. -/
def isFolder (tree : FileTree) (path : Path) : Bool :=
  (tree.node? path).any Node.isFolder

/-- Whether a path leads to a file. -/
def isFile (tree : FileTree) (path : Path) : Bool :=
  (tree.node? path).any Node.isFile

/-- The text of the file that a path leads to. -/
def read (tree : FileTree) (path : Path) : Except FileError String :=
  match tree.locate path with
  | .error reason => .error reason
  | .ok location =>
    match tree.top.at? location with
    | none => .error .notFound
    | some (.folder _) => .error .isAFolder
    | some (.file bytes) =>
      match String.fromUTF8? bytes with
      | some text => .ok text
      | none => .error .notText

end FileTree

end SarifDigest
