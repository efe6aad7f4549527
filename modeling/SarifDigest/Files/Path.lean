import SarifDigest.Ordered.Set
import SarifDigest.Text.Pieces

/-!
# Paths

A path as it is spelled, in the pieces between its separators. Its components leave out what
does not say where it leads: empty pieces, and dots that are not at its front. Paths are
ordered by their components, so two spellings may be equal in the order. A parent keeps the
spelling of what it shares with the path.
-/
namespace SarifDigest

/-- A path, as the pieces between its separators. The path that is the empty text has a single
empty piece; an absolute path has an empty piece before its first separator. -/
structure Path where
  first : String
  rest : List String
deriving DecidableEq

namespace Path

/-- The path that a text spells. -/
def ofText (text : String) : Path :=
  let (first, rest) := Text.pieces '/' text.toList
  ⟨.ofList first, rest.map .ofList⟩

/-- The spelling of a path. -/
def text (path : Path) : String :=
  "/".intercalate (path.first :: path.rest)

/-- The path that is a single piece. -/
def ofPiece (piece : String) : Path := ⟨piece, []⟩

/-- The folder that relative paths start from, as it is usually spelled. -/
def here : Path := ofPiece "."

/-- The folder that absolute paths start from. -/
def top : Path := ⟨"", [""]⟩

/-- Whether a path is the empty text. -/
def isEmpty (path : Path) : Bool :=
  path.first = "" && path.rest.isEmpty

/-- Whether a path starts with a separator. -/
def isAbsolute (path : Path) : Bool :=
  path.first = "" && !path.rest.isEmpty

/-- The pieces without an empty one at the end. -/
def dropEndEmpty (pieces : List String) : List String :=
  if pieces.getLast? = some "" then pieces.dropLast else pieces

/-- A path behind another. An absolute path stands for itself; otherwise one separator stands
between the two. -/
def join (path further : Path) : Path :=
  if further.isAbsolute || path.isEmpty then further
  else ⟨path.first, dropEndEmpty path.rest ++ further.first :: further.rest⟩

/-- A piece behind a path. -/
def child (path : Path) (piece : String) : Path :=
  path.join (ofPiece piece)

end Path

/-- One step of a path. -/
inductive Component
  | top
  | here
  | up
  | name (label : String)
deriving DecidableEq

namespace Component

/-- The kinds of components in their order. -/
def rank : Component → Nat
  | top => 0
  | here => 1
  | up => 2
  | name _ => 3

/-- The name of a component that has one. -/
def label : Component → String
  | name label => label
  | _ => ""

/-- By kind, and names among each other. -/
instance : Ord Component where
  compare := compareLex (compareOn rank) (compareOn label)

instance : Std.TransOrd Component :=
  inferInstanceAs (Std.TransCmp (compareLex (compareOn rank) (compareOn label)))

/-- The component of a piece that is not the first of its path. -/
def ofLater? (piece : String) : Option Component :=
  if piece = "" ∨ piece = "." then none
  else if piece = ".." then some up
  else some (name piece)

/-- The component of the first piece of a relative path. -/
def ofFirst? (piece : String) : Option Component :=
  if piece = "." then some here else ofLater? piece

end Component

namespace Path

/-- The components of a path. -/
def components (path : Path) : List Component :=
  let first := if path.isAbsolute then some .top else Component.ofFirst? path.first
  first.toList ++ path.rest.filterMap Component.ofLater?

/-- By components, from first to last. -/
instance : Ord Path where
  compare := compareOn components

instance : Std.TransOrd Path :=
  inferInstanceAs (Std.TransCmp (compareOn components))

/-- Whether a piece that is not the first of its path stands for no component. -/
def isIdle (piece : String) : Bool :=
  piece = "" || piece = "."

/-- The pieces without those at the end that stand for no component. -/
def dropEndIdle (pieces : List String) : List String :=
  (pieces.reverse.dropWhile isIdle).reverse

/-- The path without its last component. Neither the empty path nor the top has a parent. -/
def parent? (path : Path) : Option Path :=
  match (dropEndIdle path.rest).reverse with
  | _ :: before =>
    let before := dropEndIdle before.reverse
    if before.isEmpty && path.first = "" then some top else some ⟨path.first, before⟩
  | [] => if path.first = "" then none else some (ofPiece "")

/-- The number of components of a path, not counting the top. -/
def weight (path : Path) : Nat :=
  path.rest.countP (!isIdle ·) + if path.first = "" then 0 else 1

/-- Only pieces that stand for no component are left out at the end. -/
theorem countP_dropEndIdle (pieces : List String) :
    (dropEndIdle pieces).countP (!isIdle ·) = pieces.countP (!isIdle ·) := by
  have key (list : List String) :
      (list.dropWhile isIdle).countP (!isIdle ·) = list.countP (!isIdle ·) := by
    induction list with
    | nil => rfl
    | cons piece rest ih => by_cases idle : isIdle piece <;> simp [idle, ih]
  rw [dropEndIdle, List.countP_reverse, key, List.countP_reverse]

/-- A parent has fewer components, so the way up ends. -/
theorem weight_parent {path parent : Path} (found : path.parent? = some parent) :
    parent.weight < path.weight := by
  have count := countP_dropEndIdle path.rest
  unfold parent? at found
  split at found
  · rename_i last before start
    have idle : isIdle last = false := by
      have head := List.head?_dropWhile_not isIdle path.rest.reverse
      rw [dropEndIdle, List.reverse_reverse] at start
      simpa [start] using head
    have split : (dropEndIdle path.rest).countP (!isIdle ·) =
        1 + (dropEndIdle before.reverse).countP (!isIdle ·) := by
      rw [countP_dropEndIdle before.reverse, List.countP_reverse,
        ← List.countP_reverse (l := dropEndIdle path.rest), start]
      simp [idle, Nat.add_comm]
    dsimp only at found
    split at found
    · rename_i empty
      simp only [Option.some.injEq] at found
      subst found
      have topWeight : top.weight = 0 := by decide
      rw [topWeight, weight]
      omega
    · simp only [Option.some.injEq] at found
      subst found
      simp only [weight]
      omega
  · split at found
    · simp at found
    · rename_i named
      simp only [Option.some.injEq] at found
      subst found
      simp [weight, ofPiece, named]

/-- A path, its parent, the parent of that, and so on. -/
def ancestors (path : Path) : List Path :=
  match found : path.parent? with
  | some parent =>
    have := weight_parent found
    path :: ancestors parent
  | none => [path]
termination_by path.weight

end Path

end SarifDigest
