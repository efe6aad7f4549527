import Mathlib.Data.List.TakeWhile
import SarifDigest.Proofs.Files.Following
import SarifDigest.Settings.Discovery

/-!
# The root that is found

The search for a root takes away one component of the spelling of a path after the other, while
what is looked for is the nearest marked folder in the file tree. The two agree as long as no
component leads up, and as far as the spelling reaches: an absolute path reaches the top, and a
relative one the working folder. What is marked above the working folder is not found from a
relative path, and two dots turn the search downwards.
-/
namespace SarifDigest

/-- The names of what marks a folder. -/
def markNames : List String := configFiles.map Prod.fst ++ [repositoryEntry]

/-- The bytes of the longest of these names. -/
def markBytes : Nat := 21

namespace FileTree

/-- A folder is marked when it has an entry with one of the names. -/
def HasMark (tree : FileTree) (location : List String) : Prop :=
  ∃ name ∈ markNames, (tree.top.at? (location ++ [name])).isSome = true

/-- The nearest marked folder of a location: at it or above it, and no further than any other
marked folder there. -/
structure NearestMark (tree : FileTree) (location nearest : List String) : Prop where
  /-- It is the location or a folder around it. -/
  above : nearest <+: location
  /-- It is marked. -/
  marked : tree.HasMark nearest
  /-- No other marked folder is nearer. -/
  first : ∀ other, other <+: location → tree.HasMark other → other <+: nearest

end FileTree

namespace Path

/-- A path leads up when two dots are among its pieces. -/
def LeadsUp (path : Path) : Prop := ".." ∈ path.pieces

/-- The pieces of a list up to its last one that is not idle, and the idle ones behind. -/
theorem dropEndIdle_append (pieces : List String) :
    ∃ idle, pieces = dropEndIdle pieces ++ idle ∧ ∀ piece ∈ idle, isIdle piece = true := by
  refine ⟨(pieces.reverse.takeWhile isIdle).reverse, ?_, ?_⟩
  · rw [dropEndIdle, ← List.reverse_append, List.takeWhile_append_dropWhile,
      List.reverse_reverse]
  · intro piece inside
    exact List.mem_takeWhile_imp (List.mem_reverse.1 inside)

/-- What is left of a list without idle pieces at the end ends with a piece that is not. -/
theorem isIdle_of_dropEndIdle {pieces before : List String} {last : String}
    (left : (dropEndIdle pieces).reverse = last :: before) : isIdle last = false := by
  have head := List.head?_dropWhile_not isIdle pieces.reverse
  rw [dropEndIdle, List.reverse_reverse] at left
  simpa [left] using head

/-- How a parent comes about: it is spelled like the path up to its last component, or it is
the top because that was the only one, or the path had no component behind its first piece. -/
inductive ParentOf (path : Path) : Path → Prop
  | shorter {before between behind : List String} {last : String}
      (parts : path.rest = before ++ between ++ last :: behind)
      (idleBetween : ∀ piece ∈ between, isIdle piece = true)
      (busy : isIdle last = false)
      (idleBehind : ∀ piece ∈ behind, isIdle piece = true)
      (given : path.first = "" → before ≠ []) : ParentOf path ⟨path.first, before⟩
  | top {between behind : List String} {last : String} (first : path.first = "")
      (parts : path.rest = between ++ last :: behind)
      (idleBetween : ∀ piece ∈ between, isIdle piece = true)
      (busy : isIdle last = false)
      (idleBehind : ∀ piece ∈ behind, isIdle piece = true) : ParentOf path top
  | empty (first : path.first ≠ "") (idle : ∀ piece ∈ path.rest, isIdle piece = true) :
      ParentOf path (ofPiece "")

/-- Every parent comes about in one of these ways. -/
theorem parentOf_of_parent? {path parent : Path} (found : path.parent? = some parent) :
    ParentOf path parent := by
  obtain ⟨behind, whole, idleBehind⟩ := dropEndIdle_append path.rest
  unfold parent? at found
  split at found
  · rename_i last reversed left
    have busy := isIdle_of_dropEndIdle left
    have kept : dropEndIdle path.rest = reversed.reverse ++ [last] := by
      rw [← List.reverse_reverse (dropEndIdle path.rest), left, List.reverse_cons]
    obtain ⟨between, split, idleBetween⟩ := dropEndIdle_append reversed.reverse
    have parts : path.rest = dropEndIdle reversed.reverse ++ between ++ last :: behind := by
      rw [← split, whole, kept]
      simp
    dsimp only at found
    split at found
    · rename_i only
      have none : dropEndIdle reversed.reverse = [] ∧ path.first = "" := by simpa using only
      rw [none.1, List.nil_append] at parts
      cases found
      exact .top none.2 parts idleBetween busy idleBehind
    · rename_i some
      have given : path.first = "" → dropEndIdle reversed.reverse ≠ [] := by
        intro first empty
        exact some (by simp [first, empty])
      cases found
      exact .shorter parts idleBetween busy idleBehind given
  · rename_i none
    have nothing : dropEndIdle path.rest = [] := List.reverse_eq_nil_iff.1 none
    rw [nothing, List.nil_append] at whole
    split at found
    · contradiction
    · rename_i first
      cases found
      exact .empty first (whole ▸ idleBehind)

/-- A path without a parent is empty or the top, perhaps with idle pieces. -/
theorem idle_of_no_parent {path : Path} (none : path.parent? = none) :
    path.first = "" ∧ ∀ piece ∈ path.rest, isIdle piece = true := by
  obtain ⟨behind, whole, idleBehind⟩ := dropEndIdle_append path.rest
  unfold parent? at none
  split at none
  · dsimp only at none
    split at none <;> contradiction
  · rename_i left
    have nothing : dropEndIdle path.rest = [] := List.reverse_eq_nil_iff.1 left
    rw [nothing, List.nil_append] at whole
    split at none
    · rename_i first
      exact ⟨first, whole ▸ idleBehind⟩
    · contradiction

/-- The ancestors of a path with a parent. -/
theorem ancestors_of_parent {path parent : Path} (found : path.parent? = some parent) :
    path.ancestors = path :: parent.ancestors := by
  rw [ancestors]
  split
  · rename_i other given
    rw [Option.some.inj (found.symm.trans given)]
  · rename_i none
    rw [found] at none
    contradiction

/-- A path without a parent has no ancestor but itself. -/
theorem ancestors_of_none {path : Path} (none : path.parent? = none) :
    path.ancestors = [path] := by
  rw [ancestors]
  split
  · rename_i given
    rw [none] at given
    contradiction
  · rfl

/-- The way up is no longer than the path has components, and one. -/
theorem length_ancestors_le (path : Path) : path.ancestors.length ≤ path.weight + 1 := by
  induction path using ancestors.induct with
  | case1 path parent found less ih =>
    rw [ancestors_of_parent found, List.length_cons]
    omega
  | case2 path none =>
    rw [ancestors_of_none none]
    exact Nat.le_add_left 1 path.weight

/-- A path has room when a mark can be put behind it so that the system follows the result. -/
def HasRoom (path : Path) : Prop :=
  (∀ piece ∈ path.pieces, '\x00' ∉ piece.toList) ∧ path.bytes + markBytes + 1 ≤ pathLimit

/-- A path with room fits itself. -/
theorem HasRoom.fits {path : Path} (room : path.HasRoom) : path.Fits := by
  have bound := room.2
  exact fits_iff.2 ⟨room.1, by omega⟩

/-- The names that mark folders are not idle, lead nowhere up and are short. -/
theorem markNames_plain : ∀ name ∈ markNames, isIdle name = false ∧ name ≠ ".." ∧
    name.utf8ByteSize ≤ markBytes ∧ '\x00' ∉ name.toList := by
  decide

/-- A mark behind a path with room fits. -/
theorem HasRoom.child_fits {path : Path} (room : path.HasRoom) {name : String}
    (mark : name ∈ markNames) : (path.child name).Fits := by
  obtain ⟨_, _, short, clean⟩ := markNames_plain name mark
  refine fits_iff.2 ⟨?_, ?_⟩
  · intro piece inside
    rcases mem_pieces_child inside with rfl | inside
    · exact clean
    · exact room.1 piece inside
  · have longer := bytes_child_le path name
    have bound := room.2
    omega

/-- A parent has no more bytes than the path. -/
theorem bytes_parent_le {path parent : Path} (parentOf : ParentOf path parent) :
    parent.bytes ≤ path.bytes := by
  unfold bytes
  cases parentOf with
  | @shorter before between behind last parts =>
    have longer : (before.map fun piece => piece.utf8ByteSize + 1).sum ≤
        (path.rest.map fun piece => piece.utf8ByteSize + 1).sum := by
      rw [parts, List.append_assoc, List.map_append, List.sum_append]
      omega
    dsimp only
    omega
  | @top between behind last first parts =>
    have least : 1 ≤ (path.rest.map fun piece => piece.utf8ByteSize + 1).sum := by
      rw [parts, List.map_append, List.map_cons, List.sum_append, List.sum_cons]
      omega
    have single : top.first.utf8ByteSize +
        (top.rest.map fun piece => piece.utf8ByteSize + 1).sum = 1 := by decide
    omega
  | empty => exact Nat.zero_le _

/-- A parent has room if the path has. -/
theorem HasRoom.parent {path parent : Path} (room : path.HasRoom)
    (parentOf : ParentOf path parent) : parent.HasRoom := by
  obtain ⟨clean, bound⟩ := room
  have fewer := bytes_parent_le parentOf
  refine ⟨?_, by omega⟩
  cases parentOf with
  | @shorter before between behind last parts =>
    intro piece inside
    apply clean piece
    rw [pieces, List.mem_cons] at inside ⊢
    rcases inside with first | inside
    · exact .inl first
    · rw [parts]
      exact .inr (by simp [inside])
  | top => decide
  | empty => decide

end Path

namespace FileTree

variable {tree : FileTree} {path parent : Path} {location : List String}

/-- Pieces are followed from a folder, if there are any. -/
theorem folder_of_foldlM {pieces outer : List String} (given : pieces ≠ [])
    (walked : pieces.foldlM tree.follow outer = .ok location) :
    ∃ entries, tree.top.at? outer = some (.folder entries) := by
  obtain ⟨piece, others, rfl⟩ := List.exists_cons_of_ne_nil given
  rw [List.foldlM_cons, bind_eq_ok_iff] at walked
  obtain ⟨_, step, _⟩ := walked
  exact follow_ok_folder step

/-- A name among idle pieces leads to the entry of that name, behind the location from which they
are followed. -/
theorem foldlM_single_name {outer between behind : List String} {name : String}
    (idleBetween : ∀ piece ∈ between, Path.isIdle piece = true) (busy : Path.isIdle name = false)
    (idleBehind : ∀ piece ∈ behind, Path.isIdle piece = true) (proper : name ≠ "..")
    (walked : (between ++ name :: behind).foldlM tree.follow outer = .ok location) :
    location = outer ++ [name] := by
  rw [List.foldlM_append, bind_eq_ok_iff] at walked
  obtain ⟨middle, stayed, walked⟩ := walked
  rw [List.foldlM_cons, bind_eq_ok_iff] at walked
  obtain ⟨inner, step, rest⟩ := walked
  rw [foldlM_idle idleBehind rest]
  rcases follow_ok_cases step proper with ⟨idle, _⟩ | ⟨_, reached, _⟩
  · rw [busy] at idle
    contradiction
  · rw [reached, foldlM_idle idleBetween stayed]

/-- The parent starts where the path does. -/
theorem base_parent (parentOf : Path.ParentOf path parent) : tree.base parent = tree.base path := by
  unfold base Path.isAbsolute
  cases parentOf with
  | shorter parts _ _ _ given =>
    have more : path.rest ≠ [] := by simp [parts]
    by_cases first : path.first = ""
    · simp [first, given first, more]
    · simp [first]
  | top first parts =>
    have more : path.rest ≠ [] := by simp [parts]
    simp [Path.top, first, more]
  | empty first => simp [Path.ofPiece, first]

/-- The parent of a path that does not lead up is walked to the folder around, or to the same
folder when the path had no name. -/
theorem walk_parent (walked : tree.walk path = .ok location) (level : ¬ path.LeadsUp)
    (parentOf : Path.ParentOf path parent) :
    ∃ outer, tree.walk parent = .ok outer ∧
      (location = outer ∨ ∃ name, location = outer ++ [name]) := by
  have proper : ∀ piece ∈ path.pieces, piece ≠ ".." := by
    rintro piece inside rfl
    exact level inside
  have based : tree.base parent = tree.base path := base_parent parentOf
  cases parentOf with
  | @shorter before between behind last parts idleBetween busy idleBehind given =>
    have named : last ≠ ".." := proper last (by simp [Path.pieces, parts])
    rw [walk, Path.pieces, parts, List.append_assoc, ← List.cons_append, List.foldlM_append,
      bind_eq_ok_iff] at walked
    obtain ⟨outer, reached, rest⟩ := walked
    refine ⟨outer, ?_, .inr ⟨last, foldlM_single_name idleBetween busy idleBehind named rest⟩⟩
    rw [walk, based]
    exact reached
  | @top between behind last first parts idleBetween busy idleBehind =>
    have named : last ≠ ".." := proper last (by simp [Path.pieces, parts])
    have more : between ++ last :: behind ≠ [] := by simp
    have absolute : path = ⟨"", between ++ last :: behind⟩ := by rw [← first, ← parts]
    rw [absolute, walk_absolute more] at walked
    obtain ⟨entries, folder⟩ := folder_of_foldlM more walked
    refine ⟨[], ?_, .inr ⟨last, foldlM_single_name idleBetween busy idleBehind named walked⟩⟩
    have topmost : tree.walk Path.top = [""].foldlM tree.follow [] := walk_absolute (by simp)
    rw [topmost, List.foldlM_cons, follow_idle folder rfl]
    rfl
  | empty first idle =>
    rw [walk, ← based, Path.pieces, List.foldlM_cons, bind_eq_ok_iff] at walked
    obtain ⟨middle, step, rest⟩ := walked
    have stayed := foldlM_idle idle rest
    obtain ⟨entries, folder⟩ := follow_ok_folder step
    refine ⟨tree.here, foldlM_of_idle folder (by decide), ?_⟩
    rcases follow_ok_cases step (proper path.first List.mem_cons_self) with
      ⟨_, same⟩ | ⟨_, reached, _⟩
    · exact .inl (stayed.trans same)
    · exact .inr ⟨path.first, stayed.trans reached⟩

/-- The parent of a path that does not lead up does not either. -/
theorem level_parent (level : ¬ path.LeadsUp) (parentOf : Path.ParentOf path parent) :
    ¬ parent.LeadsUp := by
  intro up
  apply level
  cases parentOf with
  | shorter parts =>
    simp only [Path.LeadsUp, Path.pieces, List.mem_cons, parts, List.mem_append] at up ⊢
    tauto
  | top => simp [Path.LeadsUp, Path.pieces, Path.top] at up
  | empty => simp [Path.LeadsUp, Path.pieces, Path.ofPiece] at up

/-- A path is marked when one of the names stands for something behind it. -/
theorem isMarked_iff_holds : isMarked tree path = true ↔
    ∃ name ∈ markNames, tree.holds (path.child name) = true := by
  simp only [isMarked, hasConfig, markNames, Bool.or_eq_true, List.any_eq_true,
    List.mem_append, List.mem_map, List.mem_singleton]
  constructor
  · rintro (⟨file, inside, there⟩ | there)
    · exact ⟨file.1, .inl ⟨file, inside, rfl⟩, there⟩
    · exact ⟨repositoryEntry, .inr rfl, there⟩
  · rintro ⟨name, ⟨file, inside, rfl⟩ | rfl, there⟩
    · exact .inl ⟨file, inside, there⟩
    · exact .inr there

/-- Marks are looked for where the path leads. -/
theorem isMarked_iff (walked : tree.walk path = .ok location) (room : path.HasRoom) :
    isMarked tree path = true ↔ tree.HasMark location := by
  rw [isMarked_iff_holds, HasMark]
  refine exists_congr fun name => and_congr_right fun mark => ?_
  obtain ⟨busy, proper, short, _⟩ := Path.markNames_plain name mark
  have limit : markBytes ≤ nameLimit := by decide
  exact holds_child_iff walked busy proper (short.trans limit) (room.child_fits mark)

/-- A path without a parent leads to its base. -/
theorem walk_of_no_parent (walked : tree.walk path = .ok location) (none : path.parent? = none) :
    location = tree.base path := by
  obtain ⟨first, idle⟩ := Path.idle_of_no_parent none
  have all : ∀ piece ∈ path.pieces, Path.isIdle piece = true := by
    intro piece inside
    rcases List.mem_cons.1 inside with rfl | inside
    · rw [first]
      rfl
    · exact idle piece inside
  exact foldlM_idle all walked

/-- A path that does not lead up leads to its base or further down. -/
theorem base_above (walked : tree.walk path = .ok location) (level : ¬ path.LeadsUp) :
    tree.base path <+: location := by
  induction path using Path.ancestors.induct generalizing location with
  | case1 path parent found less ih =>
    have parentOf := Path.parentOf_of_parent? found
    obtain ⟨outer, reached, around⟩ := walk_parent walked level parentOf
    have before : tree.base path <+: outer := by
      rw [← base_parent parentOf]
      exact ih reached (level_parent level parentOf)
    rcases around with same | ⟨name, same⟩
    · rw [same]
      exact before
    · rw [same]
      exact before.trans (List.prefix_append outer [name])
  | case2 path none =>
    have still := walk_of_no_parent walked none
    subst still
    exact List.prefix_refl (tree.base path)

/-- A marked folder is the nearest one of itself. -/
theorem nearestMark_self (marked : tree.HasMark location) : tree.NearestMark location location where
  above := List.prefix_refl location
  marked := marked
  first := fun _ above _ => above

/-- The nearest marked folder of a folder is that of an unmarked one in it. -/
theorem NearestMark.of_outer {outer nearest : List String} (near : tree.NearestMark outer nearest)
    (inner : outer <+: location)
    (onward : ∀ other, other <+: location → tree.HasMark other → other <+: outer) :
    tree.NearestMark location nearest where
  above := near.above.trans inner
  marked := near.marked
  first := fun other above mark => near.first other (onward other above mark) mark

/-- A marked path is the first marked one on its way up. -/
theorem find?_ancestors_self (marked : isMarked tree path = true) :
    path.ancestors.find? (isMarked tree) = some path := by
  cases up : path.parent? with
  | none => rw [Path.ancestors_of_none up, List.find?_cons_of_pos marked]
  | some parent => rw [Path.ancestors_of_parent up, List.find?_cons_of_pos marked]

/-- What the search from a path comes to: it stops at the nearest marked folder, and goes on as far
as the base of the path when there is none. -/
structure SearchesUp (tree : FileTree) (path : Path) (location : List String) : Prop where
  stops : ∀ root, path.ancestors.find? (isMarked tree) = some root →
    ∃ nearest, tree.walk root = .ok nearest ∧ root.HasRoom ∧ tree.base path <+: nearest ∧
      tree.NearestMark location nearest
  goesOn : path.ancestors.find? (isMarked tree) = none →
    ∀ other, tree.base path <+: other → other <+: location → ¬ tree.HasMark other

/-- The search stops at a marked folder. -/
theorem searchesUp_of_marked (walked : tree.walk path = .ok location) (level : ¬ path.LeadsUp)
    (room : path.HasRoom) (here : isMarked tree path = true) :
    tree.SearchesUp path location where
  stops := by
    intro root stopped
    obtain rfl : path = root := by
      rwa [find?_ancestors_self here, Option.some.injEq] at stopped
    have marked : tree.HasMark location := (isMarked_iff walked room).1 here
    exact ⟨location, walked, room, base_above walked level, nearestMark_self marked⟩
  goesOn := by
    intro nowhere
    rw [find?_ancestors_self here] at nowhere
    contradiction

/-- From an unmarked folder the search comes to what it comes to from the folder around. -/
theorem SearchesUp.of_parent {outer : List String} (search : tree.SearchesUp parent outer)
    (found : path.parent? = some parent) (here : isMarked tree path = false)
    (unmarked : ¬ tree.HasMark location)
    (around : location = outer ∨ ∃ name, location = outer ++ [name]) :
    tree.SearchesUp path location := by
  have same : tree.base parent = tree.base path := base_parent (Path.parentOf_of_parent? found)
  have further : path.ancestors.find? (isMarked tree) = parent.ancestors.find? (isMarked tree) := by
    rw [Path.ancestors_of_parent found, List.find?_cons, here]
  have inner : outer <+: location := by
    rcases around with rfl | ⟨name, rfl⟩
    · exact List.prefix_refl _
    · exact List.prefix_append outer [name]
  have onward : ∀ other, other <+: location → tree.HasMark other → other <+: outer := by
    intro other above mark
    rcases around with rfl | ⟨name, rfl⟩
    · exact above
    · rcases List.prefix_concat_iff.1 above with rfl | above
      · exact absurd mark unmarked
      · exact above
  constructor
  · intro root stopped
    rw [further] at stopped
    obtain ⟨nearest, led, room, below, near⟩ := search.stops root stopped
    exact ⟨nearest, led, room, same ▸ below, near.of_outer inner onward⟩
  · intro nowhere other below above mark
    rw [further] at nowhere
    exact search.goesOn nowhere other (same ▸ below) (onward other above mark) mark

/-- The search from a path that does not lead up comes to the nearest marked folder. -/
theorem searchesUp (walked : tree.walk path = .ok location) (level : ¬ path.LeadsUp)
    (room : path.HasRoom) : tree.SearchesUp path location := by
  induction path using Path.ancestors.induct generalizing location with
  | case1 path parent found less ih =>
    cases here : isMarked tree path with
    | true => exact searchesUp_of_marked walked level room here
    | false =>
      have unmarked : ¬ tree.HasMark location := by
        rw [← isMarked_iff walked room, here]
        simp
      have parentOf := Path.parentOf_of_parent? found
      obtain ⟨outer, reached, around⟩ := walk_parent walked level parentOf
      have search := ih reached (level_parent level parentOf) (room.parent parentOf)
      exact search.of_parent found here unmarked around
  | case2 path none =>
    cases here : isMarked tree path with
    | true => exact searchesUp_of_marked walked level room here
    | false =>
      have alone : path.ancestors.find? (isMarked tree) = Option.none := by
        rw [Path.ancestors_of_none none, List.find?_singleton, here]
        rfl
      refine ⟨fun root stopped => by simp [alone] at stopped, ?_⟩
      intro _ other below above mark
      rw [walk_of_no_parent walked none] at above walked
      have itself : other = tree.base path :=
        above.eq_of_length (Nat.le_antisymm above.length_le below.length_le)
      rw [itself, ← isMarked_iff walked room, here] at mark
      contradiction

/-- A path names a folder when the system follows it there; the empty path names the working
folder, as it does in front of a name. -/
def Names (tree : FileTree) (path : Path) (location : List String) : Prop :=
  tree.locate path = .ok location ∨ path.isEmpty = true ∧ location = tree.here

/-- A path with room names the folder that it is walked to. -/
theorem names_of_walk (walked : tree.walk path = .ok location) (room : path.HasRoom) :
    tree.Names path location := by
  cases empty : path.isEmpty with
  | true =>
    right
    have single := Path.isEmpty_iff.1 empty
    have all : ∀ piece ∈ path.pieces, Path.isIdle piece = true := by
      rw [single]
      decide
    have still := foldlM_idle all walked
    rw [single] at still
    exact ⟨empty, still⟩
  | false =>
    left
    rw [locate_of_fits room.fits empty]
    exact walked

/-- A root for a start that leads to a location is found as it should be when it names the
nearest marked folder, or is the start itself if no folder is marked at the location or above. -/
def FindsNearest (tree : FileTree) (start : Path) (location : List String) : Prop :=
  (∃ nearest, tree.Names (detectRoot tree start) nearest ∧ tree.NearestMark location nearest) ∨
    detectRoot tree start = start ∧ ∀ other, other <+: location → ¬ tree.HasMark other

/-- The search for the root of a path that does not lead up looks at no more paths than the start
has components, and one. It finds the nearest marked folder at the base of the path or further
down, and is back at the start if there is none; so it finds the nearest marked folder of all
when the start is absolute, or no folder around the working folder is marked. -/
theorem detectRoot_nearest {start : Path} (named : tree.locate start = .ok location)
    (level : ¬ start.LeadsUp) (room : start.text.utf8ByteSize + markBytes < pathLimit) :
    start.ancestors.length ≤ start.weight + 1 ∧
    ((∃ nearest, tree.Names (detectRoot tree start) nearest ∧ tree.base start <+: nearest ∧
        tree.NearestMark location nearest) ∨
      detectRoot tree start = start ∧
        ∀ other, tree.base start <+: other → other <+: location → ¬ tree.HasMark other) ∧
    ((start.isAbsolute = true ∨
        ∀ other, other <+: tree.here → other ≠ tree.here → ¬ tree.HasMark other) →
      tree.FindsNearest start location) := by
  have walked := walk_of_locate named
  have spacious : start.HasRoom := by
    refine ⟨(Path.fits_iff.1 (fits_of_locate named).1).1, ?_⟩
    rw [Path.utf8ByteSize_text] at room
    omega
  obtain ⟨stops, goesOn⟩ := searchesUp walked level spacious
  have found : (∃ nearest, tree.Names (detectRoot tree start) nearest ∧
        tree.base start <+: nearest ∧ tree.NearestMark location nearest) ∨
      detectRoot tree start = start ∧
        ∀ other, tree.base start <+: other → other <+: location → ¬ tree.HasMark other := by
    unfold detectRoot
    cases search : start.ancestors.find? (isMarked tree) with
    | none => exact .inr ⟨rfl, goesOn search⟩
    | some root =>
      obtain ⟨nearest, led, roomRoot, below, near⟩ := stops root search
      exact .inl ⟨nearest, names_of_walk led roomRoot, below, near⟩
  refine ⟨Path.length_ancestors_le start, found, ?_⟩
  intro reach
  rcases found with ⟨nearest, names, _, near⟩ | ⟨back, unmarked⟩
  · exact .inl ⟨nearest, names, near⟩
  · refine .inr ⟨back, ?_⟩
    intro other above mark
    by_cases below : tree.base start <+: other
    · exact unmarked other below above mark
    · -- Both lead towards the location, so the other folder is around the base.
      have around : other <+: tree.base start :=
        (List.prefix_or_prefix_of_prefix above (base_above walked level)).resolve_right below
      have relative : start.isAbsolute = false := by
        cases absolute : start.isAbsolute with
        | false => rfl
        | true =>
          have topmost : tree.base start = [] := by rw [base, if_pos absolute]
          rw [topmost] at below
          exact absurd (List.nil_prefix) below
      have based : tree.base start = tree.here := by
        rw [base, relative]
        rfl
      rw [based] at around below
      rcases reach with absolute | outside
      · rw [relative] at absolute
        contradiction
      · have different : other ≠ tree.here := by
          rintro rfl
          exact below (List.prefix_refl _)
        exact outside other around different mark

/-- Two marked folders, one around the working folder and one in it. -/
def nestedTree : FileTree where
  top := .folder [
    (".git", .folder []),
    ("r", .folder [("a", .folder [(".git", .folder []), ("b", .folder [])])])]
  here := ["r"]

/-- From the folder without a mark in the inner marked one, by its path from the top, the search
finds the inner one. -/
theorem detectRoot_nearest_nested :
    nestedTree.locate (.ofText "/r//a/./b") = .ok ["r", "a", "b"] ∧
    ¬ (Path.ofText "/r//a/./b").LeadsUp ∧
    (Path.ofText "/r//a/./b").text.utf8ByteSize + markBytes < pathLimit ∧
    detectRoot nestedTree (.ofText "/r//a/./b") = .ofText "/r//a" ∧
    nestedTree.FindsNearest (.ofText "/r//a/./b") ["r", "a", "b"] := by
  have named : nestedTree.locate (.ofText "/r//a/./b") = .ok ["r", "a", "b"] := by
    decide +kernel
  have level : ¬ (Path.ofText "/r//a/./b").LeadsUp := by
    unfold Path.LeadsUp
    decide +kernel
  have room : (Path.ofText "/r//a/./b").text.utf8ByteSize + markBytes < pathLimit := by
    decide +kernel
  have absolute : (Path.ofText "/r//a/./b").isAbsolute = true := by decide +kernel
  refine ⟨named, level, room, by decide +kernel, ?_⟩
  exact (detectRoot_nearest named level room).2.2 (.inl absolute)

/-- From the working folder the search does not find the marked folder around it, and when the
path to the working folder leads up from the one in it, the search finds that one. -/
theorem not_findsNearest_nested :
    nestedTree.locate .here = .ok ["r"] ∧ ¬ nestedTree.FindsNearest .here ["r"] ∧
    nestedTree.locate (.ofText "a/..") = .ok ["r"] ∧
    ¬ nestedTree.FindsNearest (.ofText "a/..") ["r"] := by
  have here : nestedTree.locate .here = .ok ["r"] := by decide +kernel
  have marked : nestedTree.HasMark [] := by
    unfold HasMark
    decide +kernel
  have unmarked : ¬ nestedTree.HasMark ["r"] := by
    unfold HasMark
    decide +kernel
  refine ⟨here, ?_, by decide +kernel, ?_⟩
  · have back : detectRoot nestedTree .here = .here := by decide +kernel
    rintro (⟨nearest, named | ⟨empty, _⟩, near⟩ | ⟨_, none⟩)
    · rw [back, here] at named
      have itself := Except.ok.inj named
      rw [← itself] at near
      exact unmarked near.marked
    · rw [back] at empty
      contradiction
    · exact none [] List.nil_prefix marked
  · have inner : detectRoot nestedTree (.ofText "a/..") = .ofText "a" := by decide +kernel
    have led : nestedTree.locate (.ofText "a") = .ok ["r", "a"] := by decide +kernel
    rintro (⟨nearest, named | ⟨empty, _⟩, near⟩ | ⟨back, _⟩)
    · rw [inner, led] at named
      have below := Except.ok.inj named
      rw [← below] at near
      have shorter := near.above.length_le
      simp at shorter
    · rw [inner] at empty
      revert empty
      decide +kernel
    · rw [inner] at back
      revert back
      decide +kernel

end FileTree

end SarifDigest
