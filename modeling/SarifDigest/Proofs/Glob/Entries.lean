import SarifDigest.Glob.Expansion
import SarifDigest.Proofs.Files.Components
import SarifDigest.Proofs.Files.Lawful

/-!
# The paths of entries

How the search for a pattern spells the entries of a folder, and everything below it. The dot
that the search starts from is left out of the spelling, which changes no location; only an
empty piece cannot stand behind that dot.
-/
namespace SarifDigest

namespace Path

/-- The components of a path, without the dot for the working folder. -/
def front (path : Path) : List Component :=
  if path.components = [.here] then [] else path.components

/-- A path without a front is empty or the dot for the working folder, perhaps with idle pieces
behind it. -/
theorem front_eq_nil_iff {path : Path} :
    path.front = [] ↔ path.components = [.here] ∨ path.components = [] := by
  unfold front
  split
  · rename_i dot
    simp [dot]
  · rename_i other
    simp [other]

/-- The front of a path that has one is all its components. -/
theorem components_of_front {path : Path} (given : path.front ≠ []) :
    path.components = path.front := by
  have other : path.components ≠ [.here] := by
    intro dot
    exact given (front_eq_nil_iff.2 (.inl dot))
  rw [front, if_neg other]

/-- The bytes that names have, each with a separator. -/
def spelling (names : List String) : Nat :=
  (names.map fun name => name.utf8ByteSize + 1).sum

/-- The bytes of names one behind the other. -/
theorem spelling_append (names further : List String) :
    spelling (names ++ further) = spelling names + spelling further := by
  simp [spelling]

/-- The bytes of a name before others. -/
theorem spelling_cons (name : String) (names : List String) :
    spelling (name :: names) = name.utf8ByteSize + 1 + spelling names := by
  simp [spelling]

/-- A piece that is not the first of its path never stands for the working folder. -/
theorem ofLater?_ne_here (piece : String) : (Component.ofLater? piece).toList ≠ [.here] := by
  unfold Component.ofLater?
  split
  · simp
  · split <;> simp

/-- The front of a single piece. -/
theorem front_ofPiece (piece : String) :
    (ofPiece piece).front = (Component.ofLater? piece).toList := by
  have whole : (ofPiece piece).components = (Component.ofFirst? piece).toList := by
    simp [components, isAbsolute, ofPiece]
  by_cases dot : piece = "."
  · rw [dot]
    decide
  · have later : Component.ofFirst? piece = Component.ofLater? piece := if_neg dot
    rw [front, whole, later, if_neg (ofLater?_ne_here piece)]

end Path

namespace Glob

open SarifDigest.Path

/-- The front of the path of an entry is that of its folder, and the component of its name. -/
theorem front_entryPath (path : Path) (name : String) :
    (entryPath path name).front = path.front ++ (Component.ofLater? name).toList := by
  unfold entryPath
  by_cases here : path.components = [.here]
  · rw [if_pos here, front_eq_nil_iff.2 (.inl here), front_ofPiece, List.nil_append]
  · rw [if_neg here]
    cases empty : path.isEmpty with
    | true =>
      have none : path.components = [] := by
        rw [isEmpty_iff.1 empty]
        decide
      rw [child_of_empty empty, front_eq_nil_iff.2 (.inr none), front_ofPiece, List.nil_append]
    | false =>
      have more : path.components ++ (Component.ofLater? name).toList ≠ [.here] := by
        intro same
        rcases List.append_eq_singleton_iff.1 same with ⟨_, later⟩ | ⟨only, _⟩
        · exact ofLater?_ne_here name later
        · exact here only
      rw [front, components_child empty, if_neg more, front, if_neg here]

/-- An idle piece adds nothing to a front. -/
theorem front_entryPath_of_idle (path : Path) {piece : String} (idle : isIdle piece = true) :
    (entryPath path piece).front = path.front := by
  have dots : piece = "" ∨ piece = "." := by simpa [isIdle] using idle
  rw [front_entryPath, Component.ofLater?, if_pos dots, Option.toList_none, List.append_nil]

/-- A name that is neither idle nor leads up adds itself to a front. -/
theorem front_entryPath_of_busy (path : Path) {name : String} (busy : isIdle name = false)
    (inner : name ≠ "..") : (entryPath path name).front = path.front ++ [.name name] := by
  rw [front_entryPath, Component.ofLater?_of_busy busy inner, Option.toList_some]

section Walking

variable {tree : FileTree} {path : Path} {location : List String} {name : String}

/-- The path of an entry is walked to the entry of the folder that the path is walked to. -/
theorem walk_entryPath (walked : tree.walk path = .ok location) (name : String) :
    tree.walk (entryPath path name) = tree.follow location name := by
  unfold entryPath
  by_cases here : path.components = [.here]
  · have placed := FileTree.place_of_walk walked
    rw [here] at placed
    have still : location = tree.here := placed
    have relative : (ofPiece name).isAbsolute = false := by simp [isAbsolute, ofPiece]
    rw [if_pos here, still, FileTree.walk, FileTree.base, relative]
    simp [pieces, ofPiece]
  · rw [if_neg here]
    exact FileTree.walk_child walked name

/-- An entry makes a path longer by no more than the bytes of its name and a separator. -/
theorem bytes_entryPath_le (path : Path) (name : String) :
    (entryPath path name).bytes ≤ path.bytes + name.utf8ByteSize + 1 := by
  unfold entryPath
  split
  · simp only [bytes, ofPiece, List.map_nil, List.sum_nil]
    omega
  · exact bytes_child_le path name

/-- The pieces of the path of an entry are its name and pieces of the path. -/
theorem mem_pieces_entryPath {piece : String}
    (inside : piece ∈ (entryPath path name).pieces) : piece = name ∨ piece ∈ path.pieces := by
  unfold entryPath at inside
  split at inside
  · exact .inl (by simpa [pieces, ofPiece] using inside)
  · exact mem_pieces_child inside

/-- The path of an entry is not empty, unless an empty name stands behind the dot. -/
theorem isEmpty_entryPath (nonempty : path.isEmpty = false)
    (given : name ≠ "" ∨ path.front ≠ []) : (entryPath path name).isEmpty = false := by
  unfold entryPath
  split
  · rename_i here
    have named : name ≠ "" := by
      rcases given with named | front
      · exact named
      · exact absurd (front_eq_nil_iff.2 (.inl here)) front
    simp [isEmpty, ofPiece, named]
  · rw [child_of_nonempty nonempty]
    simp [isEmpty]

/-- A path that the search is at: it is walked to a location, it can be followed with some bytes
to spare, and it is not empty. -/
structure At (tree : FileTree) (path : Path) (location : List String) (spare : Nat) :
    Prop where
  walked : tree.walk path = .ok location
  clean : ∀ piece ∈ path.pieces, '\x00' ∉ piece.toList
  short : path.bytes + spare ≤ pathLimit
  nonempty : path.isEmpty = false

namespace At

variable {spare : Nat}

/-- There may be fewer bytes to spare. -/
theorem less {fewer : Nat} (here : At tree path location spare) (bound : fewer ≤ spare) :
    At tree path location fewer where
  walked := here.walked
  clean := here.clean
  short := Nat.le_trans (Nat.add_le_add_left bound _) here.short
  nonempty := here.nonempty

/-- The system follows a path that the search is at. -/
theorem locate (here : At tree path location spare) : tree.locate path = .ok location := by
  have short := here.short
  have fits : path.Fits := fits_iff.2 ⟨here.clean, by omega⟩
  rw [FileTree.locate_of_fits fits here.nonempty, here.walked]

/-- What is at the location is what the path leads to. -/
theorem node?_eq (here : At tree path location spare) :
    tree.node? path = tree.top.at? location := by
  unfold FileTree.node?
  rw [here.locate]
  rfl

/-- From a path to one of its entries, or to the folder itself or around it: what a step may
lead to, with fewer bytes to spare. -/
theorem step (here : At tree path location (name.utf8ByteSize + 1 + spare)) {next : List String}
    (led : tree.follow location name = .ok next) (clean : '\x00' ∉ name.toList)
    (given : name ≠ "" ∨ path.front ≠ []) : At tree (entryPath path name) next spare where
  walked := by rw [walk_entryPath here.walked, led]
  clean := by
    intro piece inside
    rcases mem_pieces_entryPath inside with rfl | inside
    · exact clean
    · exact here.clean piece inside
  short := by
    have short := here.short
    have longer := bytes_entryPath_le path name
    omega
  nonempty := isEmpty_entryPath here.nonempty given

/-- From a path to something below it. -/
theorem steps (lawful : tree.top.Lawful) {names : List String}
    (here : At tree path location (spelling names + spare)) {node : Node}
    (found : tree.top.at? (location ++ names) = some node) :
    At tree (names.foldl entryPath path) (location ++ names) spare := by
  induction names generalizing path location with
  | nil =>
    rw [List.append_nil]
    simpa [spelling] using here
  | cons name names ih =>
    have proper : ProperName name :=
      (lawful.descend found).2 name (by simp)
    have whole : location ++ name :: names = (location ++ [name]) ++ names := by simp
    rw [whole] at found ⊢
    obtain ⟨inner, there, _⟩ := Node.at?_append_eq_some_iff.1 found
    have led := FileTree.follow_of_proper proper (by rw [there]; rfl)
    rw [spelling_cons, Nat.add_assoc] at here
    exact ih (here.step led proper.clean (.inl proper.given)) found

end At

end Walking

section Below

/-- What is below a path and some entries: each entry, and what is below it. -/
theorem mem_belowEntries_iff {path : Path} {entries : List (String × Node)}
    {item : Path × String × Node} :
    item ∈ belowEntries path entries ↔
      ∃ name node, (name, node) ∈ entries ∧
        (item = (entryPath path name, name, node) ∨ item ∈ below (entryPath path name) node) := by
  induction entries with
  | nil => simp [belowEntries]
  | cons entry others ih =>
    obtain ⟨name, node⟩ := entry
    rw [belowEntries, List.cons_append, List.mem_cons, List.mem_append, ih]
    constructor
    · rintro (itself | deeper | ⟨other, inner, listed, given⟩)
      · exact ⟨name, node, List.mem_cons_self, .inl itself⟩
      · exact ⟨name, node, List.mem_cons_self, .inr deeper⟩
      · exact ⟨other, inner, List.mem_cons_of_mem _ listed, given⟩
    · rintro ⟨other, inner, listed, given⟩
      rcases List.mem_cons.1 listed with same | listed
      · cases same
        rcases given with itself | deeper
        · exact .inl itself
        · exact .inr (.inl deeper)
      · exact .inr (.inr ⟨other, inner, listed, given⟩)

/-- Whatever is at the end of names below a node is found below it. -/
theorem mem_below_of_at? {names : List String} {name : String} {path : Path} {node inner : Node}
    (found : node.at? (names ++ [name]) = some inner) :
    ((names ++ [name]).foldl entryPath path, name, inner) ∈ below path node := by
  induction names generalizing path node with
  | nil =>
    have listed : node.entries.lookup name = some inner := by
      simpa [Node.at?] using found
    cases node with
    | file bytes => simp [Node.entries] at listed
    | folder entries =>
      rw [below, mem_belowEntries_iff]
      exact ⟨name, inner, Node.mem_of_lookup listed, .inl rfl⟩
  | cons first names ih =>
    rw [List.cons_append, Node.at?] at found
    obtain ⟨next, listed, onward⟩ := Option.bind_eq_some_iff.1 found
    cases node with
    | file bytes => simp [Node.entries] at listed
    | folder entries =>
      rw [below, mem_belowEntries_iff]
      exact ⟨first, next, Node.mem_of_lookup listed, .inr (ih onward)⟩

/-- Below a lawful node nothing is found but what is at the end of names. -/
theorem at?_of_mem_below {node : Node} (lawful : node.Lawful) {path spelled : Path}
    {name : String} {inner : Node} (listed : (spelled, name, inner) ∈ below path node) :
    ∃ names, spelled = (names ++ [name]).foldl entryPath path ∧
      node.at? (names ++ [name]) = some inner := by
  induction lawful generalizing path with
  | file => simp [below] at listed
  | @folder entries proper distinct lawfulInner ih =>
    rw [below, mem_belowEntries_iff] at listed
    obtain ⟨first, next, there, given⟩ := listed
    have found : entries.lookup first = some next := Node.lookup_of_mem distinct there
    rcases given with itself | deeper
    · cases itself
      refine ⟨[], rfl, ?_⟩
      simpa [Node.at?, Node.entries] using found
    · obtain ⟨names, spelt, onward⟩ := ih (first, next) there deeper
      refine ⟨first :: names, spelt, ?_⟩
      rw [List.cons_append, Node.at?]
      exact Option.bind_eq_some_iff.2 ⟨next, found, onward⟩

end Below

end Glob

end SarifDigest
