import Mathlib.Algebra.GroupWithZero.Nat
import Mathlib.Algebra.Order.BigOperators.Group.List
import Mathlib.Algebra.Order.Group.Nat
import Mathlib.Data.List.Basic
import SarifDigest.Files.Tree

/-!
# Following paths

Where a path leads in a file tree, piece by piece. A path that is followed without regard to
the limits of the system is walked; the empty path is walked to the working folder, as it is
when a name stands behind it. What a system follows it also walks, and a path that is walked is
followed when its spelling is short enough and has nothing in it that no path may have.
-/
namespace SarifDigest

namespace Node

/-- The node at the end of names behind others. -/
theorem at?_append (node : Node) (names further : List String) :
    node.at? (names ++ further) = (node.at? names).bind (·.at? further) := by
  induction names generalizing node with
  | nil => rfl
  | cons name names ih =>
    rw [List.cons_append, at?, at?, Option.bind_assoc]
    congr 1
    funext inner
    exact ih inner

/-- The node of a name in the folder at the end of others. -/
theorem at?_snoc (node : Node) (names : List String) (name : String) :
    node.at? (names ++ [name]) =
      (node.at? names).bind fun folder => folder.entries.lookup name := by
  rw [at?_append]
  congr 1
  funext folder
  simp [at?]

/-- What is at the end of names behind others is at the end of the names from a node on the
way. -/
theorem at?_append_eq_some_iff {node inner : Node} {names further : List String} :
    node.at? (names ++ further) = some inner ↔
      ∃ middle, node.at? names = some middle ∧ middle.at? further = some inner := by
  rw [at?_append, Option.bind_eq_some_iff]

/-- The nodes on the way to one are folders. -/
theorem at?_prefix {node : Node} {names further : List String} {inner : Node}
    (found : node.at? (names ++ further) = some inner) (more : further ≠ []) :
    ∃ entries, node.at? names = some (.folder entries) := by
  obtain ⟨middle, there, onward⟩ := at?_append_eq_some_iff.1 found
  obtain ⟨name, others, rfl⟩ := List.exists_cons_of_ne_nil more
  cases middle with
  | file bytes => simp [at?, entries] at onward
  | folder entries => exact ⟨entries, there⟩

end Node

namespace Path

/-- All pieces of a path. -/
def pieces (path : Path) : List String := path.first :: path.rest

/-- The bytes that the spelling of a path has. -/
def bytes (path : Path) : Nat :=
  path.first.utf8ByteSize + (path.rest.map fun piece => piece.utf8ByteSize + 1).sum

/-- The bytes of a path are those of its text. -/
theorem utf8ByteSize_text (path : Path) : path.text.utf8ByteSize = path.bytes := by
  have separator : ("/" : String).utf8ByteSize = 1 := by decide
  obtain ⟨first, rest⟩ := path
  unfold text bytes
  induction rest generalizing first with
  | nil => simp
  | cons piece rest ih =>
    have onward := ih piece
    rw [String.intercalate_cons_cons, String.utf8ByteSize_append, String.utf8ByteSize_append,
      onward, separator]
    simp only [List.map_cons, List.sum_cons]
    omega

/-- A character other than a separator is in the text of a path when it is in a piece. -/
theorem mem_text_iff {path : Path} {c : Char} (other : c ≠ '/') :
    c ∈ path.text.toList ↔ ∃ piece ∈ path.pieces, c ∈ piece.toList := by
  obtain ⟨first, rest⟩ := path
  unfold text pieces
  induction rest generalizing first with
  | nil => simp
  | cons piece rest ih =>
    have onward := ih piece
    have separator : ("/" : String).toList = ['/'] := by decide
    rw [String.intercalate_cons_cons, String.toList_append, String.toList_append,
      List.mem_append, List.mem_append, onward, separator]
    simp [other]

/-- A system follows the spelling of a path when it is short enough and holds no NUL. -/
def Fits (path : Path) : Prop :=
  '\x00' ∉ path.text.toList ∧ path.text.utf8ByteSize ≤ pathLimit

/-- A path fits when its pieces hold no NUL and it has not too many bytes. -/
theorem fits_iff {path : Path} :
    path.Fits ↔ (∀ piece ∈ path.pieces, '\x00' ∉ piece.toList) ∧ path.bytes ≤ pathLimit := by
  have different : ('\x00' : Char) ≠ '/' := by decide
  rw [Fits, mem_text_iff different, utf8ByteSize_text]
  simp only [not_exists, not_and]

/-- The pieces behind the first that are left when a name is put behind a path. -/
theorem dropEndEmpty_eq (pieces : List String) :
    (∃ before, pieces = before ++ [""] ∧ dropEndEmpty pieces = before) ∨
      dropEndEmpty pieces = pieces := by
  unfold dropEndEmpty
  split
  · rename_i last
    refine .inl ⟨pieces.dropLast, ?_, rfl⟩
    exact (List.dropLast_append_getLast? "" (by rw [last]; rfl)).symm
  · exact .inr rfl

/-- The pieces that are left are pieces of the path. -/
theorem dropEndEmpty_sublist (pieces : List String) : (dropEndEmpty pieces).Sublist pieces := by
  rcases dropEndEmpty_eq pieces with ⟨before, same, left⟩ | left
  · rw [left, same]
    exact List.sublist_append_left before [""]
  · rw [left]

/-- A name behind a path that is not empty. -/
theorem child_of_nonempty {path : Path} (nonempty : path.isEmpty = false) (name : String) :
    path.child name = ⟨path.first, dropEndEmpty path.rest ++ [name]⟩ := by
  have relative : (ofPiece name).isAbsolute = false := by simp [isAbsolute, ofPiece]
  unfold child join
  rw [relative, nonempty]
  rfl

/-- A name behind the empty path. -/
theorem child_of_empty {path : Path} (empty : path.isEmpty = true) (name : String) :
    path.child name = ofPiece name := by
  unfold child join
  rw [empty, Bool.or_true]
  rfl

/-- A path that is empty has one empty piece. -/
theorem isEmpty_iff {path : Path} : path.isEmpty = true ↔ path = ofPiece "" := by
  obtain ⟨first, rest⟩ := path
  simp [isEmpty, ofPiece]

/-- A path with a name behind it is not empty. -/
theorem isEmpty_child {path : Path} {name : String} (busy : isIdle name = false) :
    (path.child name).isEmpty = false := by
  cases empty : path.isEmpty with
  | true =>
    have given : name ≠ "" := by
      rintro rfl
      simp [isIdle] at busy
    rw [child_of_empty empty]
    simp [isEmpty, ofPiece, given]
  | false =>
    rw [child_of_nonempty empty]
    simp [isEmpty]

/-- A name behind a path makes it longer by no more than its bytes and a separator. -/
theorem bytes_child_le (path : Path) (name : String) :
    (path.child name).bytes ≤ path.bytes + name.utf8ByteSize + 1 := by
  cases empty : path.isEmpty with
  | true =>
    rw [child_of_empty empty]
    simp only [bytes, ofPiece, List.map_nil, List.sum_nil]
    omega
  | false =>
    rw [child_of_nonempty empty]
    have fewer := List.Sublist.sum_le_sum
      ((dropEndEmpty_sublist path.rest).map fun piece => piece.utf8ByteSize + 1)
      (fun size _ => Nat.zero_le size)
    simp only [bytes, List.map_append, List.sum_append, List.map_cons, List.map_nil,
      List.sum_cons, List.sum_nil]
    omega

/-- The pieces of a name behind a path are the name and pieces of the path. -/
theorem mem_pieces_child {path : Path} {name piece : String}
    (inside : piece ∈ (path.child name).pieces) : piece = name ∨ piece ∈ path.pieces := by
  cases empty : path.isEmpty with
  | true =>
    rw [child_of_empty empty] at inside
    exact .inl (by simpa [pieces, ofPiece] using inside)
  | false =>
    rw [child_of_nonempty empty] at inside
    simp only [pieces, List.mem_cons, List.mem_append, List.not_mem_nil, or_false] at inside ⊢
    rcases inside with first | left | last
    · exact .inr (.inl first)
    · exact .inr (.inr ((dropEndEmpty_sublist path.rest).mem left))
    · exact .inl last

/-- The pieces of a path are in front of a name, but for an empty one at the end. -/
theorem mem_pieces_child_of_mem {path : Path} {piece : String} (given : piece ≠ "")
    (inside : piece ∈ path.pieces) (name : String) : piece ∈ (path.child name).pieces := by
  cases empty : path.isEmpty with
  | true =>
    rw [isEmpty_iff.1 empty] at inside
    exact absurd (List.mem_singleton.1 inside) given
  | false =>
    rw [child_of_nonempty empty]
    simp only [pieces, List.mem_cons, List.mem_append] at inside ⊢
    rcases inside with first | inside
    · exact .inl first
    · rcases dropEndEmpty_eq path.rest with ⟨before, split, left⟩ | left
      · rw [split, List.mem_append, List.mem_singleton] at inside
        rw [left]
        exact .inr (.inl (inside.resolve_right given))
      · rw [left]
        exact .inr (.inl inside)

end Path

/-- A computation in two parts succeeds when both parts do. -/
theorem bind_eq_ok_iff {ε α β : Type} {first : Except ε α} {second : α → Except ε β} {b : β} :
    first >>= second = .ok b ↔ ∃ a, first = .ok a ∧ second a = .ok b := by
  cases first with
  | error fault => simp [bind, Except.bind]
  | ok a => simp [bind, Except.bind]

/-- A computation with a changed result succeeds when it does. -/
theorem map_eq_ok_iff {ε α β : Type} {change : α → β} {read : Except ε α} {b : β} :
    read.map change = .ok b ↔ ∃ a, read = .ok a ∧ change a = b := by
  cases read with
  | error fault => simp [Except.map]
  | ok a => simp [Except.map]

namespace FileTree

variable {tree : FileTree}

/-- The location from which a path is followed. -/
def base (tree : FileTree) (path : Path) : List String :=
  if path.isAbsolute then [] else tree.here

/-- The location that a path leads to, whatever the length of its spelling. -/
def walk (tree : FileTree) (path : Path) : Except FileError (List String) :=
  path.pieces.foldlM tree.follow (tree.base path)

/-- A step is possible from folders only. -/
theorem follow_ok_folder {location next : List String} {piece : String}
    (step : tree.follow location piece = .ok next) :
    ∃ entries, tree.top.at? location = some (.folder entries) := by
  unfold follow at step
  split at step
  · contradiction
  · contradiction
  · rename_i entries found
    exact ⟨entries, found⟩

section Steps

variable {location : List String} {entries : List (String × Node)}

/-- An idle piece stays in its folder. -/
theorem follow_idle (folder : tree.top.at? location = some (.folder entries)) {piece : String}
    (idle : Path.isIdle piece = true) : tree.follow location piece = .ok location := by
  have dots : piece = "" ∨ piece = "." := by simpa [Path.isIdle] using idle
  unfold follow
  simp only [folder, dots, if_true]

/-- Two dots lead to the folder around. -/
theorem follow_up (folder : tree.top.at? location = some (.folder entries)) :
    tree.follow location ".." = .ok location.dropLast := by
  unfold follow
  simp only [folder]
  rfl

/-- A name leads to the entry of that name, if there is one and the name is not too long. -/
theorem follow_name (folder : tree.top.at? location = some (.folder entries)) {name : String}
    (busy : Path.isIdle name = false) (proper : name ≠ "..") :
    tree.follow location name =
      if nameLimit < name.utf8ByteSize then .error .nameTooLong
      else if (entries.lookup name).isSome then .ok (location ++ [name])
      else .error .notFound := by
  have undotted : ¬ (name = "" ∨ name = ".") := by
    simpa [Path.isIdle] using busy
  unfold follow
  simp only [folder, if_neg undotted, if_neg proper]

/-- Where a step leads that is not up. -/
theorem follow_ok_cases {next : List String} {piece : String}
    (step : tree.follow location piece = .ok next) (proper : piece ≠ "..") :
    (Path.isIdle piece = true ∧ next = location) ∨
      (Path.isIdle piece = false ∧ next = location ++ [piece] ∧
        (tree.top.at? next).isSome = true) := by
  obtain ⟨entries, folder⟩ := follow_ok_folder step
  cases idle : Path.isIdle piece with
  | true =>
    rw [follow_idle folder idle] at step
    exact .inl ⟨rfl, (Except.ok.inj step).symm⟩
  | false =>
    rw [follow_name folder idle proper] at step
    split at step
    · contradiction
    · split at step
      · rename_i there
        have same := Except.ok.inj step
        refine .inr ⟨rfl, same.symm, ?_⟩
        rw [← same, Node.at?_snoc, folder]
        exact there
      · contradiction

/-- A name that is there and not too long can be followed. -/
theorem follow_of_at? {name : String} (busy : Path.isIdle name = false) (proper : name ≠ "..")
    (short : name.utf8ByteSize ≤ nameLimit)
    (there : (tree.top.at? (location ++ [name])).isSome = true) :
    tree.follow location name = .ok (location ++ [name]) := by
  obtain ⟨inner, found⟩ := Option.isSome_iff_exists.1 there
  obtain ⟨entries, folder⟩ := Node.at?_prefix found (by simp)
  rw [Node.at?_snoc, folder, Option.bind_some] at there
  have listed : (entries.lookup name).isSome = true := there
  rw [follow_name folder busy proper, if_neg (by omega), if_pos listed]

/-- A step leads to something that is there. -/
theorem exists_of_follow {next : List String} {piece : String}
    (step : tree.follow location piece = .ok next) : (tree.top.at? next).isSome = true := by
  obtain ⟨entries, folder⟩ := follow_ok_folder step
  by_cases up : piece = ".."
  · rw [up, follow_up folder] at step
    rw [← Except.ok.inj step]
    cases List.eq_nil_or_concat' location with
    | inl top =>
      rw [top, List.dropLast_nil, ← top, folder]
      rfl
    | inr deeper =>
      obtain ⟨outer, last, split⟩ := deeper
      rw [split] at folder ⊢
      obtain ⟨around, there⟩ := Node.at?_prefix folder (by simp)
      rw [List.dropLast_concat, there]
      rfl
  · cases follow_ok_cases step up with
    | inl still =>
      rw [still.2, folder]
      rfl
    | inr reached => exact reached.2.2

/-- A step that is possible in one tree is possible in another, if there is a folder where it
starts and something where it ends. -/
theorem follow_of_follow {tree' : FileTree} {next : List String} {piece : String}
    (step : tree.follow location piece = .ok next)
    (folder' : ∃ entries', tree'.top.at? location = some (.folder entries'))
    (there : (tree'.top.at? next).isSome = true) : tree'.follow location piece = .ok next := by
  obtain ⟨entries, folder⟩ := follow_ok_folder step
  obtain ⟨entries', folder'⟩ := folder'
  by_cases up : piece = ".."
  · rw [up, follow_up folder] at step
    rw [up, follow_up folder', Except.ok.inj step]
  · cases follow_ok_cases step up with
    | inl still => rw [follow_idle folder' still.1, still.2]
    | inr reached =>
      obtain ⟨busy, same, _⟩ := reached
      have short : piece.utf8ByteSize ≤ nameLimit := by
        by_contra long
        rw [follow_name folder busy up, if_pos (Nat.not_le.1 long)] at step
        contradiction
      rw [same] at there ⊢
      exact follow_of_at? busy up short there

end Steps

/-- Idle pieces lead nowhere else. -/
theorem foldlM_idle {pieces location next : List String}
    (idle : ∀ piece ∈ pieces, Path.isIdle piece = true)
    (walked : pieces.foldlM tree.follow location = .ok next) : next = location := by
  induction pieces generalizing location with
  | nil => exact (Except.ok.inj walked).symm
  | cons piece pieces ih =>
    rw [List.foldlM_cons] at walked
    obtain ⟨middle, step, onward⟩ := bind_eq_ok_iff.1 walked
    obtain ⟨entries, folder⟩ := follow_ok_folder step
    rw [follow_idle folder (idle piece List.mem_cons_self)] at step
    have same := Except.ok.inj step
    rw [← same] at onward
    exact ih (fun other inside => idle other (List.mem_cons_of_mem piece inside)) onward

/-- From a folder idle pieces can be followed. -/
theorem foldlM_of_idle {pieces location : List String} {entries : List (String × Node)}
    (folder : tree.top.at? location = some (.folder entries))
    (idle : ∀ piece ∈ pieces, Path.isIdle piece = true) :
    pieces.foldlM tree.follow location = .ok location := by
  induction pieces with
  | nil => rfl
  | cons piece pieces ih =>
    obtain ⟨first, others⟩ := List.forall_mem_cons.1 idle
    rw [List.foldlM_cons, follow_idle folder first]
    exact ih others

/-- An empty piece at the end changes nothing. -/
theorem foldlM_dropEndEmpty {pieces location next : List String}
    (walked : pieces.foldlM tree.follow location = .ok next) :
    (Path.dropEndEmpty pieces).foldlM tree.follow location = .ok next := by
  rcases Path.dropEndEmpty_eq pieces with ⟨before, same, left⟩ | left
  · rw [same, List.foldlM_append] at walked
    obtain ⟨middle, reached, last⟩ := bind_eq_ok_iff.1 walked
    have idle : ∀ piece ∈ [""], Path.isIdle piece = true := by simp [Path.isIdle]
    rw [left, foldlM_idle idle last]
    exact reached
  · rw [left]
    exact walked

/-- An empty piece may be put at the end where the others lead to a folder. -/
theorem foldlM_of_dropEndEmpty {pieces location next : List String}
    {entries : List (String × Node)} (folder : tree.top.at? next = some (.folder entries))
    (walked : (Path.dropEndEmpty pieces).foldlM tree.follow location = .ok next) :
    pieces.foldlM tree.follow location = .ok next := by
  rcases Path.dropEndEmpty_eq pieces with ⟨before, same, left⟩ | left
  · rw [left] at walked
    rw [same, List.foldlM_append, walked]
    exact foldlM_of_idle folder (by decide)
  · rw [← left]
    exact walked

/-- A path is walked from its base through its pieces; an empty first piece does not count. -/
theorem walk_absolute {rest : List String} (more : rest ≠ []) :
    tree.walk ⟨"", rest⟩ = rest.foldlM tree.follow [] := by
  obtain ⟨piece, others, rfl⟩ := List.exists_cons_of_ne_nil more
  have based : tree.base ⟨"", piece :: others⟩ = [] := rfl
  rw [walk, based, Path.pieces, List.foldlM_cons, List.foldlM_cons]
  cases found : tree.top.at? [] with
  | none =>
    have stuck : ∀ name, tree.follow [] name = .error .notFound := by
      intro name
      unfold follow
      rw [found]
    rw [stuck, stuck]
    rfl
  | some node =>
    cases node with
    | file bytes =>
      have stuck : ∀ name, tree.follow [] name = .error .notAFolder := by
        intro name
        unfold follow
        rw [found]
      rw [stuck, stuck]
      rfl
    | folder entries =>
      rw [follow_idle found rfl]
      rfl

/-- What the system follows is walked. -/
theorem walk_of_locate {path : Path} {location : List String}
    (followed : tree.locate path = .ok location) : tree.walk path = .ok location := by
  unfold locate at followed
  split at followed
  · contradiction
  · split at followed
    · contradiction
    · split at followed
      · contradiction
      · split at followed
        · rename_i absolute
          obtain ⟨first, rest⟩ := path
          have parts : first = "" ∧ rest ≠ [] := by simpa [Path.isAbsolute] using absolute
          rw [parts.1, walk_absolute parts.2]
          exact followed
        · rename_i relative
          rw [walk, base, if_neg relative]
          exact followed

/-- A path that fits and is not empty is followed as it is walked. -/
theorem locate_of_fits {path : Path} (fits : path.Fits) (nonempty : path.isEmpty = false) :
    tree.locate path = tree.walk path := by
  have clean : path.text.toList.contains '\x00' = false := by simpa using fits.1
  unfold locate
  rw [clean, if_neg (by simp), if_neg (Nat.not_lt.2 fits.2), nonempty, if_neg (by simp)]
  split
  · rename_i absolute
    obtain ⟨first, rest⟩ := path
    have parts : first = "" ∧ rest ≠ [] := by simpa [Path.isAbsolute] using absolute
    rw [parts.1, walk_absolute parts.2]
  · rename_i relative
    rw [walk, base, if_neg relative]
    rfl

/-- A path that the system follows fits. -/
theorem fits_of_locate {path : Path} {location : List String}
    (followed : tree.locate path = .ok location) :
    path.Fits ∧ path.isEmpty = false := by
  unfold locate at followed
  split at followed
  · contradiction
  · rename_i clean
    split at followed
    · contradiction
    · rename_i short
      split at followed
      · contradiction
      · rename_i nonempty
        have absent : '\x00' ∉ path.text.toList := by simpa using clean
        exact ⟨⟨absent, Nat.not_lt.1 short⟩, by simpa using nonempty⟩

/-- The system follows a path to where it is walked, if it fits and is not empty. -/
theorem locate_eq_ok_iff {path : Path} {location : List String} :
    tree.locate path = .ok location ↔
      (path.Fits ∧ path.isEmpty = false) ∧ tree.walk path = .ok location := by
  constructor
  · intro followed
    exact ⟨fits_of_locate followed, walk_of_locate followed⟩
  · intro given
    obtain ⟨⟨fits, nonempty⟩, walked⟩ := given
    rw [locate_of_fits fits nonempty, walked]

/-- A name behind a path is walked to from where the path is. -/
theorem base_child {first : String} {rest : List String}
    (nonempty : (Path.mk first rest).isEmpty = false) {name : String} :
    tree.base ⟨first, Path.dropEndEmpty rest ++ [name]⟩ = tree.base ⟨first, rest⟩ := by
  have given : first = "" → rest ≠ [] := by simpa [Path.isEmpty] using nonempty
  unfold base Path.isAbsolute
  by_cases here : first = ""
  · simp [here, given here]
  · simp [here]

/-- A name behind a path is a step from where the path leads. -/
theorem walk_child {path : Path} {location : List String}
    (walked : tree.walk path = .ok location) (name : String) :
    tree.walk (path.child name) = tree.follow location name := by
  cases empty : path.isEmpty with
  | true =>
    have single := Path.isEmpty_iff.1 empty
    rw [Path.child_of_empty empty]
    rw [single] at walked
    have start : tree.follow tree.here "" = .ok location := by
      simpa [walk, base, Path.pieces, Path.ofPiece, Path.isAbsolute] using walked
    obtain ⟨entries, folder⟩ := follow_ok_folder start
    rw [follow_idle folder rfl] at start
    have same := Except.ok.inj start
    simp [walk, base, Path.pieces, Path.ofPiece, Path.isAbsolute, same]
  | false =>
    rw [Path.child_of_nonempty empty]
    obtain ⟨first, rest⟩ := path
    have sameBase : tree.base ⟨first, Path.dropEndEmpty rest ++ [name]⟩ =
        tree.base ⟨first, rest⟩ := base_child empty
    have behind : (first :: Path.dropEndEmpty rest).foldlM tree.follow
        (tree.base ⟨first, rest⟩) = .ok location := by
      rw [walk, Path.pieces, List.foldlM_cons] at walked
      obtain ⟨middle, start, onward⟩ := bind_eq_ok_iff.1 walked
      rw [List.foldlM_cons]
      exact bind_eq_ok_iff.2 ⟨middle, start, foldlM_dropEndEmpty onward⟩
    rw [walk, sameBase, Path.pieces, ← List.cons_append, List.foldlM_append, behind]
    show [name].foldlM tree.follow location = tree.follow location name
    rw [List.foldlM_cons]
    simp only [List.foldlM_nil, bind_pure]

/-- A name behind a path is reached by a step from where the path leads. -/
theorem exists_follow_of_walk_child {path : Path} {location : List String} {name : String}
    (walked : tree.walk (path.child name) = .ok location) :
    ∃ middle, tree.walk path = .ok middle ∧ tree.follow middle name = .ok location := by
  cases empty : path.isEmpty with
  | true =>
    rw [Path.child_of_empty empty] at walked
    have step : tree.follow tree.here name = .ok location := by
      simpa [walk, base, Path.pieces, Path.ofPiece, Path.isAbsolute] using walked
    obtain ⟨entries, folder⟩ := follow_ok_folder step
    rw [Path.isEmpty_iff.1 empty]
    exact ⟨tree.here, foldlM_of_idle folder (by decide), step⟩
  | false =>
    rw [Path.child_of_nonempty empty] at walked
    obtain ⟨first, rest⟩ := path
    have sameBase : tree.base ⟨first, Path.dropEndEmpty rest ++ [name]⟩ =
        tree.base ⟨first, rest⟩ := base_child empty
    rw [walk, sameBase, Path.pieces, List.foldlM_cons, bind_eq_ok_iff] at walked
    obtain ⟨start, first, walked⟩ := walked
    rw [List.foldlM_append, bind_eq_ok_iff] at walked
    obtain ⟨middle, reached, step⟩ := walked
    have step : tree.follow middle name = .ok location := by simpa using step
    obtain ⟨entries, folder⟩ := follow_ok_folder step
    refine ⟨middle, ?_, step⟩
    rw [walk, Path.pieces, List.foldlM_cons, first]
    exact foldlM_of_dropEndEmpty folder reached

/-- A system finds something at a path exactly when it follows it to a node. -/
theorem holds_iff {path : Path} :
    tree.holds path = true ↔
      ∃ location, tree.locate path = .ok location ∧ (tree.top.at? location).isSome = true := by
  unfold holds node?
  cases tree.locate path with
  | error reason => simp [Except.toOption]
  | ok location => simp [Except.toOption]

section Nodes

variable {path : Path} {location : List String}

/-- What a path leads to is at the location that it is walked to. -/
theorem at?_of_node? (walked : tree.walk path = .ok location) {node : Node}
    (found : tree.node? path = some node) : tree.top.at? location = some node := by
  unfold node? at found
  cases followed : tree.locate path with
  | error reason => simp [followed, Except.toOption] at found
  | ok reached =>
    have same := walk_of_locate followed
    rw [walked] at same
    rw [followed, ← Except.ok.inj same] at found
    exact found

/-- A path that is walked to a folder is not the path of a file. -/
theorem isFile_of_folder (walked : tree.walk path = .ok location)
    {entries : List (String × Node)} (folder : tree.top.at? location = some (.folder entries)) :
    tree.isFile path = false := by
  unfold isFile
  cases found : tree.node? path with
  | none => rfl
  | some node =>
    have same := at?_of_node? walked found
    rw [folder] at same
    rw [← Option.some.inj same]
    rfl

/-- A file is no folder. -/
theorem isFolder_of_isFile (file : tree.isFile path = true) :
    tree.isFolder path = false := by
  unfold isFile at file
  unfold isFolder
  cases found : tree.node? path with
  | none => rfl
  | some node => cases node <;> simp_all [Node.isFile, Node.isFolder]

/-- A path that leads to a file leads where it is walked to. -/
theorem locate_of_isFile (walked : tree.walk path = .ok location)
    (file : tree.isFile path = true) : tree.locate path = .ok location := by
  unfold isFile node? at file
  cases followed : tree.locate path with
  | error reason => simp [followed, Except.toOption] at file
  | ok reached =>
    have same := walk_of_locate followed
    rw [walked] at same
    exact same.symm

/-- A path that leads to the location of a file leads to a file. -/
theorem isFile_of_locate (led : tree.locate path = .ok location) {bytes : ByteArray}
    (file : tree.top.at? location = some (.file bytes)) : tree.isFile path = true := by
  have found : tree.node? path = some (.file bytes) := by
    unfold node?
    rw [led]
    exact file
  rw [isFile, found]
  rfl

/-- A path that leads to a folder is walked to one. -/
theorem folder_of_isFolder (walked : tree.walk path = .ok location)
    (folder : tree.isFolder path = true) :
    ∃ entries, tree.top.at? location = some (.folder entries) := by
  unfold isFolder at folder
  cases found : tree.node? path with
  | none => simp [found] at folder
  | some node =>
    cases node with
    | file bytes => simp [found, Node.isFolder] at folder
    | folder entries => exact ⟨entries, at?_of_node? walked found⟩

end Nodes

/-- A path that the system follows to a location leads to what is there. -/
theorem node?_of_locate {path : Path} {location : List String}
    (led : tree.locate path = .ok location) : tree.node? path = tree.top.at? location := by
  rw [node?, led]
  rfl

/-- A path that the system does not follow leads to nothing. -/
theorem node?_of_refused {path : Path} {reason : FileError}
    (refused : tree.locate path = .error reason) : tree.node? path = none := by
  rw [node?, refused]
  rfl

/-- What a path leads to is what is at the location that the system follows it to. -/
theorem node?_eq_some_iff {path : Path} {node : Node} :
    tree.node? path = some node ↔
      ∃ location, tree.locate path = .ok location ∧ tree.top.at? location = some node := by
  unfold node?
  cases tree.locate path with
  | error reason => simp [Except.toOption]
  | ok location => simp [Except.toOption]

section Names

variable {path : Path} {location : List String} {name : String}

/-- A name behind a path that is walked is followed by a step from there. -/
theorem locate_child (walked : tree.walk path = .ok location) (busy : Path.isIdle name = false)
    (fits : (path.child name).Fits) :
    tree.locate (path.child name) = tree.follow location name := by
  rw [locate_of_fits fits (Path.isEmpty_child busy), walk_child walked]

/-- A path that is followed by a step to a name leads to the entry of that name. -/
theorem node?_of_follow (followed : tree.locate path = tree.follow location name)
    (busy : Path.isIdle name = false) (proper : name ≠ "..")
    (short : name.utf8ByteSize ≤ nameLimit) :
    tree.node? path = tree.top.at? (location ++ [name]) := by
  cases there : tree.top.at? (location ++ [name]) with
  | some node =>
    rw [follow_of_at? busy proper short (by rw [there]; rfl)] at followed
    rw [node?_of_locate followed, there]
  | none =>
    cases step : tree.follow location name with
    | error reason => exact node?_of_refused (followed.trans step)
    | ok next =>
      rcases follow_ok_cases step proper with ⟨idle, _⟩ | ⟨_, reached, found⟩
      · rw [busy] at idle
        contradiction
      · rw [reached, there] at found
        contradiction

/-- A name is found behind a path exactly when the folder there has an entry of that name. -/
theorem holds_child_iff (walked : tree.walk path = .ok location)
    (busy : Path.isIdle name = false) (proper : name ≠ "..")
    (short : name.utf8ByteSize ≤ nameLimit) (fits : (path.child name).Fits) :
    tree.holds (path.child name) = true ↔
      (tree.top.at? (location ++ [name])).isSome = true := by
  rw [holds, node?_of_follow (locate_child walked busy fits) busy proper short]

end Names

/-- A path leads to a folder when the system follows it to one. -/
theorem isFolder_iff {path : Path} :
    tree.isFolder path = true ↔ ∃ location, tree.locate path = .ok location ∧
      ∃ entries, tree.top.at? location = some (.folder entries) := by
  rw [isFolder, Option.any_eq_true]
  constructor
  · intro given
    obtain ⟨node, found, folder⟩ := given
    obtain ⟨location, led, there⟩ := node?_eq_some_iff.1 found
    cases node with
    | file bytes => contradiction
    | folder entries => exact ⟨location, led, entries, there⟩
  · intro given
    obtain ⟨location, led, entries, there⟩ := given
    exact ⟨.folder entries, node?_eq_some_iff.2 ⟨location, led, there⟩, rfl⟩

/-- A path holds some bytes when it leads to a file with these bytes. -/
def HoldsBytes (tree : FileTree) (path : Path) (bytes : ByteArray) : Prop :=
  ∃ location, tree.locate path = .ok location ∧ tree.top.at? location = some (.file bytes)

section Holding

variable {path : Path} {bytes : ByteArray}

/-- A path that leads to a file holds its bytes. -/
theorem isFile_iff : tree.isFile path = true ↔ ∃ bytes, tree.HoldsBytes path bytes := by
  unfold isFile node? HoldsBytes
  cases followed : tree.locate path with
  | error reason => simp [Except.toOption]
  | ok location =>
    cases found : tree.top.at? location with
    | none => simp [Except.toOption, found]
    | some node => cases node <;> simp [Except.toOption, found, Node.isFile, Node.isFolder]

/-- A path that leads to a file leads somewhere. -/
theorem holds_of_isFile (file : tree.isFile path = true) : tree.holds path = true := by
  obtain ⟨bytes, location, led, there⟩ := isFile_iff.1 file
  refine holds_iff.2 ⟨location, led, ?_⟩
  rw [there]
  rfl

/-- Reading a file gives the text that its bytes spell. -/
theorem read_of_holdsBytes (held : tree.HoldsBytes path bytes) :
    tree.read path =
      match String.fromUTF8? bytes with
      | some text => .ok text
      | none => .error .notText := by
  obtain ⟨location, followed, found⟩ := held
  unfold FileTree.read
  cases spelled : String.fromUTF8? bytes with
  | none => simp only [followed, found, spelled]
  | some text => simp only [followed, found, spelled]

end Holding

end FileTree

end SarifDigest
