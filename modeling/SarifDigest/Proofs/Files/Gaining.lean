import SarifDigest.Proofs.Files.Lawful

/-!
# Gaining a file

A tree gains a file when one folder of it has one entry more, a file under a name that was free.
Every path that led somewhere leads there still, and a path that leads somewhere else now leads
to the new file. No path leads on from it, so what is said of a whole path can be said of its
last step.
-/
namespace SarifDigest

namespace Node

/-- A node gains a file in the folder at the end of some names, anywhere among the entries of that
folder. On the way there are proper names, each of which is found where the file is put. -/
inductive Gains (name : String) (bytes : ByteArray) : List String → Node → Node → Prop
  | here {before behind : List (String × Node)}
      (fresh : ∀ entry ∈ before ++ behind, entry.1 ≠ name) :
      Gains name bytes [] (.folder (before ++ behind))
        (.folder (before ++ (name, .file bytes) :: behind))
  | inside {before behind : List (String × Node)} {label : String} {folder : List String}
      {inner inner' : Node} (proper : ProperName label) (first : ∀ entry ∈ before, entry.1 ≠ label)
      (gains : Gains name bytes folder inner inner') :
      Gains name bytes (label :: folder) (.folder (before ++ (label, inner) :: behind))
        (.folder (before ++ (label, inner') :: behind))

/-- What gaining a file changes at a location: a folder on the way to the file gains it further
down, the file is there for nothing, and everything else is kept. -/
inductive Effect (name : String) (bytes : ByteArray) (folder : List String) (node node' : Node)
    (location : List String) : Prop
  | onTheWay {rest : List String} {inner inner' : Node} (way : folder = location ++ rest)
      (before : node.at? location = some inner) (after : node'.at? location = some inner')
      (gains : Gains name bytes rest inner inner')
  | gained (new : location = folder ++ [name]) (before : node.at? location = none)
      (after : node'.at? location = some (.file bytes))
  | kept (apart : ¬ location <+: folder) (old : location ≠ folder ++ [name])
      (same : node'.at? location = node.at? location)

variable {name : String} {bytes : ByteArray} {folder : List String} {node node' : Node}

/-- A name that no entry has is not found. -/
theorem lookup_eq_none {entries : List (String × Node)} {wanted : String}
    (fresh : ∀ entry ∈ entries, entry.1 ≠ wanted) : entries.lookup wanted = none := by
  apply List.lookup_eq_none_iff.2
  intro entry inside
  simpa using Ne.symm (fresh entry inside)

/-- An entry in the middle is found under its name when no entry before it has the name. -/
theorem lookup_middle {before behind : List (String × Node)} {label : String} {inner : Node}
    (first : ∀ entry ∈ before, entry.1 ≠ label) :
    (before ++ (label, inner) :: behind).lookup label = some inner := by
  rw [List.lookup_append, lookup_eq_none first]
  simp

/-- An entry in the middle does not change what is found under other names. -/
theorem lookup_middle_of_ne {before behind : List (String × Node)} {label wanted : String}
    (inner : Node) (other : wanted ≠ label) :
    (before ++ (label, inner) :: behind).lookup wanted = (before ++ behind).lookup wanted := by
  have different : (wanted == label) = false := by simpa using other
  rw [List.lookup_append, List.lookup_append, List.lookup_cons, different]

/-- Only a folder gains a file, and it stays one. -/
theorem Gains.folders (gains : Gains name bytes folder node node') :
    (∃ entries, node = .folder entries) ∧ ∃ entries', node' = .folder entries' := by
  cases gains with
  | here => exact ⟨⟨_, rfl⟩, ⟨_, rfl⟩⟩
  | inside => exact ⟨⟨_, rfl⟩, ⟨_, rfl⟩⟩

/-- The names on the way to the file are proper. -/
theorem Gains.proper (gains : Gains name bytes folder node node') :
    ∀ label ∈ folder, ProperName label := by
  induction gains with
  | here => simp
  | inside proper first gains ih => exact List.forall_mem_cons.2 ⟨proper, ih⟩

/-- What a node that gains a file has at a location. -/
theorem Gains.effect (gains : Gains name bytes folder node node') (location : List String) :
    Effect name bytes folder node node' location := by
  -- The induction is on the way to the file. The location ends on it, leaves it or goes beyond.
  induction gains generalizing location with
  | @here before behind fresh =>
    cases location with
    | nil => exact .onTheWay rfl rfl rfl (.here fresh)
    | cons label rest =>
      have apart : ¬ label :: rest <+: [] := by simp
      by_cases named : label = name
      · have absent : (before ++ behind).lookup name = none := lookup_eq_none fresh
        have present : (before ++ (name, Node.file bytes) :: behind).lookup name =
            some (.file bytes) :=
          lookup_middle fun entry inside => fresh entry (List.mem_append_left behind inside)
        have before : (Node.folder (before ++ behind)).at? (label :: rest) = none := by
          rw [named, at?, entries, absent, Option.bind_none]
        cases rest with
        | nil =>
          refine .gained (by rw [named]; rfl) before ?_
          rw [named, at?, entries, present]
          rfl
        | cons next rest =>
          refine .kept apart (by simp) ?_
          rw [before, named, at?, entries, present]
          rfl
      · refine .kept apart (by simp [named]) ?_
        rw [at?, at?, entries, entries, lookup_middle_of_ne _ named]
  | @inside before behind label folder inner inner' proper first gains ih =>
    cases location with
    | nil => exact .onTheWay rfl rfl rfl (.inside proper first gains)
    | cons wanted rest =>
      by_cases same : wanted = label
      · have found : (Node.folder (before ++ (label, inner) :: behind)).at? (label :: rest) =
            inner.at? rest := by rw [at?, entries, lookup_middle first, Option.bind_some]
        have found' : (Node.folder (before ++ (label, inner') :: behind)).at? (label :: rest) =
            inner'.at? rest := by rw [at?, entries, lookup_middle first, Option.bind_some]
        rw [same]
        cases ih rest with
        | onTheWay way before after onward =>
          exact .onTheWay (by rw [way]; rfl) (found.trans before) (found'.trans after) onward
        | gained new before after =>
          exact .gained (by rw [new]; rfl) (found.trans before) (found'.trans after)
        | kept apart old kept =>
          refine .kept ?_ ?_ (by rw [found, found', kept])
          · simpa [List.cons_prefix_cons] using apart
          · simpa using old
      · refine .kept (by simp [List.cons_prefix_cons, same]) (by simp [same]) ?_
        rw [at?, at?, entries, entries, lookup_middle_of_ne _ same, lookup_middle_of_ne _ same]

end Node

namespace FileTree

/-- A tree gains a file of a proper name in one of its folders, and the working folder stays where
it is. -/
structure Gains (tree tree' : FileTree) (folder : List String) (name : String)
    (bytes : ByteArray) : Prop where
  /-- The file has a name that a file may have. -/
  proper : ProperName name
  /-- One folder has one entry more. -/
  top : tree.top.Gains name bytes folder tree'.top
  /-- Relative paths start where they did. -/
  here : tree'.here = tree.here

variable {tree tree' : FileTree} {folder location next : List String} {name piece : String}
  {bytes : ByteArray} (gains : tree.Gains tree' folder name bytes)

include gains

namespace Gains

/-- At the location of the file there is nothing before and the file after. -/
theorem at?_new : tree.top.at? (folder ++ [name]) = none ∧
    tree'.top.at? (folder ++ [name]) = some (.file bytes) := by
  cases gains.top.effect (folder ++ [name]) with
  | onTheWay way => simp at way
  | gained new before after => exact ⟨before, after⟩
  | kept apart old same => exact absurd rfl old

/-- The tree has the folders that it had. -/
theorem folder_iff : (∃ entries, tree.top.at? location = some (.folder entries)) ↔
    ∃ entries', tree'.top.at? location = some (.folder entries') := by
  cases gains.top.effect location with
  | onTheWay way before after onward =>
    obtain ⟨⟨entries, first⟩, ⟨entries', second⟩⟩ := onward.folders
    simp [before, after, first, second]
  | gained new before after => simp [before, after]
  | kept apart old same => rw [same]

/-- The tree has the files that it had, and the new one. -/
theorem file_iff {given : ByteArray} : tree.top.at? location = some (.file given) ↔
    tree'.top.at? location = some (.file given) ∧ location ≠ folder ++ [name] := by
  cases gains.top.effect location with
  | onTheWay way before after onward =>
    obtain ⟨⟨entries, first⟩, ⟨entries', second⟩⟩ := onward.folders
    simp [before, after, first, second]
  | gained new before after => simp [new, gains.at?_new.1]
  | kept apart old same => simp [same, old]

/-- There is something where there was something, and at the new file. -/
theorem isSome_iff : (tree.top.at? location).isSome = true ↔
    (tree'.top.at? location).isSome = true ∧ location ≠ folder ++ [name] := by
  cases gains.top.effect location with
  | onTheWay way before after onward => simp [before, after, way]
  | gained new before after => simp [new, gains.at?_new.1]
  | kept apart old same => simp [same, old]

/-- The steps that are possible are those that were, and those to the new file. -/
theorem follow_iff {next : List String} {piece : String} :
    tree.follow location piece = .ok next ↔
      tree'.follow location piece = .ok next ∧ next ≠ folder ++ [name] := by
  constructor
  · intro step
    have start := gains.folder_iff.1 (follow_ok_folder step)
    have there := gains.isSome_iff.1 (exists_of_follow step)
    exact ⟨follow_of_follow step start there.1, there.2⟩
  · intro given
    obtain ⟨step, old⟩ := given
    have start := gains.folder_iff.2 (follow_ok_folder step)
    exact follow_of_follow step start (gains.isSome_iff.2 ⟨exists_of_follow step, old⟩)

/-- Pieces lead where they did, and to the new file: they do not lead on from it. -/
theorem foldlM_iff {start : List String} {piece : String} {pieces : List String} :
    (piece :: pieces).foldlM tree.follow start = .ok location ↔
      (piece :: pieces).foldlM tree'.follow start = .ok location ∧ location ≠ folder ++ [name] := by
  induction pieces generalizing piece start with
  | nil =>
    rw [List.foldlM_cons, List.foldlM_cons]
    simp only [List.foldlM_nil, bind_pure]
    exact gains.follow_iff
  | cons next pieces ih =>
    rw [List.foldlM_cons, List.foldlM_cons, bind_eq_ok_iff, bind_eq_ok_iff]
    constructor
    · intro walked
      obtain ⟨middle, step, onward⟩ := walked
      obtain ⟨onward', old⟩ := ih.1 onward
      exact ⟨⟨middle, (gains.follow_iff.1 step).1, onward'⟩, old⟩
    · intro walked
      obtain ⟨⟨middle, step, onward⟩, old⟩ := walked
      have onward' := ih.2 ⟨onward, old⟩
      refine ⟨middle, gains.follow_iff.2 ⟨step, ?_⟩, onward'⟩
      -- From the new file there is no step, in either tree.
      intro new
      rw [List.foldlM_cons, bind_eq_ok_iff] at onward'
      obtain ⟨further, step', _⟩ := onward'
      obtain ⟨entries, there⟩ := follow_ok_folder step'
      rw [new, gains.at?_new.1] at there
      contradiction

variable {path : Path}

/-- Paths are walked where they were, and to the new file. -/
theorem walk_iff : tree.walk path = .ok location ↔
    tree'.walk path = .ok location ∧ location ≠ folder ++ [name] := by
  have same : tree'.base path = tree.base path := by rw [base, base, gains.here]
  rw [walk, walk, same]
  exact gains.foldlM_iff

/-- Paths are followed where they were, and to the new file. -/
theorem locate_iff : tree.locate path = .ok location ↔
    tree'.locate path = .ok location ∧ location ≠ folder ++ [name] := by
  rw [locate_eq_ok_iff, locate_eq_ok_iff, gains.walk_iff]
  exact and_assoc.symm

/-- Of a path can be said what could be said where it led before, unless it leads to the new
file. -/
theorem exists_locate_iff {seen seen' : List String → Prop}
    (same : ∀ location, seen location ↔ seen' location ∧ location ≠ folder ++ [name]) :
    (∃ location, tree.locate path = .ok location ∧ seen location) ↔
      (∃ location, tree'.locate path = .ok location ∧ seen' location) ∧
        tree'.locate path ≠ .ok (folder ++ [name]) := by
  constructor
  · intro given
    obtain ⟨location, led, found⟩ := given
    obtain ⟨led', old⟩ := gains.locate_iff.1 led
    refine ⟨⟨location, led', ((same location).1 found).1⟩, ?_⟩
    rw [led']
    simpa using old
  · intro given
    obtain ⟨⟨location, led', found'⟩, other⟩ := given
    have old : location ≠ folder ++ [name] := by
      rw [led'] at other
      simpa using other
    exact ⟨location, gains.locate_iff.2 ⟨led', old⟩, (same location).2 ⟨found', old⟩⟩

/-- The same paths lead anywhere, but for those to the new file. -/
theorem holds_iff : tree.holds path = true ↔
    tree'.holds path = true ∧ tree'.locate path ≠ .ok (folder ++ [name]) := by
  rw [FileTree.holds_iff, FileTree.holds_iff]
  exact gains.exists_locate_iff fun _ => gains.isSome_iff

/-- The same paths hold some bytes, but for those to the new file. -/
theorem holdsBytes_iff {given : ByteArray} : tree.HoldsBytes path given ↔
    tree'.HoldsBytes path given ∧ tree'.locate path ≠ .ok (folder ++ [name]) :=
  gains.exists_locate_iff fun _ => gains.file_iff

/-- The same paths lead to files, but for those to the new one. -/
theorem isFile_iff : tree.isFile path = true ↔
    tree'.isFile path = true ∧ tree'.locate path ≠ .ok (folder ++ [name]) := by
  simp only [FileTree.isFile_iff, gains.holdsBytes_iff, exists_and_right]

/-- The same paths lead to folders. -/
theorem isFolder_eq (path : Path) : tree'.isFolder path = tree.isFolder path := by
  rw [Bool.eq_iff_iff, isFolder_iff, isFolder_iff]
  constructor
  · intro given
    obtain ⟨location, led, there⟩ := given
    have old : location ≠ folder ++ [name] := by
      intro new
      obtain ⟨entries, there⟩ := there
      rw [new, gains.at?_new.2] at there
      cases there
    exact ⟨location, gains.locate_iff.2 ⟨led, old⟩, gains.folder_iff.2 there⟩
  · intro given
    obtain ⟨location, led, there⟩ := given
    exact ⟨location, (gains.locate_iff.1 led).1, gains.folder_iff.1 there⟩

/-- A path that led anywhere reads as it did. -/
theorem read_eq (held : tree.holds path = true) : tree'.read path = tree.read path := by
  obtain ⟨location, led, there⟩ := FileTree.holds_iff.1 held
  have led' := (gains.locate_iff.1 led).1
  unfold read
  rw [led, led']
  cases gains.top.effect location with
  | onTheWay way before after onward =>
    obtain ⟨⟨entries, first⟩, ⟨entries', second⟩⟩ := onward.folders
    simp only [before, after, first, second]
  | gained new before =>
    rw [before] at there
    contradiction
  | kept apart old same => simp only [same]

end Gains

omit gains in
/-- What gaining a file changes at the end of a path: a folder on the way to the file gains it
further down, the path leads to the file where it led nowhere, or it leads to what it led to. -/
inductive NodeEffect (tree tree' : FileTree) (folder : List String) (name : String)
    (bytes : ByteArray) (path : Path) : Prop
  | onTheWay {location rest : List String} {inner inner' : Node} (way : folder = location ++ rest)
      (walked : tree'.walk path = .ok location) (before : tree.node? path = some inner)
      (after : tree'.node? path = some inner') (gains : inner.Gains name bytes rest inner')
  | gained (before : tree.node? path = none) (after : tree'.node? path = some (.file bytes))
  | kept (same : tree'.node? path = tree.node? path)

/-- What a path leads to in a tree that gains a file. -/
theorem Gains.nodeEffect (path : Path) : NodeEffect tree tree' folder name bytes path := by
  cases led' : tree'.locate path with
  | error reason =>
    cases led : tree.locate path with
    | error reason => exact .kept ((node?_of_refused led').trans (node?_of_refused led).symm)
    | ok location =>
      rw [(gains.locate_iff.1 led).1] at led'
      contradiction
  | ok location =>
    have after := node?_of_locate led'
    cases gains.top.effect location with
    | onTheWay way before after' onward =>
      have old : location ≠ folder ++ [name] := by simp [way]
      have led := gains.locate_iff.2 ⟨led', old⟩
      exact .onTheWay way (walk_of_locate led') ((node?_of_locate led).trans before)
        (after.trans after') onward
    | gained new before after' =>
      refine .gained ?_ (after.trans after')
      cases led : tree.locate path with
      | error reason => exact node?_of_refused led
      | ok location' =>
        obtain ⟨led'', old⟩ := gains.locate_iff.1 led
        rw [led'] at led''
        exact absurd ((Except.ok.inj led'').symm.trans new) old
    | kept apart old same =>
      have led := gains.locate_iff.2 ⟨led', old⟩
      exact .kept (after.trans (same.trans (node?_of_locate led).symm))

end FileTree

end SarifDigest
