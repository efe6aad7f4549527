import SarifDigest.Proofs.Files.Gaining
import SarifDigest.Proofs.Glob.Expansion

/-!
# Expanding patterns in a tree that gains a file

A search visits the entries of a tree in some order. In a tree that gains a file it visits one
entry more, and from that entry it goes no further. So a pattern finds the files that it found, in
the order in which it found them, and perhaps the new one among them.
-/
namespace SarifDigest.Glob

/-- A list gains nothing, or one item of a kind anywhere. -/
inductive Adds {α : Type} (extra : α → Prop) : List α → List α → Prop
  | none {list : List α} : Adds extra list list
  | one {front back : List α} {item : α} (kind : extra item) :
      Adds extra (front ++ back) (front ++ item :: back)

namespace Adds

variable {α β : Type} {extra : α → Prop} {list list' : List α}

/-- What a list gains it gains between others. -/
theorem between (adds : Adds extra list list') (before behind : List α) :
    Adds extra (before ++ (list ++ behind)) (before ++ (list' ++ behind)) := by
  cases adds with
  | none => exact .none
  | @one front back item kind =>
    have gained : Adds extra ((before ++ front) ++ (back ++ behind))
        ((before ++ front) ++ item :: (back ++ behind)) := .one kind
    simpa using gained

/-- An item of one kind is an item of another when the one kind is of the other. -/
theorem weaken {wider : α → Prop} (adds : Adds extra list list')
    (within : ∀ item, extra item → wider item) : Adds wider list list' := by
  cases adds with
  | none => exact .none
  | one kind => exact .one (within _ kind)

/-- When nothing is kept of what an additional item leads to, what is kept is the same. -/
theorem filter_flatMap (adds : Adds extra list list') {keep : β → Bool} {find find' : α → List β}
    (same : ∀ item, (find' item).filter keep = (find item).filter keep)
    (nothing : ∀ item, extra item → (find' item).filter keep = []) :
    (list'.flatMap find').filter keep = (list.flatMap find).filter keep := by
  rw [List.filter_flatMap, List.filter_flatMap, ← funext same]
  cases adds with
  | none => rfl
  | one kind => simp [nothing _ kind]

end Adds

section Below

variable {name : String} {bytes : ByteArray} {folder : List String} {node node' : Node}

/-- What a search sees of an entry below a path: where it is, its name and whether it is a
folder. -/
def seen (item : Path × String × Node) : Path × String × Bool :=
  (item.1, item.2.1, item.2.2.isFolder)

/-- Entries behind others. -/
theorem belowEntries_append (path : Path) (entries others : List (String × Node)) :
    belowEntries path (entries ++ others) =
      belowEntries path entries ++ belowEntries path others := by
  induction entries with
  | nil => rfl
  | cons entry entries ih =>
    rw [List.cons_append, belowEntries, belowEntries, ih, List.append_assoc]

/-- Below a node that gains a file one entry more is seen. -/
theorem below_gains (gains : node.Gains name bytes folder node') (path : Path) :
    Adds (· = ((folder ++ [name]).foldl entryPath path, name, false))
      ((below path node).map seen) ((below path node').map seen) := by
  induction gains generalizing path with
  | @here before behind fresh =>
    rw [below, below, belowEntries_append, belowEntries_append, belowEntries, below,
      List.map_append, List.map_append]
    exact .one rfl
  | @inside before behind label folder inner inner' proper first gains ih =>
    obtain ⟨⟨entries, was⟩, ⟨entries', is⟩⟩ := gains.folders
    have alike : inner'.isFolder = inner.isFolder := by rw [was, is]; rfl
    have further := (ih (entryPath path label)).between
      ((belowEntries path before).map seen ++ [(entryPath path label, label, inner.isFolder)])
      ((belowEntries path behind).map seen)
    rw [below, below, belowEntries_append, belowEntries_append, belowEntries, belowEntries]
    simpa [seen, alike] using further

end Below

section Expansion

variable {tree : FileTree} {tokens : List Token} {part : Part} {parts : List Part} {path : Path}

/-- A part with wildcards is compared with the names of the entries of a folder. -/
theorem expandParts_wild {entries : List (String × Node)}
    (found : tree.node? path = some (.folder entries)) :
    expandParts tree (.wild tokens :: parts) path =
      (dotEntries tokens).flatMap (fun entry => expandParts tree parts (path.child entry)) ++
        (entries.map Prod.fst).flatMap fun entry =>
          if matchesName tokens entry.toList then expandParts tree parts (entryPath path entry)
          else [] := by
  rw [List.flatMap_map]
  simp only [expandParts, found]

/-- Where there is no folder a part with wildcards leads to nothing. -/
theorem expandParts_wild_of_none
    (none : ∀ entries, tree.node? path ≠ some (.folder entries)) :
    expandParts tree (.wild tokens :: parts) path = [] := by
  rw [expandParts]
  split
  · rename_i entries found
    exact absurd found (none entries)
  · rfl

/-- Two stars at the end lead to the folders that are seen below a path. -/
theorem expandParts_folders_nil :
    expandParts tree [.folders] path =
      ((belowPath tree path).map seen).flatMap fun item =>
        if item.2.2 then [item.1] else [] := by
  rw [List.flatMap_map, expandParts, List.filterMap_eq_flatMap_toList]
  congr 1
  funext item
  by_cases inner : item.2.2.isFolder = true <;> simp [seen, inner]

/-- Two stars before a part lead to the entries that are seen below a path and that the part
admits. -/
theorem expandParts_folders_cons :
    expandParts tree (.folders :: part :: parts) path =
      ((belowPath tree path).map seen).flatMap fun item =>
        if part.admits item.2.1 then expandParts tree parts item.1 else [] := by
  rw [List.flatMap_map, expandParts]
  rfl

/-- Nothing is found behind a file. -/
theorem expandParts_of_file {location : List String} {bytes : ByteArray}
    (walked : tree.walk path = .ok location) (file : tree.top.at? location = some (.file bytes))
    (part : Part) (parts : List Part) : expandParts tree (part :: parts) path = [] := by
  have noFolder : ∀ entries, tree.node? path ≠ some (.folder entries) := by
    intro entries found
    have there := FileTree.at?_of_node? walked found
    rw [file] at there
    cases there
  have nothingBelow : belowPath tree path = [] := by
    unfold belowPath
    cases found : tree.node? path with
    | none => rfl
    | some node =>
      cases node with
      | file bytes => simp only [below]
      | folder entries => exact absurd found (noFolder entries)
  cases part with
  | name wanted =>
    have off : ¬ leadsOn tree path wanted = true := by
      intro on
      obtain ⟨next, step⟩ := exists_follow_of_leadsOn walked on
      obtain ⟨entries, there⟩ := FileTree.follow_ok_folder step
      rw [file] at there
      cases there
    rw [expandParts, if_neg off]
  | wild tokens => exact expandParts_wild_of_none noFolder
  | folders =>
    cases parts with
    | nil => rw [expandParts, nothingBelow, List.filterMap_nil]
    | cons part parts => rw [expandParts, nothingBelow, List.flatMap_nil]

end Expansion

variable {tree tree' : FileTree} {folder : List String} {name : String} {bytes : ByteArray}

section Gains

variable (gains : tree.Gains tree' folder name bytes)

include gains

/-- Among what is found from the new file no file is an old one. -/
theorem filter_expandParts_of_new {path : Path}
    (walked : tree'.walk path = .ok (folder ++ [name])) (parts : List Part) :
    (expandParts tree' parts path).filter tree.isFile = [] := by
  cases parts with
  | nil =>
    have absent : tree.isFile path = false := by
      rw [Bool.eq_false_iff]
      intro file
      obtain ⟨held, location, led, _⟩ := FileTree.isFile_iff.1 file
      obtain ⟨walked', old⟩ := gains.walk_iff.1 (FileTree.walk_of_locate led)
      rw [walked] at walked'
      exact old (Except.ok.inj walked').symm
    simp [expandParts, absent]
  | cons part parts =>
    rw [expandParts_of_file walked gains.at?_new.2, List.filter_nil]

/-- A name leads on where it did, or to the new file. -/
theorem leadsOn_gains (path : Path) (wanted : String) :
    leadsOn tree' path wanted = leadsOn tree path wanted ∨
      leadsOn tree path wanted = false ∧
        tree'.walk (entryPath path wanted) = .ok (folder ++ [name]) := by
  unfold leadsOn
  split
  · exact .inl (gains.isFolder_eq path)
  · by_cases new : tree'.locate (entryPath path wanted) = .ok (folder ++ [name])
    · refine .inr ⟨?_, FileTree.walk_of_locate new⟩
      rw [Bool.eq_false_iff]
      intro held
      exact (gains.holds_iff.1 held).2 new
    · left
      rw [Bool.eq_iff_iff, gains.holds_iff]
      simp [new]

/-- In a folder the entries are seen that were seen there, and perhaps the new file. -/
theorem entries_gains {path : Path} {entries' : List (String × Node)}
    (found : tree'.node? path = some (.folder entries')) :
    ∃ entries, tree.node? path = some (.folder entries) ∧
      Adds (fun entry => tree'.walk (entryPath path entry) = .ok (folder ++ [name]))
        (entries.map Prod.fst) (entries'.map Prod.fst) := by
  cases gains.nodeEffect path with
  | @onTheWay location rest inner inner' way walked was is onward =>
    rw [found, Option.some.injEq] at is
    cases onward with
    | @here before behind fresh =>
      have step := FileTree.follow_of_proper gains.proper (by rw [gains.at?_new.2]; rfl)
      rw [List.append_nil] at way
      rw [way] at step
      refine ⟨before ++ behind, was, ?_⟩
      rw [Node.folder.inj is, List.map_append, List.map_append, List.map_cons]
      apply Adds.one
      rw [walk_entryPath walked, step, way]
    | @inside before behind label folder inner inner' proper first onward =>
      refine ⟨before ++ (label, inner) :: behind, was, ?_⟩
      rw [Node.folder.inj is, List.map_append, List.map_append, List.map_cons, List.map_cons]
      exact .none
  | gained before after =>
    rw [found] at after
    cases after
  | kept same => exact ⟨entries', same.symm.trans found, .none⟩

/-- Below a path the entries are seen that were seen there, and perhaps the new file. -/
theorem belowPath_gains (path : Path) :
    Adds (fun item => item.2.2 = false ∧ tree'.walk item.1 = .ok (folder ++ [name]))
      ((belowPath tree path).map seen) ((belowPath tree' path).map seen) := by
  unfold belowPath
  cases gains.nodeEffect path with
  | @onTheWay location rest inner inner' way walked before after onward =>
    rw [before, after]
    apply (below_gains onward path).weaken
    intro item same
    have proper : ∀ label ∈ rest ++ [name], ProperName label := by
      simpa [or_imp, forall_and] using ⟨onward.proper, gains.proper⟩
    have there : tree'.top.at? (location ++ (rest ++ [name])) = some (.file bytes) := by
      rw [← List.append_assoc, ← way]
      exact gains.at?_new.2
    have led := (Below.of_proper walked proper there).walked
    rw [same, way, List.append_assoc]
    exact ⟨rfl, led⟩
  | gained before after =>
    rw [before, after]
    simp only [below]
    exact .none
  | kept same =>
    rw [same]
    exact .none

/-- A search finds the files that it found, in the order in which it found them. -/
theorem filter_expandParts (parts : List Part) (path : Path) :
    (expandParts tree' parts path).filter tree.isFile =
      (expandParts tree parts path).filter tree.isFile := by
  -- The new file may be named by a part, or seen among the entries that a part is compared with.
  -- Each time the search ends there at the latest, and the file itself is not an old one.
  induction parts, path using expandParts.induct tree' with
  | case1 path => rw [expandParts, expandParts]
  | case2 wanted parts path on ih =>
    rw [expandParts, expandParts, if_pos on]
    cases leadsOn_gains gains path wanted with
    | inl same =>
      rw [← same, if_pos on]
      exact ih
    | inr new =>
      rw [new.1, if_neg (by simp), filter_expandParts_of_new gains new.2, List.filter_nil]
  | case3 wanted parts path off =>
    rw [expandParts, expandParts, if_neg off]
    cases leadsOn_gains gains path wanted with
    | inl same => rw [← same, if_neg off]
    | inr new => rw [new.1, if_neg (by simp)]
  | case4 tokens parts path entries' found dots others =>
    obtain ⟨entries, found', adds⟩ := entries_gains gains found
    rw [expandParts_wild found, expandParts_wild found', List.filter_append, List.filter_append]
    congr 1
    · rw [List.filter_flatMap, List.filter_flatMap, funext dots]
    · apply adds.filter_flatMap
      · intro entry
        split
        · exact others entry
        · rfl
      · intro entry new
        split
        · exact filter_expandParts_of_new gains new parts
        · rfl
  | case5 tokens parts path none' =>
    have none : ∀ entries, tree.node? path ≠ some (.folder entries) := by
      intro entries found
      cases gains.nodeEffect path with
      | onTheWay way walked was is onward =>
        obtain ⟨_, entries', folder'⟩ := onward.folders
        rw [folder'] at is
        exact none' entries' is
      | gained was is =>
        rw [was] at found
        contradiction
      | kept same => exact none' entries (same.trans found)
    rw [expandParts_wild_of_none none', expandParts_wild_of_none none]
  | case6 path =>
    rw [expandParts_folders_nil, expandParts_folders_nil]
    apply (belowPath_gains gains path).filter_flatMap
    · intro item
      rfl
    · intro item new
      rw [new.1]
      rfl
  | case7 part parts path ih =>
    rw [expandParts_folders_cons, expandParts_folders_cons]
    apply (belowPath_gains gains path).filter_flatMap
    · intro item
      split
      · exact ih item.1
      · rfl
    · intro item new
      split
      · exact filter_expandParts_of_new gains new.2 parts
      · rfl

/-- A pattern leads to the files that it led to. -/
theorem filter_expand (pattern : Pattern) :
    (pattern.expand tree').filter tree.isFile = (pattern.expand tree).filter tree.isFile := by
  unfold Pattern.expand
  simp only [gains.isFolder_eq]
  rw [List.filter_comm, filter_expandParts gains, List.filter_comm]

end Gains

end SarifDigest.Glob
