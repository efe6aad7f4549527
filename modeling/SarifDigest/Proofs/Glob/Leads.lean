import SarifDigest.Proofs.Glob.Expansion

/-!
# Leads of patterns

A lead of a pattern is the components of names that the pattern starts with, when nothing behind
them leads up. Whatever file the search for the pattern finds is spelled as the lead and names of
entries behind it, however the rest of the pattern comes to it.
-/
namespace SarifDigest

namespace Path

/-- Where a path leads in a tree is decided by its front. -/
theorem place_eq_front (tree : FileTree) (path : Path) :
    tree.place path = path.front.foldl (Component.place tree.here) tree.here := by
  unfold FileTree.place front
  split
  · rename_i dot
    rw [dot]
    rfl
  · rfl

/-- Paths with one front are equal in their order, if they have a front. -/
theorem compare_of_front {path other : Path} (given : path.front ≠ [])
    (same : path.front = other.front) : compare path other = .eq := by
  have givenOther : other.front ≠ [] := by
    rw [← same]
    exact given
  rw [compare_eq_iff, components_of_front given, components_of_front givenOther, same]

end Path

namespace Glob

open SarifDigest.Path

variable {tree : FileTree} {path : Path}

/-- A path is spelled behind another: names are all that its front adds. -/
def SpelledBehind (path found : Path) : Prop :=
  ∃ names : List String, found.front = path.front ++ names.map .name

namespace SpelledBehind

/-- A path is spelled behind itself. -/
theorem itself (path : Path) : SpelledBehind path path := ⟨[], by simp⟩

/-- What is spelled behind a path that is spelled behind another is spelled behind the other. -/
theorem trans {middle found : Path} (first : SpelledBehind path middle)
    (second : SpelledBehind middle found) : SpelledBehind path found := by
  obtain ⟨names, led⟩ := first
  obtain ⟨further, onward⟩ := second
  refine ⟨names ++ further, ?_⟩
  rw [onward, led, List.map_append, List.append_assoc]

/-- The path of an entry is spelled behind that of its folder, unless it leads up. -/
theorem entry (path : Path) {name : String} (inner : name ≠ "..") :
    SpelledBehind path (entryPath path name) := by
  cases idle : isIdle name with
  | true =>
    refine ⟨[], ?_⟩
    rw [front_entryPath_of_idle path idle, List.map_nil, List.append_nil]
  | false => exact ⟨[name], front_entryPath_of_busy path idle inner⟩

/-- The path that names of entries lead to is spelled behind the one that they start from. -/
theorem entries (path : Path) {names : List String} (proper : ∀ name ∈ names, ProperName name) :
    SpelledBehind path (names.foldl entryPath path) := by
  induction names generalizing path with
  | nil => exact itself path
  | cons name names ih =>
    obtain ⟨properName, properNames⟩ := List.forall_mem_cons.1 proper
    have first := entry path properName.inner
    exact first.trans (ih (entryPath path name) properNames)

/-- What is found below a path in a lawful tree is spelled behind it. -/
theorem of_mem_belowPath (lawful : tree.top.Lawful) {item : Path × String × Node}
    (listed : item ∈ belowPath tree path) : SpelledBehind path item.1 := by
  unfold belowPath at listed
  split at listed
  · rename_i node found
    obtain ⟨location, _, there⟩ := FileTree.node?_eq_some_iff.1 found
    have lawfulNode := (lawful.descend there).1
    obtain ⟨names, spelled, inner⟩ := at?_of_mem_below lawfulNode listed
    rw [spelled]
    exact entries path (lawfulNode.descend inner).2
  · contradiction

end SpelledBehind

instance (part : Part) : Decidable part.StaysBelow :=
  match part with
  | .name wanted => inferInstanceAs (Decidable (wanted ≠ ".."))
  | .wild tokens => inferInstanceAs (Decidable (dotEntries tokens = []))
  | .folders => inferInstanceAs (Decidable True)

/-- Parts are level when none of them leads up from where it is looked for. A last one with
wildcards may, since it leads to folders then. -/
def Level (parts : List Part) : Prop :=
  (∀ part ∈ parts.dropLast, part.StaysBelow) ∧ parts.getLast? ≠ some (.name "..")

instance (parts : List Part) : Decidable (Level parts) :=
  inferInstanceAs (Decidable (_ ∧ _))

namespace Level

variable {part next : Part} {parts : List Part}

/-- A part of level parts that is not the last stays below. -/
theorem first (level : Level (part :: next :: parts)) : part.StaysBelow :=
  level.1 part List.mem_cons_self

/-- The parts behind the first of level ones are level. -/
theorem tail (level : Level (part :: parts)) : Level parts := by
  cases parts with
  | nil => exact ⟨by simp, by simp⟩
  | cons next parts =>
    refine ⟨fun later inside => level.1 later (List.mem_cons_of_mem part inside), ?_⟩
    exact level.2

/-- A name among level parts does not lead up. -/
theorem name {label : String} (level : Level (.name label :: parts)) : label ≠ ".." := by
  cases parts with
  | nil =>
    rintro rfl
    exact level.2 rfl
  | cons next parts => exact level.first

end Level

/-- A folder itself and the folder around it are no files. -/
theorem isFile_dotEntry {entries : List (String × Node)}
    (there : tree.node? path = some (.folder entries)) {tokens : List Token} {name : String}
    (listed : name ∈ dotEntries tokens) : tree.isFile (path.child name) = false := by
  obtain ⟨location, led, folder⟩ := FileTree.node?_eq_some_iff.1 there
  have walked := FileTree.walk_of_locate led
  have dots : name = ".." ∨ name = "." := by
    unfold dotEntries at listed
    split at listed
    · simpa using (List.mem_filter.1 listed).1
    · contradiction
  rcases dots with rfl | rfl
  · have up : tree.walk (path.child "..") = .ok location.dropLast := by
      rw [FileTree.walk_child walked, FileTree.follow_up folder]
    have around : ∃ others, tree.top.at? location.dropLast = some (.folder others) := by
      rcases List.eq_nil_or_concat' location with rfl | ⟨outer, last, rfl⟩
      · exact ⟨entries, folder⟩
      · rw [List.dropLast_concat]
        exact Node.at?_prefix folder (by simp)
    obtain ⟨others, outside⟩ := around
    exact FileTree.isFile_of_folder up outside
  · have still : tree.walk (path.child ".") = .ok location := by
      rw [FileTree.walk_child walked, FileTree.follow_idle folder (by decide)]
    exact FileTree.isFile_of_folder still folder

/-- Every file that the search for level parts finds is spelled behind the path that it starts
from. -/
theorem spelledBehind_of_mem_expandParts (lawful : tree.top.Lawful) {parts : List Part}
    (level : Level parts) {found : Path} (listed : found ∈ expandParts tree parts path)
    (file : tree.isFile found = true) : SpelledBehind path found := by
  fun_induction expandParts tree parts path with
  | case1 path =>
    rw [List.mem_singleton.1 listed]
    exact .itself path
  | case2 name parts path on ih =>
    exact (SpelledBehind.entry path level.name).trans (ih level.tail listed)
  | case3 name parts path off => contradiction
  | case4 tokens parts path entries there ihDots ih =>
    have lawfulFolder : (Node.folder entries).Lawful := by
      obtain ⟨location, _, folder⟩ := FileTree.node?_eq_some_iff.1 there
      exact (lawful.descend folder).1
    rcases List.mem_append.1 listed with dotted | entry
    · obtain ⟨name, dot, onward⟩ := List.mem_flatMap.1 dotted
      cases parts with
      | nil =>
        -- The dots behind a folder lead to folders.
        have itself := List.mem_singleton.1 onward
        rw [itself, isFile_dotEntry there dot] at file
        contradiction
      | cons next parts =>
        have none : dotEntries tokens = [] := level.first
        rw [none] at dot
        contradiction
    · obtain ⟨⟨name, node⟩, inside, onward⟩ := List.mem_flatMap.1 entry
      dsimp only at onward
      split at onward
      · have proper := (lawfulFolder.entry inside).1
        exact (SpelledBehind.entry path proper.inner).trans (ih name level.tail onward)
      · contradiction
  | case5 tokens parts path none => contradiction
  | case6 path =>
    obtain ⟨⟨spelled, name, node⟩, inside, kept⟩ := List.mem_filterMap.1 listed
    dsimp only at kept
    split at kept
    · rw [← Option.some.inj kept]
      exact .of_mem_belowPath lawful inside
    · contradiction
  | case7 part parts path ih =>
    obtain ⟨⟨spelled, name, node⟩, inside, onward⟩ := List.mem_flatMap.1 listed
    dsimp only at onward
    split at onward
    · exact (SpelledBehind.of_mem_belowPath lawful inside).trans (ih spelled level.tail.tail onward)
    · contradiction

/-- The leads of parts that are looked for behind a front: the front, if the parts are level, and
when they start with a name the leads of the others behind it. -/
def leadsFrom (front : List Component) (parts : List Part) : List (List Component) :=
  (if Level parts then [front] else []) ++
    match parts with
    | .name label :: others => leadsFrom (front ++ (Component.ofLater? label).toList) others
    | _ => []

/-- A lead is the front before level parts, or a lead of the parts behind a name. -/
theorem mem_leadsFrom_iff {front lead : List Component} {parts : List Part} :
    lead ∈ leadsFrom front parts ↔
      Level parts ∧ lead = front ∨ ∃ label others, parts = .name label :: others ∧
        lead ∈ leadsFrom (front ++ (Component.ofLater? label).toList) others := by
  have stopped : lead ∈ (if Level parts then [front] else []) ↔ Level parts ∧ lead = front := by
    split <;> simp_all
  conv_lhs => unfold leadsFrom
  rw [List.mem_append, stopped]
  cases parts with
  | nil => simp
  | cons part others => cases part <;> simp

/-- A file that the search for parts finds is spelled as any of their leads and names of entries
behind it. -/
theorem exists_front_of_lead (lawful : tree.top.Lawful) {parts : List Part}
    {lead : List Component} (led : lead ∈ leadsFrom path.front parts) {found : Path}
    (listed : found ∈ expandParts tree parts path) (file : tree.isFile found = true) :
    ∃ names : List String, found.front = lead ++ names.map .name := by
  induction parts generalizing path with
  | nil =>
    rcases mem_leadsFrom_iff.1 led with ⟨level, rfl⟩ | ⟨label, others, impossible, _⟩
    · exact spelledBehind_of_mem_expandParts lawful level listed file
    · contradiction
  | cons part parts ih =>
    rcases mem_leadsFrom_iff.1 led with ⟨level, rfl⟩ | ⟨label, others, same, onward⟩
    · exact spelledBehind_of_mem_expandParts lawful level listed file
    · cases same
      rw [expandParts] at listed
      split at listed
      · rw [← front_entryPath] at onward
        exact ih onward listed
      · contradiction

/-- Names before level parts are a lead. -/
theorem mem_leadsFrom_names {parts : List Part} (level : Level parts) (front : List Component)
    (names : List String) :
    front ++ names.filterMap Component.ofLater? ∈ leadsFrom front (names.map .name ++ parts) := by
  induction names generalizing front with
  | nil => exact mem_leadsFrom_iff.2 (.inl ⟨level, by simp⟩)
  | cons name names ih =>
    have onward := ih (front ++ (Component.ofLater? name).toList)
    have whole : front ++ (name :: names).filterMap Component.ofLater? =
        front ++ (Component.ofLater? name).toList ++ names.filterMap Component.ofLater? := by
      cases given : Component.ofLater? name <;> simp [given]
    rw [whole]
    exact mem_leadsFrom_iff.2 (.inr ⟨name, _, rfl, onward⟩)

/-- The leads of a pattern. -/
def Pattern.leads (pattern : Pattern) : List (List Component) :=
  leadsFrom (if pattern.absolute then [.top] else []) pattern.parts

/-- A file that a pattern leads to is spelled as any lead of the pattern and names of entries
behind it. -/
theorem Pattern.exists_front_of_lead (lawful : tree.top.Lawful) {pattern : Pattern}
    {lead : List Component} (led : lead ∈ pattern.leads) {found : Path}
    (listed : found ∈ pattern.expand tree) (file : tree.isFile found = true) :
    ∃ names : List String, found.front = lead ++ names.map .name := by
  have among := (List.mem_filter.1 listed).1
  have start : (if pattern.absolute then Path.top else Path.here).front =
      if pattern.absolute then [.top] else [] := by
    cases pattern.absolute <;> decide
  unfold leads at led
  rw [← start] at led
  exact Glob.exists_front_of_lead lawful led among file

end Glob

end SarifDigest
