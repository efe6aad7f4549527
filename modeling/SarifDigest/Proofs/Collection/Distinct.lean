import SarifDigest.Proofs.Collection.Accounting
import SarifDigest.Proofs.Collection.RelativePatterns
import SarifDigest.Proofs.Glob.Leads

/-!
# Files that several patterns lead to

A file that several patterns lead to is one target when the patterns spell it alike: targets are
told apart by their components, and two dots are a component that is never resolved. Patterns
spell a file alike when they have a lead in common, and no file is led to by both of two patterns
with leads apart. Then every file that is matched is read, or fails, once.
-/
namespace SarifDigest

open Glob

namespace FileTree

variable {tree : FileTree} {root : Path} {patterns : List String}

/-- A path that leads to a file leads to its place. -/
theorem locate_eq_place {path : Path} (file : tree.isFile path = true) :
    tree.locate path = .ok (tree.place path) := by
  obtain ⟨bytes, location, led, _⟩ := isFile_iff.1 file
  rw [led, place_of_locate led]

/-- A path that leads to a file has a front. -/
theorem front_of_isFile {path : Path} (file : tree.isFile path = true) : path.front ≠ [] := by
  obtain ⟨bytes, location, led, there⟩ := isFile_iff.1 file
  intro none
  have relative : path.isAbsolute = false := by
    cases absolute : path.isAbsolute with
    | false => rfl
    | true => simp [Path.front, Path.components, absolute] at none
  -- It would lead to the working folder.
  obtain ⟨entries, folder⟩ := base_folder (walk_of_locate led)
  have place := place_of_locate led
  rw [Path.place_eq_front, none] at place
  have start : tree.here = location := place
  have base : tree.base path = location := by
    rw [FileTree.base, relative]
    exact start
  rw [base, there] at folder
  simp at folder

/-- Where a lead leads. -/
def leadPlace (tree : FileTree) (lead : List Component) : List String :=
  lead.foldl (Component.place tree.here) tree.here

/-- Names lead from a location to the entries that they are of. -/
theorem foldl_place_names (here location names : List String) :
    (names.map Component.name).foldl (Component.place here) location = location ++ names := by
  induction names generalizing location with
  | nil => simp
  | cons name names ih =>
    rw [List.map_cons, List.foldl_cons, ih, Component.place, List.append_assoc]
    rfl

/-- A file that is spelled as a lead and names behind it has its place below that of the lead. -/
theorem place_of_lead {path : Path} {lead : List Component} {names : List String}
    (spelled : path.front = lead ++ names.map .name) :
    tree.place path = tree.leadPlace lead ++ names := by
  rw [Path.place_eq_front, spelled, List.foldl_append, foldl_place_names]
  rfl

/-- Leads are apart when neither leads to where the other does, or to a place below. -/
def Apart (tree : FileTree) (lead other : List Component) : Prop :=
  ¬ tree.leadPlace lead <+: tree.leadPlace other ∧ ¬ tree.leadPlace other <+: tree.leadPlace lead

instance (lead other : List Component) : Decidable (tree.Apart lead other) :=
  inferInstanceAs (Decidable (_ ∧ _))

/-- Patterns agree in a tree when any two of them have a lead in common or leads apart. -/
def Agree (tree : FileTree) (patterns : List Pattern) : Prop :=
  ∀ pattern ∈ patterns, ∀ other ∈ patterns, ∃ lead ∈ pattern.leads, ∃ lead' ∈ other.leads,
    lead = lead' ∨ tree.Apart lead lead'

instance (patterns : List Pattern) : Decidable (tree.Agree patterns) :=
  inferInstanceAs (Decidable (∀ pattern ∈ patterns, ∀ other ∈ patterns,
    ∃ lead ∈ pattern.leads, ∃ lead' ∈ other.leads, lead = lead' ∨ tree.Apart lead lead'))

/-- Files with one place are spelled alike when their leads are one. Their leads are never apart,
for the place would be below both. -/
theorem front_of_place {path other : Path} {lead lead' : List Component}
    {names names' : List String} (spelled : path.front = lead ++ names.map .name)
    (spelledOther : other.front = lead' ++ names'.map .name)
    (alike : lead = lead' ∨ tree.Apart lead lead') (same : tree.place path = tree.place other) :
    path.front = other.front := by
  rw [place_of_lead spelled, place_of_lead spelledOther] at same
  rcases alike with common | apart
  · rw [common] at same
    have sameNames : names = names' := List.append_cancel_left same
    rw [spelled, spelledOther, common, sameNames]
  · have below : tree.leadPlace lead <+: tree.leadPlace lead' ++ names' := by
      rw [← same]
      exact List.prefix_append _ names
    have belowOther : tree.leadPlace lead' <+: tree.leadPlace lead' ++ names' :=
      List.prefix_append _ names'
    cases List.prefix_or_prefix_of_prefix below belowOther with
    | inl inside => exact absurd inside apart.1
    | inr around => exact absurd around apart.2

end FileTree

/-- The patterns below a root that may lead to files. -/
def filePatterns (root : Path) (patterns : List String) : List Pattern :=
  patterns.filterMap fun pattern =>
    (patternBelow root pattern).toOption.filter fun read => !read.foldersOnly

section Targets

variable {tree : FileTree} {root : Path} {patterns : List String}

/-- A file that is matched is what one of these patterns leads to. -/
theorem exists_filePattern {path : Path}
    (matched : path ∈ patterns.flatMap (matchedFiles tree root)) :
    tree.isFile path = true ∧ ∃ read ∈ filePatterns root patterns, path ∈ read.expand tree := by
  obtain ⟨pattern, given, listed⟩ := List.mem_flatMap.1 matched
  unfold matchedFiles at listed
  split at listed
  · rename_i read joined
    obtain ⟨expanded, file⟩ := List.mem_filter.1 listed
    refine ⟨file, read, ?_, expanded⟩
    have kept := (List.mem_filter.1 expanded).2
    rw [FileTree.isFolder_of_isFile file, Bool.or_false] at kept
    refine List.mem_filterMap.2 ⟨pattern, given, ?_⟩
    rw [joined]
    exact Option.filter_eq_some_iff.2 ⟨rfl, kept⟩
  · contradiction

/-- The places of the files that patterns match. -/
def matchedPlaces (tree : FileTree) (root : Path) (patterns : List String) :
    Finset (List String) :=
  ((patterns.flatMap (matchedFiles tree root)).map tree.place).toFinset

/-- Targets denote files once when no two of them lead to one file. -/
def FileTree.DenotedOnce (tree : FileTree) (targets : OrderedSet Path) : Prop :=
  ∀ target ∈ targets.toList, ∀ other ∈ targets.toList,
    tree.locate target = tree.locate other → target = other

/-- The places of the targets are those of all files that are matched. -/
theorem toFinset_place_targets :
    ((targets tree root patterns).toList.map tree.place).toFinset =
      matchedPlaces tree root patterns := by
  unfold matchedPlaces
  ext place
  rw [List.mem_toFinset, List.mem_toFinset, List.mem_map, List.mem_map]
  constructor
  · intro given
    obtain ⟨target, inside, same⟩ := given
    exact ⟨target, OrderedSet.mem_of_mem_ofList inside, same⟩
  · intro given
    obtain ⟨path, matched, same⟩ := given
    obtain ⟨target, inside, alike⟩ := OrderedSet.exists_mem_ofList matched
    refine ⟨target, inside, ?_⟩
    rw [← same, FileTree.place_of_compare alike]

/-- There are as many targets as different files exactly when files are denoted once. -/
theorem size_targets_eq_card_iff :
    (targets tree root patterns).size = (matchedPlaces tree root patterns).card ↔
      tree.DenotedOnce (targets tree root patterns) := by
  have increasing := (targets tree root patterns).increasing
  have places : tree.DenotedOnce (targets tree root patterns) ↔
      ((targets tree root patterns).toList.map tree.place).Nodup := by
    rw [List.nodup_map_iff_inj_on increasing.nodup]
    refine forall₄_congr fun target inside other insideOther => ?_
    rw [FileTree.locate_eq_place (isFile_of_mem_targets inside),
      FileTree.locate_eq_place (isFile_of_mem_targets insideOther), Except.ok.injEq]
  have counted := @Multiset.toFinset_card_eq_card_iff_nodup _ _
    ((targets tree root patterns).toList.map tree.place : Multiset (List String))
  rw [places, ← toFinset_place_targets, eq_comm]
  simpa [OrderedSet.size] using counted

/-- In a lawful tree patterns that agree lead to every file by one target. -/
theorem denotedOnce_of_agree (lawful : tree.top.Lawful)
    (agree : tree.Agree (filePatterns root patterns)) :
    tree.DenotedOnce (targets tree root patterns) := by
  intro target inside other insideOther sameLocation
  obtain ⟨file, read, given, listed⟩ :=
    exists_filePattern (OrderedSet.mem_of_mem_ofList inside)
  obtain ⟨fileOther, readOther, givenOther, listedOther⟩ :=
    exists_filePattern (OrderedSet.mem_of_mem_ofList insideOther)
  rw [FileTree.locate_eq_place file, FileTree.locate_eq_place fileOther] at sameLocation
  obtain ⟨lead, led, lead', led', alike⟩ := agree read given readOther givenOther
  obtain ⟨names, spelled⟩ := Pattern.exists_front_of_lead lawful led listed file
  obtain ⟨names', spelledOther⟩ :=
    Pattern.exists_front_of_lead lawful led' listedOther fileOther
  have front := FileTree.front_of_place spelled spelledOther alike (Except.ok.inj sameLocation)
  have equal := Path.compare_of_front (FileTree.front_of_isFile file) front
  exact (targets tree root patterns).increasing.eq_of_compare inside insideOther equal

/-- When files are denoted once, the targets that are read and those that fail are as many as the
different files that are matched. -/
theorem files_add_failing_of_once (once : tree.DenotedOnce (targets tree root patterns))
    (reporter : String) :
    (collect tree root patterns reporter).summary.files +
      ((targets tree root patterns).toList.filter (isFailing tree reporter)).length =
        (matchedPlaces tree root patterns).card := by
  rw [← size_targets_eq_card_iff.2 once]
  exact readCount_add_failing tree reporter (targets tree root patterns).toList

/-- In a lawful tree patterns that agree lead to every file by one target, so that the targets that
are read and those that fail are as many as the different files that are matched. -/
theorem targets_denotedOnce (lawful : tree.top.Lawful)
    (agree : tree.Agree (filePatterns root patterns)) :
    tree.DenotedOnce (targets tree root patterns) ∧ ∀ reporter,
      (collect tree root patterns reporter).summary.files +
        ((targets tree root patterns).toList.filter (isFailing tree reporter)).length =
          (matchedPlaces tree root patterns).card := by
  have once := denotedOnce_of_agree lawful agree
  exact ⟨once, files_add_failing_of_once once⟩

/-- Relative patterns that are level agree below a root that is spelled without wildcards: all have
the root as a lead. -/
theorem agree_of_plain (nonempty : root.isEmpty = false) (plain : root.Plain)
    (level : ∀ pattern ∈ patterns, (Path.ofText pattern).isAbsolute = false ∧
      ∀ read, Pattern.ofPath (.ofText pattern) = .ok read → Level read.parts) :
    tree.Agree (filePatterns root patterns) := by
  let lead := (if root.isAbsolute then [.top] else []) ++
    root.labels.filterMap Component.ofLater?
  have leads : ∀ read ∈ filePatterns root patterns, lead ∈ read.leads := by
    intro joined listed
    obtain ⟨pattern, given, kept⟩ := List.mem_filterMap.1 listed
    obtain ⟨below, files⟩ := Option.filter_eq_some_iff.1 kept
    have joinedRead : patternBelow root pattern = .ok joined := by
      cases found : patternBelow root pattern with
      | error fault => simp [found, Except.toOption] at below
      | ok other => simpa [found, Except.toOption] using below
    obtain ⟨read, valid⟩ :=
      exists_ofPath (wellFormed_of_ofPath_join (Path.separated_ofText pattern) joinedRead)
    obtain ⟨relative, levelParts⟩ := level pattern given
    obtain ⟨other, whole, cases⟩ :=
      FileTree.patternBelow_cases nonempty plain relative valid
    have same : other = joined := Except.ok.inj (whole.symm.trans joinedRead)
    rw [same] at cases
    rcases cases with ⟨folders, _⟩ | ⟨_, parts⟩
    · rw [folders] at files
      contradiction
    · rw [parts]
      exact mem_leadsFrom_names (levelParts read valid) _ root.labels
  intro read inside other insideOther
  exact ⟨lead, leads read inside, lead, leads other insideOther, .inl rfl⟩

/-- Below a root that is spelled without wildcards relative patterns need only be level, and there
may be malformed ones among them: each file is one target, and is read or fails once. -/
theorem denotedOnce_of_plain (lawful : tree.top.Lawful) (nonempty : root.isEmpty = false)
    (plain : root.Plain)
    (level : ∀ pattern ∈ patterns, (Path.ofText pattern).isAbsolute = false ∧
      ∀ read, Pattern.ofPath (.ofText pattern) = .ok read → Level read.parts) :
    tree.DenotedOnce (targets tree root patterns) ∧ ∀ reporter,
      (collect tree root patterns reporter).summary.files +
        ((targets tree root patterns).toList.filter (isFailing tree reporter)).length =
          (matchedPlaces tree root patterns).card := by
  have once := denotedOnce_of_agree lawful (agree_of_plain nonempty plain level)
  exact ⟨once, files_add_failing_of_once once⟩

end Targets

/-- A working folder with a report and a folder with another, and a folder beside it with a file
that is no report. -/
def besideTree : FileTree where
  top := .folder [
    ("old", .folder [("b.sarif", .file .empty)]),
    ("work", .folder [
      ("a.sarif", FileTree.shortFile),
      ("sub", FileTree.singleFolder)])]
  here := ["work"]

/-- Its names are proper and distinct. -/
theorem besideTree_lawful : besideTree.top.Lawful := by
  have file (bytes : ByteArray) : (Node.file bytes).Lawful := .file
  have short : FileTree.shortFile.Lawful := .file
  have single : FileTree.singleFolder.Lawful := .folder (by decide) (by decide) (by simp [short])
  have old : (Node.folder [("b.sarif", .file .empty)]).Lawful :=
    .folder (by decide) (by decide) (by simp [file])
  have work : (Node.folder [("a.sarif", FileTree.shortFile),
      ("sub", FileTree.singleFolder)]).Lawful :=
    .folder (by decide) (by decide) (by simp [short, single])
  exact .folder (by decide) (by decide) (by simp [old, work])

/-- Patterns for the reports of that tree, which lead to one of them four times and to the others
twice. -/
def overlappingPatterns : List String :=
  ["*.sarif", "./a.sarif", "**/*.sarif", "sub/x.sarif", "a.sarif", "/old/*.sarif", "/old//b.*"]

/-- From a folder that is spelled with a detour each of the three files is one target; two are read
and one fails. -/
theorem targets_denotedOnce_overlapping :
    besideTree.Agree (filePatterns (.ofText "sub/..") overlappingPatterns) ∧
    (targets besideTree (.ofText "sub/..") overlappingPatterns).toList =
      [.ofText "/old/b.sarif", .ofText "sub/../a.sarif", .ofText "sub/../sub/x.sarif"] ∧
    besideTree.DenotedOnce (targets besideTree (.ofText "sub/..") overlappingPatterns) ∧
    (collect besideTree (.ofText "sub/..") overlappingPatterns "Sarif").summary.files = 2 ∧
    (matchedPlaces besideTree (.ofText "sub/..") overlappingPatterns).card = 3 := by
  have agree : besideTree.Agree (filePatterns (.ofText "sub/..") overlappingPatterns) := by
    decide +kernel
  obtain ⟨once, counted⟩ := targets_denotedOnce besideTree_lawful agree
  refine ⟨agree, by decide +kernel, once, by decide +kernel, ?_⟩
  rw [← counted "Sarif"]
  decide +kernel

/-- A folder with a report and another folder. -/
def detourTree : FileTree where
  top := .folder [("a.sarif", FileTree.shortFile), ("sub", .folder [("b", FileTree.shortFile)])]
  here := []

/-- Patterns that lead to the report at once, and through the other folder. -/
def detourPatterns : List String := ["a.sarif", "sub/../a.sarif"]

/-- The report is two targets, and both are read, although it is the only file that is matched. -/
theorem not_denotedOnce_detour :
    detourTree.top.Lawful ∧ patternFailures .here detourPatterns = [] ∧
    (targets detourTree .here detourPatterns).toList =
      [.ofText "a.sarif", .ofText "sub/../a.sarif"] ∧
    ¬ detourTree.DenotedOnce (targets detourTree .here detourPatterns) ∧
    (matchedPlaces detourTree .here detourPatterns).card <
      (collect detourTree .here detourPatterns "Sarif").summary.files := by
  have file : FileTree.shortFile.Lawful := .file
  have sub : (Node.folder [("b", FileTree.shortFile)]).Lawful :=
    .folder (by decide) (by decide) (by simp [file])
  have lawful : detourTree.top.Lawful :=
    .folder (by decide) (by decide) (by simp [file, sub])
  have first : Path.ofText "a.sarif" ∈ (targets detourTree .here detourPatterns).toList := by
    decide +kernel
  have second : Path.ofText "sub/../a.sarif" ∈
      (targets detourTree .here detourPatterns).toList := by decide +kernel
  refine ⟨lawful, by decide +kernel, by decide +kernel, ?_, by decide +kernel⟩
  intro once
  have same := once _ first _ second (by decide +kernel)
  have different : Path.ofText "a.sarif" ≠ Path.ofText "sub/../a.sarif" := by decide +kernel
  exact different same

end SarifDigest
