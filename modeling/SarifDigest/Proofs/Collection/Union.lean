import SarifDigest.Proofs.Collection.RelativePatterns
import SarifDigest.Proofs.Files.Components
import SarifDigest.Proofs.Ordered.Representatives
import SarifDigest.Proofs.Violation.Lexicographic

/-!
# The targets of several patterns

The targets of patterns are those of each pattern taken together, in path order. Which spelling of
a path is kept depends on the pattern that comes first, but which paths there are, as far as their
components go, depends only on the texts that are patterns: neither their order, nor how often one
is given, nor any malformed text between them matters. Which texts are failures depends on the root
too: below one that is no pattern itself, well-formed texts are refused.
-/
namespace SarifDigest

/-- One component is before another when it is of a kind that comes first, in the order of the top,
a dot, two dots and names, or when both are names and in the order of texts. -/
inductive Component.Before : Component → Component → Prop
  | kind {left right : Component} (smaller : left.rank < right.rank) : Before left right
  | name {left right : String} (smaller : Text.Before left right) :
      Before (.name left) (.name right)

/-- Components compare as smaller when they are before in this order. -/
theorem Component.compare_eq_lt_iff {left right : Component} :
    compare left right = .lt ↔ left.Before right := by
  change compareLex (compareOn rank) (compareOn label) left right = .lt ↔ _
  rw [compareLex, Ordering.then_eq_lt, compareOn, compareOn, Nat.compare_eq_lt, Nat.compare_eq_eq,
    Text.compare_eq_lt_iff]
  constructor
  · rintro (smaller | ⟨same, smaller⟩)
    · exact .kind smaller
    · -- Only names have a label that is not empty, and nothing is before the empty one.
      cases right with
      | name label =>
        cases left with
        | name other => exact .name smaller
        | _ => cases same
      | _ => exact absurd smaller (Text.not_before_empty _)
  · rintro (smaller | smaller)
    · exact .inl smaller
    · exact .inr ⟨rfl, smaller⟩

/-- One path precedes another when its components are a proper beginning of those of the other, or
the first that differs is before. -/
def Path.Precedes (left right : Path) : Prop :=
  List.Lex Component.Before left.components right.components

/-- Paths compare as smaller when one precedes the other. -/
theorem Path.compare_eq_lt_iff_precedes {left right : Path} :
    compare left right = .lt ↔ left.Precedes right := by
  have lists : List.compareLex compare left.components right.components = .lt ↔ _ :=
    compareLex_eq_lt_iff
  simp only [Component.compare_eq_lt_iff] at lists
  exact lists

section Targets

variable {tree : FileTree} {root : Path} {patterns others : List String}

/-- The components of the targets of patterns, in path order. -/
def targetComponents (tree : FileTree) (root : Path) (patterns : List String) :
    List (List Component) :=
  (targets tree root patterns).toList.map Path.components

/-- The components of targets are those of the files that the patterns match. -/
theorem mem_targetComponents_iff {components : List Component} :
    components ∈ targetComponents tree root patterns ↔
      ∃ pattern ∈ patterns, ∃ path ∈ matchedFiles tree root pattern,
        path.components = components := by
  unfold targetComponents
  rw [List.mem_map]
  constructor
  · rintro ⟨target, inside, spelled⟩
    obtain ⟨pattern, given, matched⟩ := List.mem_flatMap.1 (OrderedSet.mem_of_mem_ofList inside)
    exact ⟨pattern, given, target, matched, spelled⟩
  · rintro ⟨pattern, given, path, matched, spelled⟩
    obtain ⟨target, inside, same⟩ :=
      OrderedSet.exists_mem_ofList (List.mem_flatMap.2 ⟨pattern, given, matched⟩)
    exact ⟨target, inside, by rw [← Path.compare_eq_iff.1 same, spelled]⟩

/-- The components of targets are those of the targets of single patterns. -/
theorem mem_targetComponents_iff_single {components : List Component} :
    components ∈ targetComponents tree root patterns ↔
      ∃ pattern ∈ patterns, components ∈ targetComponents tree root [pattern] := by
  simp only [mem_targetComponents_iff, List.mem_singleton, exists_eq_left]

/-- The components of targets stand in the order of paths, each once. -/
theorem increasing_targetComponents : Increasing (targetComponents tree root patterns) :=
  List.pairwise_map.2 (targets tree root patterns).increasing

/-- A text that matches a file below a root is a pattern. -/
theorem wellFormed_of_mem_matchedFiles {pattern : String} {path : Path}
    (matched : path ∈ matchedFiles tree root pattern) : Glob.WellFormed (.ofText pattern) := by
  unfold matchedFiles at matched
  split at matched
  · rename_i read
    exact Glob.wellFormed_of_ofPath_join (Path.separated_ofText pattern) read
  · contradiction

/-- Lists ask alike when a text that is a pattern is in both or in neither. -/
def AskAlike (patterns others : List String) : Prop :=
  ∀ pattern, Glob.WellFormed (.ofText pattern) → (pattern ∈ patterns ↔ pattern ∈ others)

/-- What a list leads to one that asks alike leads to as well. -/
theorem AskAlike.subset (alike : AskAlike patterns others) :
    targetComponents tree root patterns ⊆ targetComponents tree root others := by
  intro components inside
  rw [mem_targetComponents_iff] at inside ⊢
  obtain ⟨pattern, given, path, matched, spelled⟩ := inside
  have formed := wellFormed_of_mem_matchedFiles matched
  exact ⟨pattern, (alike pattern formed).1 given, path, matched, spelled⟩

/-- Lists that ask alike lead to the same paths. -/
theorem AskAlike.targetComponents_eq (alike : AskAlike patterns others) :
    targetComponents tree root patterns = targetComponents tree root others := by
  have turned : AskAlike others patterns := fun pattern formed => (alike pattern formed).symm
  apply increasing_targetComponents.eq_of_mem increasing_targetComponents
  exact fun components => ⟨fun inside => alike.subset inside, fun inside => turned.subset inside⟩

/-- The failures of patterns keep the texts of those that are refused. -/
theorem map_file_patternFailures (root : Path) (patterns : List String) :
    (patternFailures root patterns).map (·.file) = patterns.filter (isMalformed root) := by
  have texts {refused : List String} {failures : List InputFailure}
      (entries : List.Forall₂ (PatternEntry root) refused failures) :
      failures.map (·.file) = refused := by
    induction entries with
    | nil => rfl
    | cons entry _ ih =>
      obtain ⟨_, _, kept, _⟩ := entry
      rw [List.map_cons, kept, ih]
  exact texts (patternFailures_entries root patterns)

end Targets

/-- The targets of patterns are files, and each precedes those behind it. Their paths are those of
the targets of the single patterns, taken together. Lists that ask alike, so that they differ in
order, in repetitions and in malformed texts at most, lead to the same paths but for spelling, and
with more patterns no path is lost. Each failure says what is wrong with a text that it keeps.
Below a root without wildcards these are the malformed texts, in the order given and as often.
Below any other they are also the relative texts, when the root itself is no pattern. -/
theorem targets_union (tree : FileTree) (root : Path) (patterns : List String) :
    (targets tree root patterns).toList.Pairwise Path.Precedes ∧
    (∀ target ∈ (targets tree root patterns).toList, ∃ bytes, tree.HoldsBytes target bytes) ∧
    (∀ components, components ∈ targetComponents tree root patterns ↔
      ∃ pattern ∈ patterns, components ∈ targetComponents tree root [pattern]) ∧
    (∀ others, AskAlike patterns others →
      targetComponents tree root others = targetComponents tree root patterns) ∧
    (∀ more, targetComponents tree root patterns ⊆
      targetComponents tree root (patterns ++ more)) ∧
    List.Forall₂ (PatternEntry root) ((patternFailures root patterns).map (·.file))
      (patternFailures root patterns) ∧
    (root.Plain → root.Separated → (patternFailures root patterns).map (·.file) =
      patterns.filter fun pattern => ¬ Glob.WellFormed (.ofText pattern)) ∧
    (root.Separated → (patternFailures root patterns).map (·.file) =
      patterns.filter fun pattern => ¬ Glob.WellFormed (.ofText pattern) ∨
        (Path.ofText pattern).isAbsolute = false ∧ ¬ Glob.WellFormed root) := by
  refine ⟨?ordered, ?files, fun _ => mem_targetComponents_iff_single,
    fun others alike => alike.targetComponents_eq.symm, ?more, ?entries, ?plain, ?any⟩
  case ordered =>
    exact (targets tree root patterns).increasing.imp Path.compare_eq_lt_iff_precedes.1
  case files =>
    intro target inside
    exact FileTree.isFile_iff.1 (isFile_of_mem_targets inside)
  case more =>
    intro more components inside
    rw [mem_targetComponents_iff_single] at inside ⊢
    obtain ⟨pattern, given, listed⟩ := inside
    exact ⟨pattern, List.mem_append_left more given, listed⟩
  case entries =>
    rw [map_file_patternFailures]
    exact patternFailures_entries root patterns
  case plain =>
    intro plain separated
    rw [map_file_patternFailures]
    refine List.filter_congr fun pattern _ => ?_
    rw [Bool.eq_iff_iff, FileTree.isMalformed_iff_of_plain plain separated, decide_eq_true_iff]
  case any =>
    intro separated
    rw [map_file_patternFailures]
    refine List.filter_congr fun pattern _ => ?_
    rw [Bool.eq_iff_iff, FileTree.isMalformed_iff separated, decide_eq_true_iff]

/-- A folder with two folders whose names have a common beginning, each with a report. -/
def twinTree : FileTree where
  top := .folder [
    ("sub", .folder [("x", .file .empty)]),
    ("sub-x", .folder [("x", .file .empty)])]
  here := []

/-- Patterns that overlap, with a malformed one between them. -/
def mixedPatterns : List String := ["*/x", "[", "sub/./x", "**/x"]

/-- The same patterns in another order, one of them repeated, with other malformed ones. -/
def shuffledPatterns : List String := ["sub/./x", "***", "**/x", "[", "*/x", "[", "sub/./x"]

/-- Both lists lead to the same two paths, one of them spelled in two ways, although the texts of
the paths are in the other order; of the malformed texts each is a failure as often as it is
given. -/
theorem targets_union_shuffled :
    (targets twinTree .here mixedPatterns).toList = [.ofText "sub/x", .ofText "sub-x/x"] ∧
    (targets twinTree .here shuffledPatterns).toList = [.ofText "sub/./x", .ofText "sub-x/x"] ∧
    AskAlike mixedPatterns shuffledPatterns ∧
    targetComponents twinTree .here shuffledPatterns =
      targetComponents twinTree .here mixedPatterns ∧
    Path.here.Plain ∧ Path.here.Separated ∧
    (patternFailures .here shuffledPatterns).map (·.file) = ["***", "[", "["] := by
  have alike : AskAlike mixedPatterns shuffledPatterns := by
    intro pattern formed
    have notSet : pattern ≠ "[" := by
      rintro rfl
      revert formed
      decide +kernel
    have notStars : pattern ≠ "***" := by
      rintro rfl
      revert formed
      decide +kernel
    simp only [mixedPatterns, shuffledPatterns, List.mem_cons, notSet, notStars, List.not_mem_nil]
    tauto
  have plain : Path.here.Plain := by decide
  have separated : Path.here.Separated := Path.separated_ofText "."
  obtain ⟨_, _, _, same, _⟩ := targets_union twinTree .here mixedPatterns
  obtain ⟨_, _, _, _, _, _, failures, _⟩ := targets_union twinTree .here shuffledPatterns
  refine ⟨by decide +kernel, by decide +kernel, alike, same _ alike, plain, separated, ?_⟩
  rw [failures plain separated]
  decide +kernel

/-- Below a folder whose name opens a set a pattern is a failure, although nothing is wrong with
it, and the report in the folder is no target. -/
theorem not_patternFailures_bracketed :
    FileTree.bracketTree.isFolder (.ofText "a[b") = true ∧
    FileTree.bracketTree.isFile (.ofText "a[b/x.sarif") = true ∧
    Glob.WellFormed (.ofText "*.sarif") ∧
    (targets FileTree.bracketTree (.ofText "a[b") ["*.sarif"]).toList = [] ∧
    ¬ (patternFailures (.ofText "a[b") ["*.sarif"]).map (·.file) =
      ["*.sarif"].filter fun pattern => ¬ Glob.WellFormed (.ofText pattern) := by
  decide +kernel

end SarifDigest
