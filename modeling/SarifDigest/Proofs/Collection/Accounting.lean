import Mathlib.Data.List.Forall2
import Mathlib.Data.Finset.Card
import SarifDigest.Proofs.Collection.Outcomes
import SarifDigest.Proofs.Ordered.Membership
import SarifDigest.Proofs.Violation.Order

/-!
# What becomes of every input

The targets of a collection may be read side by side and be completed in any order: each
reading goes to the place of its target, so the digest is that of reading them one by one. In
the digest every pattern and every target is accounted for once. A target either gives all its
violations or is a failure and gives none, and the counts are those of the merged set.
-/
namespace SarifDigest

section Completion

variable (tree : FileTree) (reporter : String) (targets : List Path)

/-- The target at a position is completed: its reading is put at its place. -/
def completeAt (places : List (Option FileReading)) (position : Nat) :
    List (Option FileReading) :=
  match targets[position]? with
  | some path => places.set position (some (readReportFile tree reporter path))
  | none => places

/-- The places after targets have been completed in some order, all of them empty at first. -/
def completed (order : List Nat) : List (Option FileReading) :=
  order.foldl (completeAt tree reporter targets) (targets.map fun _ => none)

/-- The invariant of a parallel reading: the places of the completed targets hold their
readings, and those of the others are empty. -/
def Filled (done : List Nat) (places : List (Option FileReading)) : Prop :=
  ∀ position : Nat, places[position]? = targets[position]?.map fun path =>
    if position ∈ done then some (readReportFile tree reporter path) else none

variable {tree reporter targets}

/-- Completing a target fills its place and leaves the others as they are. -/
theorem Filled.completeAt {done : List Nat} {places : List (Option FileReading)}
    (filled : Filled tree reporter targets done places) (position : Nat) :
    Filled tree reporter targets (done ++ [position])
      (completeAt tree reporter targets places position) := by
  intro other
  have before := filled other
  unfold SarifDigest.completeAt
  by_cases here : other = position
  · subst here
    cases target : targets[other]? with
    | none =>
      rw [target] at before
      simpa using before
    | some path =>
      rw [target, Option.map_some] at before
      have bound : other < places.length := (List.getElem?_eq_some_iff.1 before).1
      simp [List.getElem?_set_self bound]
  · have apart : position ≠ other := Ne.symm here
    have same : other ∈ done ++ [position] ↔ other ∈ done := by simp [here]
    simp only [same]
    cases target : targets[position]? with
    | none => exact before
    | some path =>
      rw [List.getElem?_set_ne apart]
      exact before

/-- After any sequence of completions the places of the completed targets hold their
readings. -/
theorem filled_completed (order : List Nat) :
    Filled tree reporter targets order (completed tree reporter targets order) := by
  have onward : ∀ {done : List Nat} {places : List (Option FileReading)},
      Filled tree reporter targets done places →
        Filled tree reporter targets (done ++ order)
          (order.foldl (completeAt tree reporter targets) places) := by
    induction order with
    | nil =>
      intro done places filled
      rw [List.append_nil]
      exact filled
    | cons position order ih =>
      intro done places filled
      have next := ih (filled.completeAt position)
      rw [List.append_assoc] at next
      exact next
  have start : Filled tree reporter targets [] (targets.map fun _ => none) := by
    intro position
    rw [List.getElem?_map]
    simp
  exact onward start

/-- When all targets are completed, in whatever order, every place holds its reading. -/
theorem completed_eq_readings {order : List Nat}
    (all : order.Perm (List.range targets.length)) :
    completed tree reporter targets order =
      targets.map fun path => some (readReportFile tree reporter path) := by
  apply List.ext_getElem?
  intro position
  rw [filled_completed order position, List.getElem?_map]
  cases target : targets[position]? with
  | none => rfl
  | some path =>
    have bound : position < targets.length := (List.getElem?_eq_some_iff.1 target).1
    have done : position ∈ order := all.mem_iff.2 (List.mem_range.2 bound)
    rw [Option.map_some, Option.map_some, if_pos done]

end Completion

/-- The digest of the reports that patterns lead to, when these are read side by side and
completed in some order. -/
def collectCompleting (tree : FileTree) (root : Path) (patterns : List String)
    (reporter : String) (order : List Nat) : Digest :=
  let found := (targets tree root patterns).toList
  let readings := (completed tree reporter found order).filterMap id
  digestOf (patternFailures root patterns) (found.zip readings)

/-- The order of completion does not matter. -/
theorem collectCompleting_eq {tree : FileTree} {root : Path} {patterns : List String}
    {reporter : String} {order : List Nat}
    (all : order.Perm (List.range (targets tree root patterns).size)) :
    collectCompleting tree root patterns reporter order =
      collect tree root patterns reporter := by
  have places : completed tree reporter (targets tree root patterns).toList order =
      (targets tree root patterns).toList.map fun path =>
        some (readReportFile tree reporter path) := completed_eq_readings all
  have paired : ∀ list : List Path,
      list.zip ((list.map fun path => some (readReportFile tree reporter path)).filterMap id) =
        readTargets tree reporter list := by
    intro list
    unfold readTargets
    induction list with
    | nil => rfl
    | cons path others ih => simpa using ih
  unfold collectCompleting
  simp only [places, paired]
  rfl

section Merging

variable {readings : List (Path × FileReading)}

/-- When each step of a fold adds what its item gives, the fold adds what some item gives. -/
theorem mem_foldl_iff {α : Type} {step : ViolationSet → α → ViolationSet} {gives : α → Prop}
    {violation : Violation}
    (steps : ∀ merged item,
      violation ∈ (step merged item).toList ↔ violation ∈ merged.toList ∨ gives item)
    (items : List α) (merged : ViolationSet) :
    violation ∈ (items.foldl step merged).toList ↔
      violation ∈ merged.toList ∨ ∃ item ∈ items, gives item := by
  induction items generalizing merged with
  | nil => simp
  | cons first others ih =>
    rw [List.foldl_cons, ih, steps]
    simp [or_assoc]

/-- A violation is merged exactly when a reading that succeeded has it. -/
theorem mem_mergedViolations {violation : Violation} :
    violation ∈ (mergedViolations readings).toList ↔
      ∃ reading ∈ readings, ∃ set, reading.2.outcome = .ok set ∧ violation ∈ set.toList := by
  unfold mergedViolations
  rw [@mem_foldl_iff _ _ fun reading =>
    ∃ set, reading.2.outcome = .ok set ∧ violation ∈ set.toList]
  · simp
  · intro merged reading
    cases result : reading.2.outcome with
    | error fault => simp [result]
    | ok set => simp [result]

/-- A violation is collected exactly when a target that can be read to the end has it. -/
theorem mem_collect_iff {tree : FileTree} {root : Path} {patterns : List String}
    {reporter : String} {violation : Violation} :
    violation ∈ (collect tree root patterns reporter).violations.toList ↔
      ∃ target ∈ (targets tree root patterns).toList, ∃ set,
        (readReportFile tree reporter target).outcome = .ok set ∧ violation ∈ set.toList := by
  unfold collect digestOf collectReadings readTargets
  rw [mem_mergedViolations]
  simp only [List.mem_map, exists_exists_and_eq_and]

/-- Leaving out a reading that failed changes nothing in the merged set. -/
theorem mergedViolations_eq_of_failures {others : List (Path × FileReading)}
    (fewer : ∀ reading ∈ others, reading ∈ readings)
    (failed : ∀ reading ∈ readings, reading ∉ others → reading.2.outcome.isOk = false) :
    (mergedViolations readings).toList = (mergedViolations others).toList := by
  apply OrderedSet.toList_eq_of_mem
  intro violation
  rw [mem_mergedViolations, mem_mergedViolations]
  constructor
  · rintro ⟨reading, inside, set, given, holds⟩
    by_cases kept : reading ∈ others
    · exact ⟨reading, kept, set, given, holds⟩
    · have failure := failed reading inside kept
      rw [given] at failure
      contradiction
  · rintro ⟨reading, inside, set, given, holds⟩
    exact ⟨reading, fewer reading inside, set, given, holds⟩

end Merging

/-- What a partial function makes of a list are its values at the elements that have one, in
order. -/
theorem forall₂_filterMap {α β : Type} (value : α → Option β) (list : List α) :
    List.Forall₂ (fun x y => value x = some y) (list.filter fun x => (value x).isSome)
      (list.filterMap value) := by
  induction list with
  | nil => exact .nil
  | cons x others ih =>
    cases given : value x with
    | none => simpa [given] using ih
    | some y => simpa [given] using ih

/-- How many violations a summary counts of a severity. -/
def Summary.count (summary : Summary) : Severity → Nat
  | .error => summary.errors
  | .warn => summary.warnings
  | .info => summary.infos

/-- A tally counts the violations of each severity. -/
theorem Summary.count_tally (violations : ViolationSet) (severity : Severity) :
    (Summary.tally violations).count severity =
      (violations.toList.toFinset.filter (·.severity = severity)).card := by
  have distinct : (violations.toList.filter (·.severity = severity)).Nodup :=
    violations.increasing.nodup.filter _
  have counted : (Summary.tally violations).count severity =
      (violations.toList.filter (·.severity = severity)).length := by
    rw [← List.countP_eq_length_filter]
    cases severity <;> rfl
  rw [counted, ← List.toFinset_card_of_nodup distinct, List.toFinset_filter]
  simp

/-- A tally counts every violation once. -/
theorem Summary.total_tally (violations : ViolationSet) :
    let summary := Summary.tally violations
    summary.errors + summary.warnings + summary.infos = violations.size := by
  have total : ∀ list : List Violation,
      countOf .error list + countOf .warn list + countOf .info list = list.length := by
    intro list
    unfold countOf
    induction list with
    | nil => rfl
    | cons violation others ih =>
      simp only [List.countP_cons, List.length_cons, decide_eq_true_eq]
      cases violation.severity <;> simp <;> omega
  exact total violations.toList

/-- Whether a text below a root is no pattern. -/
def isMalformed (root : Path) (pattern : String) : Bool :=
  !(patternBelow root pattern).isOk

/-- Whether a target gives no violations. -/
def isFailing (tree : FileTree) (reporter : String) (target : Path) : Bool :=
  !(readReportFile tree reporter target).outcome.isOk

/-- The entry of a malformed pattern names the pattern and says what is wrong with it. -/
def PatternEntry (root : Path) (pattern : String) (entry : InputFailure) : Prop :=
  ∃ fault, patternBelow root pattern = .error fault ∧ entry.file = pattern ∧
    entry.message = "invalid pattern: " ++ fault.message

/-- The entry of a failing target names the target and says why it gives nothing. -/
def TargetEntry (tree : FileTree) (reporter : String) (target : Path) (entry : InputFailure) :
    Prop :=
  ∃ fault, (readReportFile tree reporter target).outcome = .error fault ∧
    entry.file = target.text ∧ entry.message = fault.message

/-- The failures of patterns are one entry for each malformed pattern, in their order. -/
theorem patternFailures_entries (root : Path) (patterns : List String) :
    List.Forall₂ (PatternEntry root) (patterns.filter (isMalformed root))
      (patternFailures root patterns) := by
  have same : ∀ pattern, isMalformed root pattern = (patternFailure? root pattern).isSome := by
    intro pattern
    unfold isMalformed patternFailure?
    cases patternBelow root pattern <;> rfl
  have entries := forall₂_filterMap (patternFailure? root) patterns
  simp only [← same] at entries
  refine entries.imp ?_
  intro pattern entry given
  unfold patternFailure? at given
  split at given
  · contradiction
  · rename_i fault refused
    have shown := Option.some.inj given
    exact ⟨fault, refused, by rw [← shown], by rw [← shown]⟩

/-- The failures of readings are one entry for each failing target, in their order. -/
theorem readingFailures_entries (tree : FileTree) (reporter : String) (targets : List Path) :
    List.Forall₂ (TargetEntry tree reporter) (targets.filter (isFailing tree reporter))
      (readingFailures (readTargets tree reporter targets)) := by
  let failure (path : Path) := readingFailure? path (readReportFile tree reporter path)
  have same : ∀ path, isFailing tree reporter path = (failure path).isSome := by
    intro path
    unfold isFailing failure readingFailure?
    cases (readReportFile tree reporter path).outcome <;> rfl
  have listed : readingFailures (readTargets tree reporter targets) =
      targets.filterMap failure := by
    unfold readingFailures readTargets
    rw [List.filterMap_map]
    rfl
  have entries := forall₂_filterMap failure targets
  simp only [← same] at entries
  rw [listed]
  refine entries.imp ?_
  intro target entry given
  unfold failure readingFailure? at given
  split at given
  · contradiction
  · rename_i fault failed
    have shown := Option.some.inj given
    exact ⟨fault, failed, by rw [← shown], by rw [← shown]⟩

/-- Every target is either read or failing. -/
theorem readCount_add_failing (tree : FileTree) (reporter : String) (targets : List Path) :
    readCount (readTargets tree reporter targets) +
      (targets.filter (isFailing tree reporter)).length = targets.length := by
  have read : readCount (readTargets tree reporter targets) =
      targets.countP fun path => !isFailing tree reporter path := by
    unfold readCount readTargets
    rw [List.countP_map]
    congr 1
    funext path
    simp [isFailing]
  have split := List.length_eq_countP_add_countP (l := targets) (isFailing tree reporter)
  have negated : targets.countP (fun path => ¬ isFailing tree reporter path) =
      targets.countP fun path => !isFailing tree reporter path := by
    congr 1
    funext path
    simp
  rw [read, ← List.countP_eq_length_filter]
  omega

/-- A digest accounts for the inputs of a collection when every target and every pattern shows
in it as it should, and once. -/
structure Digest.Accounts (digest : Digest) (tree : FileTree) (root : Path)
    (patterns : List String) (reporter : String) : Prop where
  /-- The violations are those of the targets that can be read to the end. -/
  merged : ∀ violation, violation ∈ digest.violations.toList ↔
    ∃ target ∈ (targets tree root patterns).toList, ∃ set,
      (readReportFile tree reporter target).outcome = .ok set ∧ violation ∈ set.toList
  /-- A target can be read to the end when its bytes give violations. -/
  gives : ∀ target ∈ (targets tree root patterns).toList, ∃ bytes,
    tree.HoldsBytes target bytes ∧ ∀ set,
      (readReportFile tree reporter target).outcome = .ok set ↔ BytesGive bytes reporter set
  /-- A target fails when its bytes are spoilt, and only then. -/
  fails : ∀ target ∈ (targets tree root patterns).toList, ∃ bytes,
    tree.HoldsBytes target bytes ∧ (isFailing tree reporter target = true ↔ Spoilt bytes)
  /-- Without a failing target the violations would be the same, whatever had been found in it
  before its fault. -/
  atomic : ∀ target ∈ (targets tree root patterns).toList,
    isFailing tree reporter target = true →
      digest.violations.toList = (mergedViolations (readTargets tree reporter
        ((targets tree root patterns).toList.erase target))).toList
  /-- The failures are the malformed patterns and then the failing targets. -/
  failures : ∃ ofPatterns ofTargets, digest.failures = ofPatterns ++ ofTargets ∧
    List.Forall₂ (PatternEntry root) (patterns.filter (isMalformed root)) ofPatterns ∧
    List.Forall₂ (TargetEntry tree reporter)
      ((targets tree root patterns).toList.filter (isFailing tree reporter)) ofTargets
  /-- The failing targets stand in path order, each once. -/
  ordered : Increasing ((targets tree root patterns).toList.filter (isFailing tree reporter))
  /-- The failures are counted. -/
  failed : digest.summary.failed = digest.failures.length
  /-- The targets that were read and those that failed are all targets. -/
  files : digest.summary.files +
    ((targets tree root patterns).toList.filter (isFailing tree reporter)).length =
      (targets tree root patterns).size
  /-- The violations of each severity are counted after merging. -/
  counts : ∀ severity, digest.summary.count severity =
    (digest.violations.toList.toFinset.filter (·.severity = severity)).card
  /-- The three counts are those of all violations. -/
  total : digest.summary.errors + digest.summary.warnings + digest.summary.infos =
    digest.violations.size

/-- A collection accounts for every input once, in whatever order its targets are completed. -/
theorem collectCompleting_accounts {tree : FileTree} {root : Path} {patterns : List String}
    {reporter : String} {order : List Nat}
    (all : order.Perm (List.range (targets tree root patterns).size)) :
    (collectCompleting tree root patterns reporter order).Accounts tree root patterns
      reporter := by
  rw [collectCompleting_eq all]
  have held : ∀ target ∈ (targets tree root patterns).toList, ∃ bytes,
      tree.HoldsBytes target bytes :=
    fun target inside => FileTree.isFile_iff.1 (isFile_of_mem_targets inside)
  refine
    { merged := ?merged
      gives := ?gives
      fails := ?fails
      atomic := ?atomic
      failures := ⟨_, _, rfl, patternFailures_entries root patterns,
        readingFailures_entries tree reporter _⟩
      ordered := (targets tree root patterns).increasing.filter _
      failed := rfl
      files := readCount_add_failing tree reporter _
      counts := Summary.count_tally _
      total := Summary.total_tally _ }
  case merged =>
    intro violation
    exact mem_collect_iff
  case gives =>
    intro target inside
    obtain ⟨bytes, holds⟩ := held target inside
    exact ⟨bytes, holds, fun set => outcome_eq_ok_iff holds⟩
  case fails =>
    intro target inside
    obtain ⟨bytes, holds⟩ := held target inside
    have failing : isFailing tree reporter target = true ↔
        (readReportFile tree reporter target).outcome.isOk = false := by
      unfold isFailing
      rw [Bool.not_eq_true']
    exact ⟨bytes, holds, failing.trans (outcome_fails_iff holds)⟩
  case atomic =>
    intro target inside failing
    unfold collect digestOf collectReadings readTargets
    apply mergedViolations_eq_of_failures
    · intro reading kept
      obtain ⟨path, left, rfl⟩ := List.mem_map.1 kept
      exact List.mem_map.2 ⟨path, List.mem_of_mem_erase left, rfl⟩
    · intro reading given dropped
      obtain ⟨path, member, rfl⟩ := List.mem_map.1 given
      have same : path = target := by
        by_contra different
        have left := (List.mem_erase_of_ne different).2 member
        exact dropped (List.mem_map.2 ⟨path, left, rfl⟩)
      rw [same]
      simpa [isFailing] using failing

/-- A tree with a report, a report whose second run asks for an artifact that is not there, and
a file that is no text. -/
def unevenTree : FileTree where
  top := .folder [
    ("a.sarif", .file "[[[null,null,[[\"r\",[\"m\"],\"error\"]]]]]".toUTF8),
    ("b.sarif", .file ("[[[null,null,[[\"s\",[\"n\"]]]]," ++
      "[null,null,[[\"s\",[\"n\"],null,null,[[[[null,0],[1]]]]]]]]]").toUTF8),
    ("c.sarif", .file ⟨#[0xc3, 0x28]⟩)]
  here := []

/-- The patterns of that collection, one of them malformed. -/
def unevenPatterns : List String := ["*.sarif", "["]

/-- The three targets of the uneven tree are accounted for when the last is completed first: one
gives its violation, and of the two failures one had found a violation before its fault. -/
theorem collectCompleting_accounts_uneven :
    [2, 0, 1].Perm (List.range (targets unevenTree .here unevenPatterns).size) ∧
    (readReportFile unevenTree "Sarif" (.ofPiece "b.sarif")).steps.any
      (fun step => step.violation?.isSome) = true ∧
    (collectCompleting unevenTree .here unevenPatterns "Sarif" [2, 0, 1]).summary =
      { errors := 1, files := 1, failed := 3 } ∧
    (collectCompleting unevenTree .here unevenPatterns "Sarif" [2, 0, 1]).Accounts
      unevenTree .here unevenPatterns "Sarif" := by
  have all : [2, 0, 1].Perm (List.range (targets unevenTree .here unevenPatterns).size) := by
    decide +kernel
  exact ⟨all, by decide +kernel, by decide +kernel, collectCompleting_accounts all⟩

end SarifDigest
