import SarifDigest.Program.Run
import SarifDigest.Proofs.Collection.Accounting

/-!
# The exit status of a digest

What the number that a run ends with says about its inputs. The program decides it by comparing
counters with zero; here it is tied to the patterns, the targets and the violations that these
counters are about.
-/
namespace SarifDigest

/-- The rank of the lowest severity that reaches a threshold; no severity has that of `never`. -/
def Threshold.rank : Threshold → Nat
  | info => Severity.info.rank
  | warn => Severity.warn.rank
  | error => Severity.error.rank
  | never => Severity.error.rank + 1

/-- No severity is as high as `never`. -/
theorem Severity.rank_lt_never (severity : Severity) : severity.rank < Threshold.never.rank := by
  cases severity <;> decide

/-- Some violation of a list has a severity exactly when there is one to count. -/
theorem countOf_pos_iff (severity : Severity) (violations : List Violation) :
    0 < countOf severity violations ↔ ∃ violation ∈ violations, violation.severity = severity := by
  simp only [countOf, List.countP_pos_iff, decide_eq_true_eq]

/-- The counters of a tally reach a threshold exactly when a violation of the set does. -/
theorem Threshold.isReached_tally {threshold : Threshold} {violations : ViolationSet} :
    threshold.isReached (Summary.tally violations) = true ↔
      ∃ violation ∈ violations.toList, threshold.rank ≤ violation.severity.rank := by
  have errors := countOf_pos_iff .error violations.toList
  have warnings := countOf_pos_iff .warn violations.toList
  have infos := countOf_pos_iff .info violations.toList
  -- A severity is at a threshold or above when it is one of those that the threshold sums up.
  cases threshold with
  | error =>
    have ranks (severity : Severity) : error.rank ≤ severity.rank ↔ severity = .error := by
      cases severity <;> decide
    simpa [isReached, Summary.tally, ranks] using errors
  | warn =>
    have ranks (severity : Severity) : warn.rank ≤ severity.rank ↔
        severity = .error ∨ severity = .warn := by
      cases severity <;> decide
    simp only [isReached, Summary.tally, decide_eq_true_eq, Nat.add_pos_iff_pos_or_pos, errors,
      warnings, ranks, and_or_left, exists_or]
  | info =>
    have ranks (severity : Severity) : info.rank ≤ severity.rank ↔
        (severity = .error ∨ severity = .warn) ∨ severity = .info := by
      cases severity <;> decide
    simp only [isReached, Summary.tally, decide_eq_true_eq, Nat.add_pos_iff_pos_or_pos, errors,
      warnings, infos, ranks, and_or_left, exists_or]
  | never =>
    have ranks (severity : Severity) : ¬ never.rank ≤ severity.rank :=
      Nat.not_le.2 severity.rank_lt_never
    simp [isReached, ranks]

namespace Settings

variable (settings : Settings) (tree : FileTree)

/-- A run with settings parses a report when some target gives its violations. -/
def Parses : Prop :=
  ∃ target ∈ (targets tree settings.root settings.inputs).toList,
    isFailing tree settings.reporter target = false

/-- A run with settings has a failure when a pattern is malformed or a target fails. -/
def HasFailure : Prop :=
  (∃ pattern ∈ settings.inputs, isMalformed settings.root pattern = true) ∨
    ∃ target ∈ (targets tree settings.root settings.inputs).toList,
      isFailing tree settings.reporter target = true

/-- A run with settings reaches its threshold when a merged violation is that severe. -/
def ReachesThreshold : Prop :=
  ∃ violation ∈ (settings.digest tree).violations.toList,
    settings.threshold.rank ≤ violation.severity.rank

variable {settings tree}

/-- The digest lists failures exactly when the run has one. -/
theorem failures_isEmpty_iff :
    (settings.digest tree).failures.isEmpty = true ↔ ¬ settings.HasFailure tree := by
  have ofPatterns := (patternFailures_entries settings.root settings.inputs).length_eq
  have ofTargets := (readingFailures_entries tree settings.reporter
    (targets tree settings.root settings.inputs).toList).length_eq
  have listed : (settings.digest tree).failures =
      patternFailures settings.root settings.inputs ++
        readingFailures (readTargets tree settings.reporter
          (targets tree settings.root settings.inputs).toList) := rfl
  rw [listed, List.isEmpty_iff_length_eq_zero, List.length_append, ← ofPatterns, ← ofTargets,
    Nat.add_eq_zero_iff, List.length_eq_zero_iff, List.length_eq_zero_iff,
    List.filter_eq_nil_iff, List.filter_eq_nil_iff, HasFailure, not_or]
  simp only [not_exists, not_and]

/-- The digest counts no file exactly when the run parses none. -/
theorem files_eq_zero_iff :
    (settings.digest tree).summary.files = 0 ↔ ¬ settings.Parses tree := by
  have counted : (settings.digest tree).summary.files =
      readCount (readTargets tree settings.reporter
        (targets tree settings.root settings.inputs).toList) := rfl
  unfold Parses isFailing
  rw [counted, readCount, readTargets, List.countP_map, List.countP_eq_zero]
  simp

/-- There was no input exactly when nothing was parsed and nothing failed. -/
theorem isVoid_iff :
    (settings.digest tree).isVoid = true ↔
      ¬ settings.Parses tree ∧ ¬ settings.HasFailure tree := by
  rw [Digest.isVoid, Bool.and_eq_true, decide_eq_true_eq, files_eq_zero_iff,
    failures_isEmpty_iff]

/-- The counters of the digest reach the threshold exactly when the run does. -/
theorem isReached_iff :
    settings.threshold.isReached (settings.digest tree).summary = true ↔
      settings.ReachesThreshold tree := by
  have counters : settings.threshold.isReached (settings.digest tree).summary =
      settings.threshold.isReached (Summary.tally (settings.digest tree).violations) := by
    cases settings.threshold <;> rfl
  rw [counters]
  exact Threshold.isReached_tally

/-- A run without any input is unusable and prints nothing. -/
theorem run_of_void (environment : Environment) (filter : Filter)
    (void : (settings.digest tree).isVoid = true) :
    (settings.run tree environment filter).status = .unusable ∧
      (settings.run tree environment filter).output = "" := by
  unfold Settings.run
  rw [if_pos void]
  exact ⟨rfl, rfl⟩

/-- A run with some input has failed or passed, and prints its digest. -/
theorem run_of_input (environment : Environment) (filter : Filter)
    (input : ¬ (settings.digest tree).isVoid = true) :
    (settings.run tree environment filter).status =
        (if !(settings.digest tree).failures.isEmpty ||
            settings.threshold.isReached (settings.digest tree).summary then .failed
          else .passed) ∧
      (settings.run tree environment filter).output =
        (settings.digest tree).print settings.output environment.colours := by
  unfold Settings.run Digest.verdict
  rw [if_neg input, if_neg input]
  exact ⟨rfl, rfl⟩

/-- A run ends unusable exactly when there was no input. -/
theorem run_unusable_iff (environment : Environment) (filter : Filter) :
    (settings.run tree environment filter).status = .unusable ↔
      ¬ settings.Parses tree ∧ ¬ settings.HasFailure tree := by
  rw [← isVoid_iff]
  by_cases void : (settings.digest tree).isVoid = true
  · have ended := (run_of_void environment filter void).1
    exact ⟨fun _ => void, fun _ => ended⟩
  · rw [(run_of_input environment filter void).1]
    constructor
    · intro unusable
      split at unusable <;> contradiction
    · intro input
      exact absurd input void

/-- A run that is not unusable has failed exactly when it has a failure or reaches its
threshold. -/
theorem run_failed_iff (environment : Environment) (filter : Filter) :
    (settings.run tree environment filter).status = .failed ↔
      (settings.run tree environment filter).status ≠ .unusable ∧
        (settings.HasFailure tree ∨ settings.ReachesThreshold tree) := by
  have failure : (!(settings.digest tree).failures.isEmpty) = true ↔
      settings.HasFailure tree := by
    rw [Bool.not_eq_true', ← Bool.not_eq_true, failures_isEmpty_iff, not_not]
  rw [← failure, ← isReached_iff, ← Bool.or_eq_true]
  by_cases void : (settings.digest tree).isVoid = true
  · rw [(run_of_void environment filter void).1]
    simp
  · rw [(run_of_input environment filter void).1]
    split
    · rename_i objection
      simp only [objection, ne_eq, reduceCtorEq, not_false_eq_true, and_self]
    · rename_i fine
      simp only [fine, ne_eq, reduceCtorEq, not_false_eq_true, and_false]

/-- A run that is unusable prints nothing, and any other prints its digest. -/
theorem run_output (environment : Environment) (filter : Filter) :
    (settings.run tree environment filter).output =
      if (settings.run tree environment filter).status = .unusable then ""
      else (settings.digest tree).print settings.output environment.colours := by
  have unusable : (settings.run tree environment filter).status = .unusable ↔
      (settings.digest tree).isVoid = true :=
    (run_unusable_iff environment filter).trans isVoid_iff.symm
  by_cases void : (settings.digest tree).isVoid = true
  · rw [if_pos (unusable.2 void)]
    exact (run_of_void environment filter void).2
  · rw [if_neg (fun status => void (unusable.1 status))]
    exact (run_of_input environment filter void).2

end Settings

namespace Overrides

variable (overrides : Overrides) (tree : FileTree)

/-- There is nothing to do for overrides when they lead to no settings, or to settings with
which no report is parsed and nothing fails. -/
inductive LeadNowhere : Prop
  | unresolved {fault : SettingsFault} (refused : overrides.resolve tree = .error fault)
  | noInput {settings : Settings} (resolved : overrides.resolve tree = .ok settings)
      (unparsed : ¬ settings.Parses tree) (unfailed : ¬ settings.HasFailure tree)

/-- There is something to object to for overrides when their settings lead to a failure or to a
violation that reaches the threshold. -/
inductive LeadToObjection : Prop
  | failure {settings : Settings} (resolved : overrides.resolve tree = .ok settings)
      (failed : settings.HasFailure tree)
  | reached {settings : Settings} (resolved : overrides.resolve tree = .ok settings)
      (severe : settings.ReachesThreshold tree)

variable {overrides tree}

/-- Overrides that lead to no settings give an unusable run that prints nothing. -/
theorem run_of_refused {fault : SettingsFault} (refused : overrides.resolve tree = .error fault)
    (environment : Environment) (filter : Filter) :
    overrides.run tree environment filter =
      { status := .unusable, output := "", remarks := [.error environment fault.message] } := by
  unfold Overrides.run
  rw [refused]

/-- Overrides that lead to settings run with them. -/
theorem run_of_resolved {settings : Settings} (resolved : overrides.resolve tree = .ok settings)
    (environment : Environment) (filter : Filter) :
    overrides.run tree environment filter = settings.run tree environment filter := by
  unfold Overrides.run
  rw [resolved]

/-- Once the settings are known, there is nothing to do when nothing is parsed or fails. -/
theorem leadNowhere_iff {settings : Settings} (resolved : overrides.resolve tree = .ok settings) :
    overrides.LeadNowhere tree ↔ ¬ settings.Parses tree ∧ ¬ settings.HasFailure tree := by
  constructor
  · intro leads
    cases leads with
    | unresolved refused =>
      rw [resolved] at refused
      contradiction
    | noInput resolved' unparsed unfailed =>
      rw [Except.ok.inj (resolved.symm.trans resolved')]
      exact ⟨unparsed, unfailed⟩
  · rintro ⟨unparsed, unfailed⟩
    exact .noInput resolved unparsed unfailed

/-- Once the settings are known, there is an objection when something fails or is severe. -/
theorem leadToObjection_iff {settings : Settings}
    (resolved : overrides.resolve tree = .ok settings) :
    overrides.LeadToObjection tree ↔
      settings.HasFailure tree ∨ settings.ReachesThreshold tree := by
  constructor
  · intro leads
    cases leads with
    | failure resolved' failure =>
      rw [Except.ok.inj (resolved.symm.trans resolved')]
      exact .inl failure
    | reached resolved' severe =>
      rw [Except.ok.inj (resolved.symm.trans resolved')]
      exact .inr severe
  · rintro (failure | severe)
    · exact .failure resolved failure
    · exact .reached resolved severe

/-- A command line that asks for a digest runs with its overrides. -/
theorem runProgram_of_accepted {words : List String} {invocation : Invocation}
    {overrides : Overrides} (accepted : Invocation.ofWords words = .ok invocation)
    (asked : invocation.task = .digest overrides) (tree : FileTree)
    (environment : Environment) :
    runProgram tree environment words =
      overrides.run tree environment (chooseFilter environment invocation.verbosity) := by
  simp only [runProgram, accepted, Invocation.run, asked]

/-- The exit status of a command line that asks for a digest is exact. It is two when there are
no settings or no inputs at all, and then nothing is printed; otherwise one when something
failed or a merged violation is as severe as the threshold; and zero in all other cases, so zero
says that a report was parsed, that nothing failed, and that the violations printed are all
below the threshold. -/
theorem runProgram_code_exact {words : List String} {invocation : Invocation}
    {overrides : Overrides} (accepted : Invocation.ofWords words = .ok invocation)
    (asked : invocation.task = .digest overrides) (tree : FileTree)
    (environment : Environment) :
    let outcome := runProgram tree environment words
    (outcome.status.code = 2 ↔ overrides.LeadNowhere tree) ∧
    (outcome.status.code = 2 → outcome.output = "") ∧
    (outcome.status.code = 1 ↔
      outcome.status.code ≠ 2 ∧ overrides.LeadToObjection tree) ∧
    (outcome.status.code = 0 ↔ outcome.status.code ≠ 2 ∧ outcome.status.code ≠ 1) ∧
    (outcome.status.code = 0 → ∃ settings, overrides.resolve tree = .ok settings ∧
      settings.Parses tree ∧ ¬ settings.HasFailure tree ∧
      outcome.output = (settings.digest tree).print settings.output environment.colours ∧
      ∀ violation ∈ (settings.digest tree).violations.toList,
        violation.severity.rank < settings.threshold.rank) := by
  intro outcome
  have ran : outcome = overrides.run tree environment
      (chooseFilter environment invocation.verbosity) :=
    runProgram_of_accepted accepted asked tree environment
  clear_value outcome
  generalize chooseFilter environment invocation.verbosity = filter at ran
  have unusable : outcome.status.code = 2 ↔ outcome.status = .unusable := by
    cases outcome.status <;> decide
  have failed : outcome.status.code = 1 ↔ outcome.status = .failed := by
    cases outcome.status <;> decide
  have passed : outcome.status.code = 0 ↔ outcome.status = .passed := by
    cases outcome.status <;> decide
  have others : outcome.status = .passed ↔
      outcome.status ≠ .unusable ∧ outcome.status ≠ .failed := by
    cases outcome.status <;> decide
  rw [unusable, failed, passed, ne_eq, unusable, ne_eq, failed]
  cases resolved : overrides.resolve tree with
  | error fault =>
    have nowhere : overrides.LeadNowhere tree := .unresolved resolved
    rw [run_of_refused resolved] at ran
    have status : outcome.status = .unusable := by rw [ran]
    have silent : outcome.output = "" := by rw [ran]
    simp [status, silent, nowhere]
  | ok settings =>
    rw [run_of_resolved resolved] at ran
    have two : outcome.status = .unusable ↔
        ¬ settings.Parses tree ∧ ¬ settings.HasFailure tree := by
      rw [ran]
      exact Settings.run_unusable_iff environment filter
    have one : outcome.status = .failed ↔ outcome.status ≠ .unusable ∧
        (settings.HasFailure tree ∨ settings.ReachesThreshold tree) := by
      rw [ran]
      exact Settings.run_failed_iff environment filter
    have output : outcome.output = if outcome.status = .unusable then ""
        else (settings.digest tree).print settings.output environment.colours := by
      rw [ran]
      exact Settings.run_output environment filter
    rw [leadNowhere_iff resolved, leadToObjection_iff resolved]
    refine ⟨two, ?silent, one, others, ?zero⟩
    case silent =>
      intro status
      rw [output, if_pos status]
    case zero =>
      intro status
      obtain ⟨used, unfailed⟩ := others.1 status
      have harmless : ¬ (settings.HasFailure tree ∨ settings.ReachesThreshold tree) :=
        fun reason => unfailed (one.2 ⟨used, reason⟩)
      rw [not_or] at harmless
      have parses : settings.Parses tree := by
        by_contra unparsed
        exact used (two.2 ⟨unparsed, harmless.1⟩)
      refine ⟨settings, rfl, parses, harmless.1, ?_, ?_⟩
      · rw [output, if_neg used]
      · intro violation inside
        apply Nat.lt_of_not_le
        intro severe
        exact harmless.2 ⟨violation, inside, severe⟩

/-- A command line that asks for a digest of all reports and for no threshold. -/
def lenientWords : List String := ["parse", "*.sarif", "--fail-on", "never"]

/-- What it gives. -/
def lenientOverrides : Overrides := { inputs := ["*.sarif"], failOn := some "never" }

/-- The digest of the uneven tree ends with one without any threshold, because targets fail. -/
theorem runProgram_code_uneven :
    Invocation.ofWords lenientWords = .ok ⟨.digest lenientOverrides, {}⟩ ∧
    (runProgram unevenTree ⟨false, none⟩ lenientWords).status.code = 1 ∧
    lenientOverrides.LeadToObjection unevenTree ∧
    ¬ lenientOverrides.LeadNowhere unevenTree := by
  have accepted : Invocation.ofWords lenientWords = .ok ⟨.digest lenientOverrides, {}⟩ := by
    decide +kernel
  have code : (runProgram unevenTree ⟨false, none⟩ lenientWords).status.code = 1 := by
    decide +kernel
  obtain ⟨two, _, one, _⟩ := runProgram_code_exact accepted rfl unevenTree ⟨false, none⟩
  obtain ⟨used, objection⟩ := one.1 code
  exact ⟨accepted, code, objection, fun nowhere => used (two.2 nowhere)⟩

end Overrides

end SarifDigest
