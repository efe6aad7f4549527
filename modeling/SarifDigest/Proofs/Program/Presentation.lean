import SarifDigest.Proofs.Files.Following
import SarifDigest.Proofs.Program.ExitStatus
import SarifDigest.Proofs.Projection.Contents

/-!
# Presentation

How a digest is shown, how much is said about the work and who reports where no tool is named are
matters of presentation. The reporter stands in the violations and so decides which of them fall
together: two runs that differ in it have different digests and different counts. But whether a
report can be read does not depend on it, and every violation of one digest is in the other, but
for the reporter, with the severity that it has. So the verdict of both runs is the same.
-/
namespace SarifDigest

open Sarif

section Reporters

variable {default : String} {violation : Violation} {set : ViolationSet}

/-- What a result yields with one default for the names of tools it yields with another, in the
name of another reporter. -/
theorem Sarif.Result.Yields.renamed {result : Result} {run : Run}
    (yields : result.Yields run default violation) (other : String) :
    result.Yields run other { violation with reporter := run.reporter other } := by
  have reports : run.Reports other (run.reporter other) := Run.reports_iff.2 rfl
  cases yields with
  | fileless found unlocated belongs file startLine message =>
    have renamed : Violation.BelongsTo { violation with reporter := run.reporter other } run other
        result := { belongs with reporter := reports }
    exact .fileless found unlocated renamed file startLine message
  | located found listed inside points locates spoken belongs file startLine message =>
    have renamed : Violation.BelongsTo { violation with reporter := run.reporter other } run other
        result := { belongs with reporter := reports }
    exact .located found listed inside points locates spoken renamed file startLine message

/-- Every violation of a set is in another, but for its reporter. -/
def ViolationSet.RenamedIn (set other : ViolationSet) : Prop :=
  ∀ violation ∈ set.toList, ∃ reporter, { violation with reporter } ∈ other.toList

/-- A report that can be projected with one default can be projected with another, and has the
same violations but for their reporters. -/
theorem reportViolations_renamed {report : String}
    (projected : reportViolations report default = .ok set) (other : String) :
    ∃ set', reportViolations report other = .ok set' ∧ set.RenamedIn set' := by
  obtain ⟨log, decoded, yields⟩ := yields_of_reportViolations projected
  have whole : ∀ run ∈ log.runList, ¬ run.Dangles := by
    cases reportViolations_cases default decoded with
    | inl refused =>
      obtain ⟨_, fault, refused⟩ := refused
      rw [refused] at projected
      contradiction
    | inr given => exact given.1
  cases reportViolations_cases other decoded with
  | inl refused =>
    obtain ⟨⟨run, ran, dangles⟩, _⟩ := refused
    exact absurd dangles (whole run ran)
  | inr given =>
    obtain ⟨_, set', projected', yields'⟩ := given
    refine ⟨set', projected', fun violation inside => ?_⟩
    obtain ⟨run, ran, result, reported, yielded⟩ := (yields violation).1 inside
    have renamed := yielded.renamed other
    exact ⟨run.reporter other, (yields' _).2 ⟨run, ran, result, reported, renamed⟩⟩

variable {tree : FileTree} {target : Path}

/-- A file that gives violations gives the same for any reporter, but for their reporters. -/
theorem outcome_renamed (given : (readReportFile tree default target).outcome = .ok set)
    (other : String) :
    ∃ set', (readReportFile tree other target).outcome = .ok set' ∧ set.RenamedIn set' := by
  obtain ⟨report, read, projected⟩ := outcome_eq_ok_iff_report.1 given
  obtain ⟨set', projected', renamed⟩ := reportViolations_renamed projected other
  exact ⟨set', outcome_eq_ok_iff_report.2 ⟨report, read, projected'⟩, renamed⟩

/-- A target does not fail when its file gives violations. -/
theorem isFailing_eq_false_iff : isFailing tree default target = false ↔
    ∃ set, (readReportFile tree default target).outcome = .ok set := by
  unfold isFailing
  cases (readReportFile tree default target).outcome with
  | error fault => simp [Except.isOk, Except.toBool]
  | ok set => simp [Except.isOk, Except.toBool]

/-- Whether a target fails does not depend on the reporter. -/
theorem isFailing_renamed (tree : FileTree) (default other : String) (target : Path) :
    isFailing tree default target = isFailing tree other target := by
  have fine : ∀ first second : String, isFailing tree first target = false →
      isFailing tree second target = false := by
    intro first second unfailed
    obtain ⟨set, given⟩ := isFailing_eq_false_iff.1 unfailed
    obtain ⟨set', given', _⟩ := outcome_renamed given second
    exact isFailing_eq_false_iff.2 ⟨set', given'⟩
  apply Bool.eq_iff_iff.2
  rw [← Bool.not_eq_false, ← Bool.not_eq_false]
  exact not_congr ⟨fine default other, fine other default⟩

end Reporters

namespace Settings

/-- Settings that read the same inputs below the same root and have the same threshold. They may
differ in their reporter and their output. -/
structure Alike (settings other : Settings) : Prop where
  root : settings.root = other.root
  inputs : settings.inputs = other.inputs
  threshold : settings.threshold = other.threshold

variable {settings other : Settings} (alike : settings.Alike other) {tree : FileTree}

/-- Settings are alike in both directions. -/
theorem Alike.symm (alike : settings.Alike other) : other.Alike settings :=
  ⟨alike.root.symm, alike.inputs.symm, alike.threshold.symm⟩

include alike

/-- Settings that are alike lead to the same targets. -/
theorem Alike.targets_eq :
    targets tree settings.root settings.inputs = targets tree other.root other.inputs := by
  rw [alike.root, alike.inputs]

/-- Where some report is parsed, one is parsed with settings that are alike. -/
theorem Alike.parses (parses : settings.Parses tree) : other.Parses tree := by
  obtain ⟨target, inside, unfailed⟩ := parses
  rw [alike.targets_eq] at inside
  rw [isFailing_renamed tree settings.reporter other.reporter] at unfailed
  exact ⟨target, inside, unfailed⟩

/-- Where something fails, something fails with settings that are alike. -/
theorem Alike.hasFailure (failure : settings.HasFailure tree) : other.HasFailure tree := by
  cases failure with
  | inl malformed =>
    rw [alike.root, alike.inputs] at malformed
    exact .inl malformed
  | inr failing =>
    obtain ⟨target, inside, failed⟩ := failing
    rw [alike.targets_eq] at inside
    rw [isFailing_renamed tree settings.reporter other.reporter] at failed
    exact .inr ⟨target, inside, failed⟩

/-- Where a violation reaches the threshold, one reaches it with settings that are alike. -/
theorem Alike.reachesThreshold (reaches : settings.ReachesThreshold tree) :
    other.ReachesThreshold tree := by
  obtain ⟨violation, inside, severe⟩ := reaches
  obtain ⟨target, listed, set, given, member⟩ := mem_collect_iff.1 inside
  obtain ⟨set', given', renamed⟩ := outcome_renamed given other.reporter
  obtain ⟨reporter, counterpart⟩ := renamed violation member
  rw [alike.targets_eq] at listed
  rw [alike.threshold] at severe
  exact ⟨{ violation with reporter }, mem_collect_iff.2 ⟨target, listed, set', given', counterpart⟩,
    severe⟩

/-- Runs with settings that are alike end with the same status, in whatever environment and with
whatever filter. -/
theorem Alike.run_status (environment environment' : Environment) (filter filter' : Filter) :
    (settings.run tree environment filter).status =
      (other.run tree environment' filter').status := by
  have parses : settings.Parses tree ↔ other.Parses tree :=
    ⟨alike.parses, alike.symm.parses⟩
  have failure : settings.HasFailure tree ↔ other.HasFailure tree :=
    ⟨alike.hasFailure, alike.symm.hasFailure⟩
  have reaches : settings.ReachesThreshold tree ↔ other.ReachesThreshold tree :=
    ⟨alike.reachesThreshold, alike.symm.reachesThreshold⟩
  have unusable : (settings.run tree environment filter).status = .unusable ↔
      (other.run tree environment' filter').status = .unusable := by
    rw [run_unusable_iff, run_unusable_iff, parses, failure]
  have failed : (settings.run tree environment filter).status = .failed ↔
      (other.run tree environment' filter').status = .failed := by
    rw [run_failed_iff, run_failed_iff, ne_eq, ne_eq, unusable, failure, reaches]
  cases ended : (settings.run tree environment filter).status with
  | unusable => exact (unusable.1 ended).symm
  | failed => exact (failed.1 ended).symm
  | passed =>
    rw [ended] at unusable failed
    cases ended' : (other.run tree environment' filter').status with
    | unusable => exact absurd (unusable.2 ended') (by decide)
    | failed => exact absurd (failed.2 ended') (by decide)
    | passed => rfl

/-- Settings that are alike and have the same reporter lead to the same digest. -/
theorem Alike.digest_eq (reporter : settings.reporter = other.reporter) :
    settings.digest tree = other.digest tree := by
  unfold digest
  rw [alike.root, alike.inputs, reporter]

end Settings

namespace Overrides

/-- The root that overrides lead to in a tree. -/
def rootIn (overrides : Overrides) (tree : FileTree) : Path :=
  detectRoot tree (.ofText (overrides.root.getD "."))

/-- The output mode that overrides choose, with the configuration at their root, is a known one. A
configuration that cannot be read asks for none. -/
def HasMode (overrides : Overrides) (tree : FileTree) : Prop :=
  ∀ loaded, loadConfig tree (overrides.rootIn tree) = .ok loaded →
    ∃ mode, chooseWord OutputMode.ofText .human overrides.output (loaded.getD {}).output = .ok mode

variable {overrides other : Overrides} {tree : FileTree}

/-- Overrides are resolved by the configuration at their root. -/
theorem resolve_eq (overrides : Overrides) (tree : FileTree) :
    overrides.resolve tree =
      (loadConfig tree (overrides.rootIn tree)).bind (overrides.settle (overrides.rootIn tree)) :=
  rfl

/-- Once the output mode is known, settings depend on the threshold alone. -/
theorem settle_of_mode {root : Path} {loaded : Option Config} {mode : OutputMode}
    (chosen : chooseWord OutputMode.ofText .human overrides.output (loaded.getD {}).output =
      .ok mode) :
    overrides.settle root loaded =
      (chooseWord Threshold.ofText .error overrides.failOn (loaded.getD {}).failOn).map
        fun threshold => {
          root, threshold
          configFound := loaded.isSome
          inputs := chooseInputs overrides.inputs (loaded.getD {}).inputs
          output := mode
          reporter := chooseReporter overrides.reporter (loaded.getD {}).reporter } := by
  unfold settle
  dsimp only
  rw [chosen]
  cases chooseWord Threshold.ofText .error overrides.failOn (loaded.getD {}).failOn <;> rfl

/-- Overrides of the same root, inputs and threshold that choose known output modes are refused
alike, or lead to settings that are alike. -/
theorem resolve_alike (root : overrides.root = other.root)
    (inputs : overrides.inputs = other.inputs) (failOn : overrides.failOn = other.failOn)
    (mode : overrides.HasMode tree) (mode' : other.HasMode tree) :
    (∃ fault, overrides.resolve tree = .error fault ∧ other.resolve tree = .error fault) ∨
    ∃ settings settings', overrides.resolve tree = .ok settings ∧
      other.resolve tree = .ok settings' ∧ settings.Alike settings' := by
  have roots : other.rootIn tree = overrides.rootIn tree := by rw [rootIn, rootIn, root]
  rw [resolve_eq, resolve_eq, roots]
  unfold HasMode at mode mode'
  rw [roots] at mode'
  cases found : loadConfig tree (overrides.rootIn tree) with
  | error fault => exact .inl ⟨fault, rfl, rfl⟩
  | ok loaded =>
    obtain ⟨output, chosen⟩ := mode loaded found
    obtain ⟨output', chosen'⟩ := mode' loaded found
    change (∃ fault, overrides.settle _ loaded = .error fault ∧
        other.settle _ loaded = .error fault) ∨
      ∃ settings settings', overrides.settle _ loaded = .ok settings ∧
        other.settle _ loaded = .ok settings' ∧ settings.Alike settings'
    rw [settle_of_mode chosen, settle_of_mode chosen', ← failOn, ← inputs]
    cases chooseWord Threshold.ofText .error overrides.failOn (loaded.getD {}).failOn with
    | error fault => exact .inl ⟨fault, rfl, rfl⟩
    | ok threshold => exact .inr ⟨_, _, rfl, rfl, rfl, rfl, rfl⟩

/-- What two runs that differ in presentation have in common: the exit status, and, for the same
effective reporter, the digest that is printed. -/
structure SameVerdict (tree : FileTree) (overrides other : Overrides)
    (environment environment' : Environment) (outcome outcome' : Outcome) : Prop where
  /-- Both end with the same status. -/
  code : outcome.status.code = outcome'.status.code
  /-- With the same reporter both have the same violations, summary and failures. -/
  digest : ∀ settings settings', overrides.resolve tree = .ok settings →
    other.resolve tree = .ok settings' → settings.reporter = settings'.reporter →
      settings.digest tree = settings'.digest tree
  /-- The first prints the digest of its settings in its own way, unless it is unusable. -/
  output : ∀ settings, overrides.resolve tree = .ok settings → outcome.status.code ≠ 2 →
    outcome.output = (settings.digest tree).print settings.output environment.colours
  /-- So does the second. -/
  output' : ∀ settings', other.resolve tree = .ok settings' → outcome'.status.code ≠ 2 →
    outcome'.output = (settings'.digest tree).print settings'.output environment'.colours

/-- A run with settings prints their digest unless it is unusable. -/
theorem output_of_resolved {settings : Settings} (resolved : overrides.resolve tree = .ok settings)
    (environment : Environment) (filter : Filter)
    (used : (overrides.run tree environment filter).status.code ≠ 2) :
    (overrides.run tree environment filter).output =
      (settings.digest tree).print settings.output environment.colours := by
  rw [run_of_resolved resolved] at used ⊢
  have usable : (settings.run tree environment filter).status ≠ .unusable := by
    intro unusable
    rw [unusable] at used
    exact used rfl
  rw [Settings.run_output, if_neg usable]

/-- Presentation does not change the verdict: two command lines that ask for digests of the same
inputs below the same root with the same threshold, in whatever output modes, for whatever
reporters, with whatever diagnostics and in whatever environments, end with the same exit status;
and with the same effective reporter both print the same digest. -/
theorem runProgram_sameVerdict {words words' : List String} {invocation invocation' : Invocation}
    (accepted : Invocation.ofWords words = .ok invocation)
    (accepted' : Invocation.ofWords words' = .ok invocation')
    (asked : invocation.task = .digest overrides) (asked' : invocation'.task = .digest other)
    (root : overrides.root = other.root) (inputs : overrides.inputs = other.inputs)
    (failOn : overrides.failOn = other.failOn) (mode : overrides.HasMode tree)
    (mode' : other.HasMode tree) (environment environment' : Environment) :
    SameVerdict tree overrides other environment environment'
      (runProgram tree environment words) (runProgram tree environment' words') := by
  rw [runProgram_of_accepted accepted asked, runProgram_of_accepted accepted' asked']
  have resolved := resolve_alike root inputs failOn mode mode'
  refine ⟨?code, ?digest, ?output, ?output'⟩
  case code =>
    cases resolved with
    | inl refused =>
      obtain ⟨fault, refused, refused'⟩ := refused
      rw [run_of_refused refused, run_of_refused refused']
    | inr resolved =>
      obtain ⟨settings, settings', resolved, resolved', alike⟩ := resolved
      rw [run_of_resolved resolved, run_of_resolved resolved', alike.run_status]
  case digest =>
    intro settings settings' given given' reporter
    cases resolved with
    | inl refused =>
      obtain ⟨fault, refused, _⟩ := refused
      rw [given] at refused
      contradiction
    | inr resolved =>
      obtain ⟨own, own', resolved, resolved', alike⟩ := resolved
      cases given.symm.trans resolved
      cases given'.symm.trans resolved'
      exact alike.digest_eq reporter
  case output =>
    intro settings given used
    exact output_of_resolved given environment _ used
  case output' =>
    intro settings' given used
    exact output_of_resolved given environment' _ used

/-- A report of two runs with the same finding, of which only the first names its tool. -/
def halfNamedTree : FileTree where
  top := .folder [("a.sarif", .file ("[[[[[\"x\"]],null,[[\"r\",[\"m\"],\"error\"]]]," ++
    "[null,null,[[\"r\",[\"m\"],\"error\"]]]]]").toUTF8)]
  here := []

/-- A command line that asks for its digest as it is. -/
def bareWords : List String := ["parse", "*.sarif"]

/-- A command line that asks for it as data, in the name of the first tool, with diagnostics. -/
def namedWords : List String := ["-v", "parse", "--output=json", "--reporter", "x", "*.sarif"]

/-- The two findings are two violations or one, depending on the reporter, and both runs fail;
the second is in an environment with a filter that cannot be read. -/
theorem runProgram_sameVerdict_halfNamed :
    let bare : Overrides := { inputs := ["*.sarif"] }
    let named : Overrides :=
      { inputs := ["*.sarif"], output := some "json", reporter := some "x" }
    Invocation.ofWords bareWords = .ok ⟨.digest bare, {}⟩ ∧
    Invocation.ofWords namedWords = .ok ⟨.digest named, ⟨1, 0⟩⟩ ∧
    Filter.ofText? "]" = none ∧
    (runProgram halfNamedTree ⟨true, none⟩ bareWords).status.code = 1 ∧
    (collect halfNamedTree .here ["*.sarif"] "Sarif").summary = { errors := 2, files := 1 } ∧
    (collect halfNamedTree .here ["*.sarif"] "x").summary = { errors := 1, files := 1 } ∧
    SameVerdict halfNamedTree bare named ⟨true, none⟩ ⟨false, some "]"⟩
      (runProgram halfNamedTree ⟨true, none⟩ bareWords)
      (runProgram halfNamedTree ⟨false, some "]"⟩ namedWords) := by
  intro bare named
  have accepted : Invocation.ofWords bareWords = .ok ⟨.digest bare, {}⟩ := by decide +kernel
  have accepted' : Invocation.ofWords namedWords = .ok ⟨.digest named, ⟨1, 0⟩⟩ := by
    decide +kernel
  have unread : loadConfig halfNamedTree (bare.rootIn halfNamedTree) = .ok none := by
    decide +kernel
  have mode : bare.HasMode halfNamedTree := by
    intro loaded found
    cases unread.symm.trans found
    exact ⟨.human, by decide +kernel⟩
  have mode' : named.HasMode halfNamedTree := by
    intro loaded found
    cases unread.symm.trans found
    exact ⟨.json, by decide +kernel⟩
  exact ⟨accepted, accepted', by decide +kernel, by decide +kernel, by decide +kernel,
    by decide +kernel, runProgram_sameVerdict accepted accepted' rfl rfl rfl rfl rfl mode mode'
      ⟨true, none⟩ ⟨false, some "]"⟩⟩

end Overrides

end SarifDigest
