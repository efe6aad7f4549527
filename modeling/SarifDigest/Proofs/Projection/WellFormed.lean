import Mathlib.Data.List.DropRight
import SarifDigest.Program.Digesting
import SarifDigest.Proofs.Collection.Accounting
import SarifDigest.Proofs.Files.Following
import SarifDigest.Proofs.Projection.Contents
import SarifDigest.Proofs.Sarif.Lines

/-!
# Well-formed violations

Every violation that is read from a report is well formed, whichever result it comes from. A
line of zero and the file `-` say together that there is no place. A file that is not known is
written as `-` too, but the violation at such a place has a line, so the two never meet. The
name of a tool may be the default, which is taken as it is; the one that settings give is
visible.
-/
namespace SarifDigest

open Sarif

namespace Text

/-- A text with no white space at either end. -/
structure Trimmed (text : String) : Prop where
  /-- It does not start with white space. -/
  front : ∀ c, text.toList.head? = some c → isBlank c = false
  /-- It does not end with white space. -/
  back : ∀ c, text.toList.getLast? = some c → isBlank c = false

/-- What is left of a text behind its first blanks does not start with one. -/
theorem isBlank_of_dropWhile {text : List Char} {c : Char}
    (first : (text.dropWhile isBlank).head? = some c) : isBlank c = false := by
  have stopped := List.head?_dropWhile_not isBlank text
  rw [first] at stopped
  simpa using stopped

/-- A text without its blanks at the ends is trimmed. -/
theorem trimmed_trim (text : String) : Trimmed (trim text) := by
  have chars : (trim text).toList = (text.toList.dropWhile isBlank).rdropWhile isBlank :=
    String.toList_ofList
  constructor
  · intro c first
    rw [chars] at first
    obtain ⟨blanks, whole⟩ := List.rdropWhile_prefix isBlank (text.toList.dropWhile isBlank)
    have start : (text.toList.dropWhile isBlank).head? = some c := by
      rw [← whole, List.head?_append, first]
      rfl
    exact isBlank_of_dropWhile start
  · intro c last
    rw [chars, List.rdropWhile, List.getLast?_reverse] at last
    exact isBlank_of_dropWhile last

/-- Only the empty text is found in the empty text. -/
theorem contains_empty {pattern : String} (full : pattern ≠ "") : contains "" pattern = false := by
  have chars : pattern.toList ≠ [] := fun none => full (String.toList_eq_nil_iff.1 none)
  simpa [contains, occursIn] using chars

end Text

/-- A message without a place says something when something was found. -/
theorem filelessMessage_ne_empty (description : Option String) {finding : String}
    (full : finding ≠ "") : filelessMessage description finding ≠ "" := by
  unfold filelessMessage
  by_cases said : Text.contains (description.getD "") finding = true
  · simp only [if_pos said]
    intro silent
    rw [silent, Text.contains_empty full] at said
    contradiction
  · simp only [if_neg said]
    intro silent
    have pieces := congrArg String.toList silent
    simp [full] at pieces

/-- The properties of every violation that is read from a report, given the default for the
names of tools. -/
structure Violation.WellFormed (violation : Violation) (default : String) : Prop where
  /-- The line is an integer of 64 bits with a sign. -/
  line : violation.startLine ≤ 2 ^ 63 - 1
  /-- There is no place when there is no line, whatever is known of the file. -/
  fileless : violation.isFileless = true ↔ violation.startLine = 0
  /-- The message at a place has no white space at its ends. -/
  trimmed : violation.startLine ≠ 0 → Text.Trimmed violation.message
  /-- The message without a place says something. -/
  spoken : violation.startLine = 0 → violation.message ≠ ""
  /-- There is no detail but the correlation, which is not empty. -/
  specifics : violation.specifics.pairs = [] ∨
    ∃ correlation, correlation ≠ "" ∧
      violation.specifics.pairs = [("correlationGuid", correlation)]
  /-- The reporter is visible or the default. -/
  reporter : (∃ c ∈ violation.reporter.toList, Text.isBlank c = false) ∨
    violation.reporter = default

/-- A violation stands for a result: without a line when the result has no locations, and
otherwise at the line that one of its locations points at, in the file that the run names. -/
structure Violation.StandsFor (violation : Violation) (run : Run) (result : Result) : Prop where
  /-- Only a result without locations has a violation without a line. -/
  unlocated : violation.startLine = 0 ↔ result.locationList = []
  /-- The line is the integer of a location, and the file is that of the location. -/
  located : violation.startLine ≠ 0 → ∃ location ∈ result.locationList, ∃ file region uri,
    location.PointsAt file region violation.startLine ∧ run.Locates file uri ∧
      violation.file = uri.getD "-"

section Yielded

variable {result : Result} {run : Run} {default : String} {violation : Violation}

/-- The details of a result are its correlation or none. -/
theorem Sarif.Result.Details.correlation {pairs : List (String × String)}
    (details : result.Details pairs) :
    pairs = [] ∨ ∃ correlation, correlation ≠ "" ∧ pairs = [("correlationGuid", correlation)] := by
  cases details with
  | correlated _ full => exact .inr ⟨_, full, rfl⟩
  | uncorrelated _ => exact .inl rfl

/-- The reporter of a run is visible or the default. -/
theorem Sarif.Run.Reports.visible {reporter : String} (reports : run.Reports default reporter) :
    (∃ c ∈ reporter.toList, Text.isBlank c = false) ∨ reporter = default := by
  cases reports with
  | named _ _ _ visible => exact .inl visible
  | unnamed _ => exact .inr rfl

/-- The locations of a result that has some are listed. -/
theorem Sarif.Result.mem_locationList {locations : List Location} {location : Location}
    (listed : result.locations = some locations) (inside : location ∈ locations) :
    location ∈ result.locationList := by
  rw [Result.locationList, listed]
  exact inside

/-- A violation without a line has no file either, when it has the file `-`. -/
theorem Violation.isFileless_of {violation : Violation} (file : violation.file = "-")
    (startLine : violation.startLine = 0) : violation.isFileless = true := by
  simp [isFileless, noFile, noLine, file, startLine]

/-- A violation with a line has a place. -/
theorem Violation.startLine_of_isFileless {violation : Violation}
    (fileless : violation.isFileless = true) : violation.startLine = 0 := by
  have both := Bool.and_eq_true_iff.1 fileless
  exact of_decide_eq_true both.2

/-- A violation that a result yields is well formed when the lines that the locations of the
result point at are integers of 64 bits. -/
theorem Sarif.Result.Yields.wellFormed (yields : result.Yields run default violation)
    (bounded : ∀ location ∈ result.locationList, ∀ file region line,
      location.PointsAt file region line → line ≤ 2 ^ 63 - 1) :
    violation.WellFormed default := by
  cases yields with
  | @fileless finding found _ belongs file startLine message =>
    have line : violation.startLine ≤ 2 ^ 63 - 1 := by
      rw [startLine]
      exact Nat.zero_le _
    have spoken : violation.message ≠ "" := by
      rw [message]
      exact filelessMessage_ne_empty _ found.2
    exact {
      line
      fileless := ⟨fun _ => startLine, Violation.isFileless_of file⟩
      trimmed := fun present => absurd startLine present
      spoken := fun _ => spoken
      specifics := belongs.specifics.correlation
      reporter := belongs.reporter.visible }
  | @located finding locations location named region line uri addition _ listed inside points _ _
      belongs _ startLine message =>
    have positive := points.positive
    have listed := Sarif.Result.mem_locationList listed inside
    have range := bounded location listed named region line points
    have present : violation.startLine ≠ 0 := by omega
    have trimmed : Text.Trimmed violation.message := by
      rw [message]
      exact Text.trimmed_trim _
    exact {
      line := by omega
      fileless := ⟨Violation.startLine_of_isFileless, fun absent => absurd absent present⟩
      trimmed := fun _ => trimmed
      spoken := fun absent => absurd absent present
      specifics := belongs.specifics.correlation
      reporter := belongs.reporter.visible }

/-- A violation stands for every result that yields it. -/
theorem Sarif.Result.Yields.standsFor (yields : result.Yields run default violation) :
    violation.StandsFor run result := by
  cases yields with
  | fileless _ unlocated _ _ startLine _ =>
    have nowhere : result.locationList = [] := by
      cases unlocated with
      | inl absent => rw [Result.locationList, absent, Option.getD_none]
      | inr empty => rw [Result.locationList, empty, Option.getD_some]
    exact ⟨⟨fun _ => nowhere, fun _ => startLine⟩, fun present => absurd startLine present⟩
  | @located finding locations location named region line uri addition _ listed inside points
      locates _ _ file startLine _ =>
    have positive := points.positive
    have present : violation.startLine ≠ 0 := by omega
    have listed := Sarif.Result.mem_locationList listed inside
    have somewhere : result.locationList ≠ [] := List.ne_nil_of_mem listed
    rw [← startLine] at points
    exact ⟨⟨fun absent => absurd absent present, fun nowhere => absurd nowhere somewhere⟩,
      fun _ => ⟨location, listed, named, region, uri, points, locates, file⟩⟩

end Yielded

/-- The reporter that settings choose is visible. -/
theorem chooseReporter_visible (given configured : Option String) :
    ∃ c ∈ (chooseReporter given configured).toList, Text.isBlank c = false := by
  unfold chooseReporter
  cases chosen : (given.or configured).filter fun name => !Text.isBlankText name with
  | none => exact ⟨'S', by decide +kernel, by decide +kernel⟩
  | some name =>
    have visible := (Option.filter_eq_some_iff.1 chosen).2
    rw [Bool.not_eq_true'] at visible
    exact isBlankText_eq_false_iff.1 visible

/-- The reporter of settings that were found is visible. -/
theorem Overrides.reporter_visible {overrides : Overrides} {tree : FileTree} {settings : Settings}
    (resolved : overrides.resolve tree = .ok settings) :
    ∃ c ∈ settings.reporter.toList, Text.isBlank c = false := by
  obtain ⟨loaded, _, settled⟩ := bind_eq_ok_iff.1 resolved
  obtain ⟨output, _, settled⟩ := bind_eq_ok_iff.1 settled
  obtain ⟨threshold, _, settled⟩ := bind_eq_ok_iff.1 settled
  cases settled
  exact chooseReporter_visible _ _

/-- The violations of a report are well formed: their lines are those of the log and within 63
bits, no place is known exactly for those of results without locations, and their messages,
details and reporters are as they should be. When the default for reporters is that of settings,
every reporter that is collected is visible. -/
theorem reportViolations_wellFormed :
    (∀ report default set, reportViolations report default = .ok set →
      ∃ log, Log.decode report = .ok log ∧ ∀ violation ∈ set.toList,
        violation.WellFormed default ∧
        (∃ run ∈ log.runList, ∃ result ∈ run.resultList, result.Yields run default violation) ∧
        ∀ run ∈ log.runList, ∀ result ∈ run.resultList,
          result.Yields run default violation → violation.StandsFor run result) ∧
    ∀ overrides tree settings, Overrides.resolve overrides tree = .ok settings →
      ∀ violation ∈ (settings.digest tree).violations.toList,
        ∃ c ∈ violation.reporter.toList, Text.isBlank c = false := by
  have wellFormed : ∀ report default set, reportViolations report default = .ok set →
      ∃ log, Log.decode report = .ok log ∧ ∀ violation ∈ set.toList,
        violation.WellFormed default ∧
        ∃ run ∈ log.runList, ∃ result ∈ run.resultList, result.Yields run default violation := by
    intro report default set projected
    obtain ⟨log, decoded, yields⟩ := yields_of_reportViolations projected
    refine ⟨log, decoded, fun violation inside => ?_⟩
    obtain ⟨run, ran, result, reported, yielded⟩ := (yields violation).1 inside
    have bounded := fun location located file region line =>
      @Log.line_le_of_decode report log decoded run ran result reported location located file
        region line
    exact ⟨yielded.wellFormed bounded, run, ran, result, reported, yielded⟩
  constructor
  · intro report default set projected
    obtain ⟨log, decoded, formed⟩ := wellFormed report default set projected
    refine ⟨log, decoded, fun violation inside => ?_⟩
    obtain ⟨own, origin⟩ := formed violation inside
    exact ⟨own, origin, fun run _ result _ yielded => yielded.standsFor⟩
  · intro overrides tree settings resolved violation inside
    obtain ⟨target, _, set, given, member⟩ := mem_collect_iff.1 inside
    obtain ⟨report, _, projected⟩ := outcome_eq_ok_iff_report.1 given
    obtain ⟨_, _, formed⟩ := wellFormed report settings.reporter set projected
    cases (formed violation member).1.reporter with
    | inl visible => exact visible
    | inr standard =>
      rw [standard]
      exact Overrides.reporter_visible resolved

/-- Overrides whose reporter is blank, which counts as none. -/
def blankOverrides : Overrides := { inputs := ["*.sarif"], reporter := some " \t" }

/-- What they lead to in a tree without a configuration. -/
def blankSettings : Settings where
  root := .here
  configFound := false
  inputs := ["*.sarif"]
  output := .human
  reporter := "Sarif"
  threshold := .error

/-- Both violations of the mixed report are well formed, one at a line and one without a place;
and the violation of the uneven tree, where no tool is named, has a visible reporter even if a
blank one is asked for. -/
theorem reportViolations_wellFormed_mixed :
    reportViolations mixedReport "Sarif" = .ok (.ofList mixedViolations) ∧
    (∀ violation ∈ (OrderedSet.ofList mixedViolations).toList, violation.WellFormed "Sarif") ∧
    blankOverrides.resolve unevenTree = .ok blankSettings ∧
    (blankSettings.digest unevenTree).violations.size = 1 ∧
    ∀ violation ∈ (blankSettings.digest unevenTree).violations.toList,
      ∃ c ∈ violation.reporter.toList, Text.isBlank c = false := by
  have projected := mixedReport_projected.2
  have resolved : blankOverrides.resolve unevenTree = .ok blankSettings := by decide +kernel
  obtain ⟨_, _, formed⟩ := reportViolations_wellFormed.1 mixedReport "Sarif" _ projected
  exact ⟨projected, fun violation inside => (formed violation inside).1, resolved,
    by decide +kernel, reportViolations_wellFormed.2 blankOverrides unevenTree _ resolved⟩

end SarifDigest
