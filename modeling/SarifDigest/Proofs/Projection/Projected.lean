import SarifDigest.Proofs.Ordered.Membership
import SarifDigest.Proofs.Projection.Elements
import SarifDigest.Proofs.Projection.Trails
import SarifDigest.Proofs.Violation.Order

/-!
# The violations of a log

Which violations a result of a run yields is a relation that reads the members of the log. A
report that is projected to the end holds the violations that its results yield, and no others:
what is skipped neither adds a violation nor keeps its neighbours from adding theirs.
-/
namespace SarifDigest

open Sarif

/-- A violation has the rule, the severity and the details of a result, and the reporter of its
run. -/
structure Violation.BelongsTo (violation : Violation) (run : Run) (default : String)
    (result : Result) : Prop where
  /-- It is read from the one format there is. -/
  parser : violation.parser = .sarif
  /-- A result without a rule has the empty text for it. -/
  rule : violation.rule = result.ruleId.getD ""
  /-- The severity goes by the level alone. -/
  severity : violation.severity = result.level.severity
  /-- The reporter is the run's. -/
  reporter : run.Reports default violation.reporter
  /-- The details hold the correlation. -/
  specifics : result.Details violation.specifics.pairs

/-- A result of a run yields a violation: one without a file when it has no locations, and
otherwise one for each location that points at a line of a file the run can name. -/
inductive Sarif.Result.Yields (result : Result) (run : Run) (default : String)
    (violation : Violation) : Prop
  | fileless {finding : String} (found : result.Finds finding)
      (unlocated : result.locations = none ∨ result.locations = some [])
      (belongs : violation.BelongsTo run default result)
      (file : violation.file = "-") (startLine : violation.startLine = 0)
      (message : violation.message =
        filelessMessage ((RuleTable.ofRun run).description? (result.ruleId.getD "")) finding)
  | located {finding : String} {locations : List Location} {location : Location}
      {named : Option ArtifactLocation} {region : Region} {line : Int}
      {uri addition : Option String}
      (found : result.Finds finding) (listed : result.locations = some locations)
      (inside : location ∈ locations) (points : location.PointsAt named region line)
      (locates : run.Locates named uri) (spoken : Says region.message addition)
      (belongs : violation.BelongsTo run default result)
      (file : violation.file = uri.getD "-") (startLine : (violation.startLine : Int) = line)
      (message : violation.message =
        locatedMessage finding addition ((RuleTable.ofRun run).help? (result.ruleId.getD "")))

/-- Details with the same pairs are the same. -/
theorem details_eq_iff {details : Details} {result : Result} :
    result.Details details.pairs ↔ details = result.details := by
  rw [Result.details_iff]
  constructor
  · exact fun same => (Details.pairs_injective same).symm
  · rintro rfl
    rfl

namespace RunContext

variable {default : String} {run : Run} {result : Result} {violation : Violation}

/-- What a violation has from its result and run decides all fields but three. -/
theorem belongsTo_iff :
    violation.BelongsTo run default result ↔
      violation = { violation with
        parser := .sarif
        rule := result.rule
        severity := result.level.severity
        reporter := run.reporter default
        specifics := result.details } := by
  constructor
  · rintro ⟨parser, rule, severity, reporter, specifics⟩
    rw [Run.reports_iff] at reporter
    rw [details_eq_iff] at specifics
    cases violation
    simp only at parser rule severity reporter specifics
    simp only [rule, severity, reporter, specifics, Result.rule]
  · intro same
    rw [same]
    exact ⟨rfl, rfl, rfl, Run.reports_iff.2 rfl, details_eq_iff.2 rfl⟩

/-- The violation of a result without locations. -/
theorem eq_fileless_iff (position : Nat) {finding : String} :
    violation = (RunContext.of default position run).fileless result finding ↔
      violation.BelongsTo run default result ∧ violation.file = "-" ∧ violation.startLine = 0 ∧
      violation.message =
        filelessMessage ((RuleTable.ofRun run).description? (result.ruleId.getD "")) finding := by
  rw [belongsTo_iff]
  constructor
  · rintro rfl
    exact ⟨rfl, rfl, rfl, rfl⟩
  · rintro ⟨belongs, file, startLine, message⟩
    rw [belongs, file, startLine, message]
    rfl

/-- The violation of a result at a place. -/
theorem eq_located_iff (position : Nat) {finding : String} {place : Place} {uri : Option String} :
    violation = (RunContext.of default position run).located result finding place uri ↔
      violation.BelongsTo run default result ∧ violation.file = uri.getD "-" ∧
      violation.startLine = place.line ∧
      violation.message = locatedMessage finding (shownText place.region.message)
        ((RuleTable.ofRun run).help? (result.ruleId.getD "")) := by
  rw [belongsTo_iff]
  constructor
  · rintro rfl
    exact ⟨rfl, rfl, rfl, rfl⟩
  · rintro ⟨belongs, file, startLine, message⟩
    rw [belongs, file, startLine, message]
    rfl

/-- A location adds the violation of its place when its file can be named, and nothing when it
has no place. -/
theorem mem_found_locationTrail {context : RunContext} {finding : String} {location : Location} :
    violation ∈ (context.locationTrail result finding location).found ↔
      ∃ place uri, location.place = .ok place ∧
        context.run.file? (referenceOf place.file) = .ok uri ∧
        violation = context.located result finding place uri := by
  unfold locationTrail
  cases placed : location.place with
  | error omission => simp [Trail.found, Trail.step, Step.violation?]
  | ok place =>
    cases named : context.run.file? (referenceOf place.file) with
    | error index => simp [named, Trail.found, Trail.fail]
    | ok uri => simp [named, Trail.found, Trail.step, Step.violation?]

/-- A result without locations yields its violation without a file. -/
theorem yields_unlocated_iff (position : Nat) {finding : String} (found : result.Finds finding)
    (unlocated : result.locationList = []) :
    result.Yields run default violation ↔
      violation = (RunContext.of default position run).fileless result finding := by
  rw [eq_fileless_iff position]
  constructor
  · intro yields
    cases yields with
    | fileless finds _ belongs file startLine message =>
      cases finds.unique found
      exact ⟨belongs, file, startLine, message⟩
    | located _ listed inside =>
      rw [Result.locationList, listed, Option.getD_some] at unlocated
      rw [unlocated] at inside
      contradiction
  · rintro ⟨belongs, file, startLine, message⟩
    refine .fileless found ?_ belongs file startLine message
    cases listed : result.locations with
    | none => exact .inl rfl
    | some locations =>
      rw [Result.locationList, listed, Option.getD_some] at unlocated
      exact .inr (by rw [unlocated])

/-- A result with locations yields the violations of those that have a place whose file can be
named. -/
theorem yields_located_iff (position : Nat) {finding : String} {locations : List Location}
    (found : result.Finds finding) (listed : result.locations = some locations)
    (located : locations ≠ []) :
    result.Yields run default violation ↔
      ∃ location ∈ locations, violation ∈
        ((RunContext.of default position run).locationTrail result finding location).found := by
  constructor
  · intro yields
    cases yields with
    | fileless _ unlocated =>
      simp [listed, located] at unlocated
    | located finds given inside points locates spoken belongs file startLine message =>
      rename_i line uri addition
      cases finds.unique found
      cases listed.symm.trans given
      have counted : violation.startLine = line.toNat := by omega
      rw [says_iff] at spoken
      refine ⟨_, inside, mem_found_locationTrail.2
        ⟨_, uri, Location.place_of_pointsAt points, Run.file?_eq_ok_iff.2 locates, ?_⟩⟩
      rw [eq_located_iff position]
      exact ⟨belongs, file, counted, by rw [message, ← spoken]⟩
  · rintro ⟨location, inside, holds⟩
    obtain ⟨place, uri, placed, named, same⟩ := mem_found_locationTrail.1 holds
    obtain ⟨belongs, file, startLine, message⟩ := (eq_located_iff position).1 same
    obtain ⟨line, points, counted⟩ := Location.place_eq_ok_iff.1 placed
    have positive := points.positive
    have lines : (violation.startLine : Int) = line := by omega
    exact .located found listed inside points (Run.file?_eq_ok_iff.1 named) (says_iff.2 rfl)
      belongs file lines message

/-- The trail of a result that reaches its end holds the violations that the result yields. -/
theorem mem_found_resultTrail {position : Nat}
    (complete : ((RunContext.of default position run).resultTrail result).fault = none) :
    violation ∈ ((RunContext.of default position run).resultTrail result).found ↔
      result.Yields run default violation := by
  cases found : result.finding? with
  | none =>
    have nothing := Result.not_finds_iff.2 found
    have skipped : ((RunContext.of default position run).resultTrail result).found = [] := by
      simp [resultTrail, found, Trail.found, Trail.step, Step.violation?]
    rw [skipped]
    constructor
    · intro inside
      contradiction
    · rintro (⟨finds, _⟩ | ⟨finds, _⟩)
      · exact absurd finds (nothing _)
      · exact absurd finds (nothing _)
  | some finding =>
    have finds := Result.finds_iff.2 found
    cases listed : result.locationList with
    | nil =>
      rw [yields_unlocated_iff position finds listed]
      simp [resultTrail, found, listed, Trail.found, Trail.step, Step.violation?]
    | cons first others =>
      obtain ⟨locations, given, same⟩ := Result.locations_of_cons listed
      have located : locations ≠ [] := by simp [same]
      have parts : (RunContext.of default position run).resultTrail result =
          .sequence (locations.map
            ((RunContext.of default position run).locationTrail result finding)) := by
        simp only [resultTrail, found, listed, same]
      rw [parts] at complete ⊢
      rw [Trail.mem_found_sequence complete,
        yields_located_iff position finds given located]
      simp only [List.mem_map, exists_exists_and_eq_and]

/-- The trail of a run that reaches its end holds the violations that its results yield. -/
theorem mem_found_runTrail {position : Nat}
    (complete : (RunContext.of default position run).trail.fault = none) :
    violation ∈ (RunContext.of default position run).trail.found ↔
      ∃ result ∈ run.resultList, result.Yields run default violation := by
  have ended : (Trail.sequence (run.resultList.map
      (RunContext.of default position run).resultTrail)).fault = none := complete
  have begun : (RunContext.of default position run).trail.found =
      (Trail.sequence (run.resultList.map
        (RunContext.of default position run).resultTrail)).found := by
    simp only [trail, Trail.andThen, Trail.step, Trail.found, List.filterMap_append,
      List.filterMap_cons, Step.violation?, List.filterMap_nil, List.nil_append]
    rfl
  rw [begun, Trail.mem_found_sequence ended]
  simp only [List.mem_map, exists_exists_and_eq_and]
  constructor
  · rintro ⟨result, inside, holds⟩
    have whole := Trail.fault_of_mem ended (List.mem_map.2 ⟨result, inside, rfl⟩)
    exact ⟨result, inside, (mem_found_resultTrail whole).1 holds⟩
  · rintro ⟨result, inside, yields⟩
    have whole := Trail.fault_of_mem ended (List.mem_map.2 ⟨result, inside, rfl⟩)
    exact ⟨result, inside, (mem_found_resultTrail whole).2 yields⟩

end RunContext

/-- The trail of a log that reaches its end holds the violations that its results yield. -/
theorem mem_found_trail {log : Log} {default : String} {violation : Violation}
    (complete : (log.trail default).fault = none) :
    violation ∈ (log.trail default).found ↔
      ∃ run ∈ log.runList, ∃ result ∈ run.resultList, result.Yields run default violation := by
  rw [Log.trail] at complete ⊢
  rw [Trail.mem_found_sequence complete]
  constructor
  · rintro ⟨trail, inside, holds⟩
    have whole := Trail.fault_of_mem complete inside
    obtain ⟨position, bound, rfl⟩ := List.mem_mapIdx.1 inside
    exact ⟨log.runList[position], List.getElem_mem bound,
      (RunContext.mem_found_runTrail whole).1 holds⟩
  · rintro ⟨run, member, yields⟩
    obtain ⟨position, bound, rfl⟩ := List.mem_iff_getElem.1 member
    have inside : (RunContext.of default position log.runList[position]).trail ∈
        log.runList.mapIdx fun position run => (RunContext.of default position run).trail :=
      List.mem_mapIdx.2 ⟨position, bound, rfl⟩
    have whole := Trail.fault_of_mem complete inside
    exact ⟨_, inside, (RunContext.mem_found_runTrail whole).2 yields⟩

/-- A report of two runs, its records written as sequences: one run with an artifact, a rule
with help, a result that finds nothing and a result with a location that is skipped beside one
that is not; and one run with a result that has no locations. -/
def mixedReport : String :=
  "[[[[[\"lint\",[[\"r\",\"N\"]]]],[[[\"a.c\"]]],[[null,[]]," ++
  "[\"r\",[\"m\"],\"error\",null,[[],[[[\"b.c\",0],[3]]]]]]],[null,null,[[null,[\"n\"]]]]]]"

/-- The log of that report. -/
def mixedLog : Log where
  runs := some [
    { tool := some ⟨some ⟨some "lint", some [{ id := some "r", name := some "N" }]⟩⟩
      artifacts := some [⟨some { uri := some "a.c" }⟩]
      results := some [
        { message := some {} },
        { ruleId := some "r"
          level := .error
          message := some { text := some "m" }
          locations := some [{},
            ⟨some ⟨some ⟨some "b.c", some 0⟩, some { startLine := some 3 }⟩⟩] }] },
    { results := some [{ message := some { text := some "n" } }] }]

/-- The violations of that report: one at line 3 of the artifact, and one without a file. -/
def mixedViolations : List Violation := [
  { file := "a.c", startLine := 3, rule := "r"
    message := "m\n\nFor additional help see: N", severity := .error, reporter := "lint"
    specifics := .empty },
  { file := "-", startLine := 0, rule := "", message := "\n\nn", severity := .info
    reporter := "Sarif", specifics := .empty }]

/-- The mixed report is read as its log and projected to its violations. -/
theorem mixedReport_projected :
    Log.decode mixedReport = .ok mixedLog ∧
      reportViolations mixedReport "Sarif" = .ok (.ofList mixedViolations) := by
  have decoded : Log.decode mixedReport = .ok mixedLog := by decide +kernel
  have found : (mixedLog.trail "Sarif").found = mixedViolations := by decide +kernel
  refine ⟨decoded, ?_⟩
  rw [reportViolations_of_decode "Sarif" decoded, ← found]
  rfl

end SarifDigest
