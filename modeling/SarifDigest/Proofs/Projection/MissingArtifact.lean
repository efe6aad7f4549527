import Mathlib.Control.Monad.Basic
import SarifDigest.Proofs.Projection.Elements
import SarifDigest.Proofs.Projection.Trails

/-!
# References to missing artifacts

A report is refused for an artifact exactly when one of its locations that would give a
violation means an artifact which its own run does not declare. The refusal is about the first
such location, by the position of the run, then of the result, then of the location. Locations
and results that are skipped for another reason are not looked at.
-/
namespace SarifDigest

open Sarif

/-- A position in a log: that of a run, of a result in the run and of a location in the
result. -/
structure Site where
  run : Nat
  result : Nat
  location : Nat
deriving DecidableEq

/-- One position comes before another in the order of the document. -/
def Site.Before (first second : Site) : Prop :=
  first.run < second.run ∨
    first.run = second.run ∧
      (first.result < second.result ∨
        first.result = second.result ∧ first.location < second.location)

/-- Of two different positions one comes first. -/
theorem Site.before_or_before {first second : Site} (different : first ≠ second) :
    first.Before second ∨ second.Before first := by
  have apart : first.run ≠ second.run ∨ first.result ≠ second.result ∨
      first.location ≠ second.location := by
    cases first
    cases second
    simp only [ne_eq, Site.mk.injEq] at different ⊢
    omega
  unfold Before
  omega

/-- At a position of a log a result finds something and a location points at a line, so that
the file given is asked for. -/
def Sarif.Log.Asks (log : Log) (site : Site) (run : Run) (file : Option ArtifactLocation) : Prop :=
  ∃ result finding location region line,
    log.runList[site.run]? = some run ∧ run.resultList[site.result]? = some result ∧
    result.Finds finding ∧ result.locationList[site.location]? = some location ∧
    location.PointsAt file region line

/-- At a position of a log a file is asked for that is an artifact missing from its run. -/
def Sarif.Log.FaultAt (log : Log) (site : Site) (fault : ArtifactFault) : Prop :=
  ∃ run file index, log.Asks site run file ∧ run.Lacks file index ∧
    fault = ⟨site.run, index, run.artifactList.length⟩

/-- The first element that a search finds, by its position. -/
theorem findSome?_eq_some_iff_position {α β : Type} {list : List α} {f : α → Option β} {b : β} :
    list.findSome? f = some b ↔
      ∃ (position : Nat) (x : α), list[position]? = some x ∧ f x = some b ∧
        ∀ earlier < position, ∀ y, list[earlier]? = some y → f y = none := by
  induction list with
  | nil => simp
  | cons first others ih =>
    rw [List.findSome?_cons]
    cases here : f first with
    | some found =>
      simp only [Option.some.injEq]
      constructor
      · rintro rfl
        exact ⟨0, first, rfl, here, fun earlier before => by omega⟩
      · rintro ⟨position, x, given, holds, none⟩
        cases position with
        | zero =>
          cases given
          rw [here] at holds
          exact Option.some.inj holds
        | succ position =>
          rw [none 0 (by omega) first rfl] at here
          contradiction
    | none =>
      simp only [ih]
      constructor
      · rintro ⟨position, x, given, holds, none⟩
        refine ⟨position + 1, x, given, holds, fun earlier before y reached => ?_⟩
        cases earlier with
        | zero =>
          cases reached
          exact here
        | succ earlier => exact none earlier (by omega) y reached
      · rintro ⟨position, x, given, holds, none⟩
        cases position with
        | zero =>
          cases given
          rw [here] at holds
          contradiction
        | succ position =>
          exact ⟨position, x, given, holds, fun earlier before y reached =>
            none (earlier + 1) (by omega) y reached⟩

namespace RunContext

variable {default : String} {position : Nat} {run : Run} {fault : ArtifactFault}

/-- A location is at fault when it points at a line of an artifact that the run lacks. -/
theorem locationFault_eq_some_iff {location : Location} :
    (RunContext.of default position run).locationFault location = some fault ↔
      ∃ file region line index, location.PointsAt file region line ∧ run.Lacks file index ∧
        fault = ⟨position, index, run.artifactList.length⟩ := by
  constructor
  · intro faulty
    unfold locationFault at faulty
    split at faulty
    · contradiction
    · rename_i place placed
      obtain ⟨line, points, _⟩ := Location.place_eq_ok_iff.1 placed
      split at faulty
      · rename_i index refused
        cases faulty
        exact ⟨_, _, _, index, points, Run.file?_eq_error_iff.1 refused, rfl⟩
      · contradiction
  · rintro ⟨file, region, line, index, points, lacks, rfl⟩
    have refused := Run.file?_eq_error_iff.2 lacks
    simp only [locationFault, Location.place_of_pointsAt points, RunContext.of, refused]

/-- A result is at fault at its first location that is, if it finds anything. -/
theorem resultFault_eq_some_iff {result : Result} :
    ((RunContext.of default position run).resultTrail result).fault = some fault ↔
      (∃ finding, result.Finds finding) ∧
      ∃ (place : Nat) (location : Location), result.locationList[place]? = some location ∧
        (RunContext.of default position run).locationFault location = some fault ∧
        ∀ earlier < place, ∀ other, result.locationList[earlier]? = some other →
          (RunContext.of default position run).locationFault other = none := by
  rw [resultTrail_fault, ← findSome?_eq_some_iff_position]
  cases found : result.finding? with
  | none =>
    have nothing := Result.not_finds_iff.2 found
    simp [nothing]
  | some finding =>
    have finds := Result.finds_iff.2 found
    simp only [reduceCtorEq, if_false]
    exact ⟨fun faulty => ⟨⟨finding, finds⟩, faulty⟩, fun faulty => faulty.2⟩

/-- A result is not at fault when it finds nothing or none of its locations is. -/
theorem resultFault_eq_none_iff {result : Result} :
    ((RunContext.of default position run).resultTrail result).fault = none ↔
      ∀ finding, result.Finds finding → ∀ (place : Nat) (location : Location),
        result.locationList[place]? = some location →
          (RunContext.of default position run).locationFault location = none := by
  rw [resultTrail_fault]
  cases found : result.finding? with
  | none =>
    have nothing := Result.not_finds_iff.2 found
    simp [nothing]
  | some finding =>
    have finds := Result.finds_iff.2 found
    simp only [reduceCtorEq, if_false, List.findSome?_eq_none_iff]
    constructor
    · intro none _ _ place location given
      exact none location (List.mem_of_getElem? given)
    · intro none location inside
      obtain ⟨place, given⟩ := List.mem_iff_getElem?.1 inside
      exact none finding finds place location given

end RunContext

/-- A log is at fault at its first run that is. -/
theorem trail_fault_eq_some_iff {log : Log} {default : String} {fault : ArtifactFault} :
    (log.trail default).fault = some fault ↔
      ∃ (position : Nat) (run : Run), log.runList[position]? = some run ∧
        (RunContext.of default position run).trail.fault = some fault ∧
        ∀ earlier < position, ∀ other, log.runList[earlier]? = some other →
          (RunContext.of default earlier other).trail.fault = none := by
  rw [Log.trail, Trail.sequence_fault, findSome?_eq_some_iff_position]
  simp only [List.getElem?_mapIdx, Option.map_eq_some_iff]
  constructor
  · rintro ⟨position, _, ⟨run, given, rfl⟩, faulty, none⟩
    exact ⟨position, run, given, faulty, fun earlier before other reached =>
      none earlier before _ ⟨other, reached, rfl⟩⟩
  · rintro ⟨position, run, given, faulty, none⟩
    refine ⟨position, _, ⟨run, given, rfl⟩, faulty, ?_⟩
    rintro earlier before _ ⟨other, reached, rfl⟩
    exact none earlier before other reached

/-- A position is at fault when the location there is, in a result that finds something. -/
theorem faultAt_iff {log : Log} (default : String) {site : Site} {fault : ArtifactFault} :
    log.FaultAt site fault ↔
      ∃ run result location, log.runList[site.run]? = some run ∧
        run.resultList[site.result]? = some result ∧ (∃ finding, result.Finds finding) ∧
        result.locationList[site.location]? = some location ∧
        (RunContext.of default site.run run).locationFault location = some fault := by
  simp only [RunContext.locationFault_eq_some_iff]
  constructor
  · rintro ⟨run, file, index, ⟨result, finding, location, region, line, runAt, resultAt, finds,
      locationAt, points⟩, lacks, same⟩
    exact ⟨run, result, location, runAt, resultAt, ⟨finding, finds⟩, locationAt, file, region,
      line, index, points, lacks, same⟩
  · rintro ⟨run, result, location, runAt, resultAt, ⟨finding, finds⟩, locationAt, file, region,
      line, index, points, lacks, same⟩
    exact ⟨run, file, index, ⟨result, finding, location, region, line, runAt, resultAt, finds,
      locationAt, points⟩, lacks, same⟩

/-- A run that is not at fault has no position at fault. -/
theorem not_faultAt_of_run {log : Log} (default : String) {site : Site} {fault : ArtifactFault}
    {run : Run} (runAt : log.runList[site.run]? = some run)
    (none : (RunContext.of default site.run run).trail.fault = none) :
    ¬ log.FaultAt site fault := by
  rw [faultAt_iff default]
  rintro ⟨run', result, location, runAt', resultAt, ⟨finding, finds⟩, locationAt, faulty⟩
  cases runAt.symm.trans runAt'
  rw [RunContext.trail_fault, List.findSome?_eq_none_iff] at none
  have resultNone := none result (List.mem_of_getElem? resultAt)
  rw [RunContext.resultFault_eq_none_iff] at resultNone
  rw [resultNone finding finds site.location location locationAt] at faulty
  contradiction

/-- A log that is not at fault has no position at fault. -/
theorem not_faultAt_of_trail {log : Log} {default : String}
    (none : (log.trail default).fault = none) (site : Site) (fault : ArtifactFault) :
    ¬ log.FaultAt site fault := by
  intro reached
  obtain ⟨run, _, _, runAt, _⟩ := (faultAt_iff default).1 reached
  refine not_faultAt_of_run default runAt ?_ reached
  have trails : (RunContext.of default site.run run).trail ∈
      log.runList.mapIdx fun position run => (RunContext.of default position run).trail := by
    refine List.mem_of_getElem? (i := site.run) ?_
    rw [List.getElem?_mapIdx, runAt, Option.map_some]
  exact Trail.fault_of_mem none trails

/-- A position has one fault. -/
theorem Sarif.Log.FaultAt.unique {log : Log} {site : Site} {fault other : ArtifactFault}
    (first : log.FaultAt site fault) (second : log.FaultAt site other) : fault = other := by
  -- The reporter does not matter to a fault, so any text stands for it here.
  obtain ⟨run, result, location, runAt, resultAt, _, locationAt, faulty⟩ := (faultAt_iff "").1 first
  obtain ⟨run', result', location', runAt', resultAt', _, locationAt', faulty'⟩ :=
    (faultAt_iff "").1 second
  cases runAt.symm.trans runAt'
  cases resultAt.symm.trans resultAt'
  cases locationAt.symm.trans locationAt'
  exact Option.some.inj (faulty.symm.trans faulty')

/-- The fault of a log is at a position that no other fault comes before. -/
theorem first_of_trail_fault {log : Log} {default : String} {fault : ArtifactFault}
    (ended : (log.trail default).fault = some fault) :
    ∃ site, log.FaultAt site fault ∧
      ∀ earlier, earlier.Before site → ∀ other, ¬ log.FaultAt earlier other := by
  obtain ⟨position, run, runAt, faulty, noRun⟩ := trail_fault_eq_some_iff.1 ended
  rw [RunContext.trail_fault, findSome?_eq_some_iff_position] at faulty
  obtain ⟨result, element, resultAt, faulty, noResult⟩ := faulty
  rw [RunContext.resultFault_eq_some_iff] at faulty
  obtain ⟨finds, place, location, locationAt, faulty, noLocation⟩ := faulty
  refine ⟨⟨position, result, place⟩, (faultAt_iff default).2
    ⟨run, element, location, runAt, resultAt, finds, locationAt, faulty⟩, ?_⟩
  intro earlier before other reached
  obtain ⟨run', element', location', runAt', resultAt', ⟨finding, finds'⟩, locationAt',
    faulty'⟩ := (faultAt_iff default).1 reached
  -- An earlier fault would have been found by one of the three searches.
  rcases before with inRun | ⟨sameRun, inResult | ⟨sameResult, inLocation⟩⟩
  · exact not_faultAt_of_run default runAt' (noRun _ inRun _ runAt') reached
  · simp only at sameRun inResult
    rw [sameRun] at runAt' faulty'
    cases runAt.symm.trans runAt'
    have none := noResult _ inResult _ resultAt'
    rw [RunContext.resultFault_eq_none_iff] at none
    rw [none finding finds' _ _ locationAt'] at faulty'
    contradiction
  · simp only at sameRun sameResult inLocation
    rw [sameRun] at runAt' faulty'
    rw [sameResult] at resultAt'
    cases runAt.symm.trans runAt'
    cases resultAt.symm.trans resultAt'
    rw [noLocation _ inLocation _ locationAt'] at faulty'
    contradiction

/-- A log is at fault when one of its positions is. -/
theorem trail_fault_of_faultAt {log : Log} (default : String) {site : Site}
    {fault : ArtifactFault} (reached : log.FaultAt site fault) :
    ∃ found, (log.trail default).fault = some found := by
  cases ended : (log.trail default).fault with
  | none => exact absurd reached (not_faultAt_of_trail ended site fault)
  | some found => exact ⟨found, rfl⟩

/-- The fault of a log is the one at its first position that is at fault. -/
theorem trail_fault_iff_first {log : Log} {default : String} {fault : ArtifactFault} :
    (log.trail default).fault = some fault ↔
      ∃ site, log.FaultAt site fault ∧
        ∀ earlier, earlier.Before site → ∀ other, ¬ log.FaultAt earlier other := by
  constructor
  · exact first_of_trail_fault
  · rintro ⟨site, reached, first⟩
    obtain ⟨found, ended⟩ := trail_fault_of_faultAt default reached
    obtain ⟨site', reached', first'⟩ := first_of_trail_fault ended
    by_cases same : site = site'
    · subst same
      rw [ended, reached'.unique reached]
    · rcases Site.before_or_before same with before | before
      · exact absurd reached (first' site before fault)
      · exact absurd reached' (first site' before found)

/-- A projection is refused for an artifact exactly when its log is at fault. -/
theorem reportViolations_missingArtifact_iff {report default : String} {log : Log}
    (decoded : Log.decode report = .ok log) (fault : ArtifactFault) :
    reportViolations report default = .error (.missingArtifact fault) ↔
      (log.trail default).fault = some fault := by
  rw [reportViolations_of_decode default decoded]
  unfold Trail.violations
  cases (log.trail default).fault with
  | none => simp [Except.mapError]
  | some found => simp [Except.mapError]

/-- The projection of a log is refused for a missing artifact exactly when at some position one
is asked for, and the refusal names the run, the index and the number of artifacts declared
there, at the first such position of the document. An index equal to the number of artifacts,
at a position where a file is asked for, always gives a refusal; and a log in which every file
asked for is there is projected to the end, whatever its other locations mean. -/
theorem missingArtifact_exact {report default : String} {log : Log}
    (decoded : Log.decode report = .ok log) :
    ((∃ fault, reportViolations report default = .error (.missingArtifact fault)) ↔
      ∃ site fault, log.FaultAt site fault) ∧
    (∀ fault, reportViolations report default = .error (.missingArtifact fault) ↔
      ∃ site, log.FaultAt site fault ∧
        ∀ earlier, earlier.Before site → ∀ other, ¬ log.FaultAt earlier other) ∧
    (∀ site run location, log.Asks site run (some location) →
      location.index = some run.artifactList.length →
        ∃ fault, reportViolations report default = .error (.missingArtifact fault)) ∧
    ((∀ site run file index, log.Asks site run file → ¬ run.Lacks file index) →
      ∃ set, reportViolations report default = .ok set) := by
  have refused : (∃ fault, reportViolations report default = .error (.missingArtifact fault)) ↔
      ∃ site fault, log.FaultAt site fault := by
    simp only [reportViolations_missingArtifact_iff decoded]
    constructor
    · rintro ⟨fault, ended⟩
      obtain ⟨site, reached, _⟩ := first_of_trail_fault ended
      exact ⟨site, fault, reached⟩
    · rintro ⟨site, fault, reached⟩
      exact trail_fault_of_faultAt default reached
  refine ⟨refused, ?first, ?atCount, ?complete⟩
  case first =>
    intro fault
    rw [reportViolations_missingArtifact_iff decoded, trail_fault_iff_first]
  case atCount =>
    intro site run location asks meant
    rw [refused]
    refine ⟨site, _, run, some location, run.artifactList.length, asks, ?_, rfl⟩
    exact ⟨location, rfl, meant, by omega, by omega⟩
  case complete =>
    intro there
    rw [reportViolations_of_decode default decoded]
    unfold Trail.violations
    cases ended : (log.trail default).fault with
    | none => exact ⟨_, rfl⟩
    | some fault =>
      obtain ⟨site, ⟨run, file, index, asks, lacks, _⟩, _⟩ := first_of_trail_fault ended
      exact absurd lacks (there site run file index asks)

/-- A report, its records written as sequences, whose first run has a bad index in a result that
finds nothing and one in a location without a region, and whose second run declares one artifact
and means the next. -/
def danglingReport : String :=
  "[[[null,null,[[null,null,null,null,[[[[null,-7],[1]]]]]," ++
  "[null,[\"m\"],null,null,[[[[null,9]]]]]]]," ++
  "[null,[[]],[[null,[\"m\"],null,null,[[],[[[null,1],[4]]]]]]]]]"

/-- The log of that report. -/
def danglingLog : Log where
  runs := some [
    { results := some [
        { locations := some [⟨some ⟨some { index := some (-7) }, some { startLine := some 1 }⟩⟩] },
        { message := some { text := some "m" }
          locations := some [⟨some ⟨some { index := some 9 }, none⟩⟩] }] },
    { artifacts := some [{}]
      results := some [
        { message := some { text := some "m" }
          locations := some [{},
            ⟨some ⟨some { index := some 1 }, some { startLine := some 4 }⟩⟩] }] }]

/-- The index that equals the number of artifacts is the one refused. -/
theorem missingArtifact_exact_dangling :
    Log.decode danglingReport = .ok danglingLog ∧
    reportViolations danglingReport "Sarif" = .error (.missingArtifact ⟨1, 1, 1⟩) ∧
    ∃ site, danglingLog.FaultAt site ⟨1, 1, 1⟩ ∧
      ∀ earlier, earlier.Before site → ∀ other, ¬ danglingLog.FaultAt earlier other := by
  have decoded : Log.decode danglingReport = .ok danglingLog := by decide +kernel
  have refused : reportViolations danglingReport "Sarif" =
      .error (.missingArtifact ⟨1, 1, 1⟩) := by
    rw [reportViolations_of_decode "Sarif" decoded]
    rfl
  exact ⟨decoded, refused, ((missingArtifact_exact decoded).2.1 ⟨1, 1, 1⟩).1 refused⟩

end SarifDigest
