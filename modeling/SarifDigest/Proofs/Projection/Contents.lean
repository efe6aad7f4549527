import SarifDigest.Proofs.Projection.MissingArtifact
import SarifDigest.Proofs.Projection.Projected

/-!
# What a log comes to

Whether a log is refused, and which violations it has otherwise, is said here of its runs one by
one, without their positions: a log is refused when one of its runs asks for an artifact that it
lacks, and has the violations that its runs yield. So nothing but the runs counts, and neither
their order nor their number does.
-/
namespace SarifDigest

open Sarif

/-- A result asks for an artifact that its run lacks. -/
def Sarif.Result.Dangles (result : Result) (run : Run) : Prop :=
  ∃ finding location file region line index,
    result.Finds finding ∧ location ∈ result.locationList ∧
      location.PointsAt file region line ∧ run.Lacks file index

/-- A run has a result that asks for an artifact which the run lacks. -/
def Sarif.Run.Dangles (run : Run) : Prop :=
  ∃ result ∈ run.resultList, result.Dangles run

/-- A run has a result that yields a violation. -/
def Sarif.Run.Yields (run : Run) (default : String) (violation : Violation) : Prop :=
  ∃ result ∈ run.resultList, result.Yields run default violation

/-- Some position of a log is at fault exactly when one of its runs asks for an artifact that it
lacks. -/
theorem exists_faultAt_iff {log : Log} :
    (∃ site fault, log.FaultAt site fault) ↔ ∃ run ∈ log.runList, run.Dangles := by
  constructor
  · rintro ⟨site, fault, run, file, index, ⟨result, finding, location, region, line, runAt,
      resultAt, finds, locationAt, points⟩, lacks, _⟩
    exact ⟨run, List.mem_of_getElem? runAt, result, List.mem_of_getElem? resultAt, finding,
      location, file, region, line, index, finds, List.mem_of_getElem? locationAt, points, lacks⟩
  · rintro ⟨run, runInside, result, resultInside, finding, location, file, region, line, index,
      finds, locationInside, points, lacks⟩
    obtain ⟨runAt, runGiven⟩ := List.mem_iff_getElem?.1 runInside
    obtain ⟨resultAt, resultGiven⟩ := List.mem_iff_getElem?.1 resultInside
    obtain ⟨locationAt, locationGiven⟩ := List.mem_iff_getElem?.1 locationInside
    exact ⟨⟨runAt, resultAt, locationAt⟩, _, run, file, index, ⟨result, finding, location, region,
      line, runGiven, resultGiven, finds, locationGiven, points⟩, lacks, rfl⟩

/-- A log is refused for an artifact when one of its runs asks for one that it lacks, and has
the violations that its runs yield otherwise. -/
theorem reportViolations_cases {report : String} {log : Log} (default : String)
    (decoded : Log.decode report = .ok log) :
    ((∃ run ∈ log.runList, run.Dangles) ∧
      ∃ fault, reportViolations report default = .error (.missingArtifact fault)) ∨
    ((∀ run ∈ log.runList, ¬ run.Dangles) ∧
      ∃ set, reportViolations report default = .ok set ∧
        ∀ violation, violation ∈ set.toList ↔
          ∃ run ∈ log.runList, run.Yields default violation) := by
  rw [reportViolations_of_decode default decoded]
  unfold Trail.violations
  cases ended : (log.trail default).fault with
  | some fault =>
    obtain ⟨site, reached, _⟩ := first_of_trail_fault ended
    exact .inl ⟨exists_faultAt_iff.1 ⟨site, fault, reached⟩, fault, rfl⟩
  | none =>
    have whole : ¬ ∃ run ∈ log.runList, run.Dangles := by
      rw [← exists_faultAt_iff]
      rintro ⟨site, fault, reached⟩
      exact not_faultAt_of_trail ended site fault reached
    refine .inr ⟨fun run inside dangles => whole ⟨run, inside, dangles⟩, _, rfl, ?_⟩
    intro violation
    rw [OrderedSet.mem_ofList]
    exact mem_found_trail ended

/-- A report that can be projected to the end is that of a log, and its violations are those that
the runs of the log yield. -/
theorem yields_of_reportViolations {report default : String} {set : ViolationSet}
    (projected : reportViolations report default = .ok set) :
    ∃ log, Log.decode report = .ok log ∧ ∀ violation, violation ∈ set.toList ↔
      ∃ run ∈ log.runList, run.Yields default violation := by
  cases decoded : Log.decode report with
  | error refusal =>
    rw [reportViolations_of_refused default decoded] at projected
    contradiction
  | ok log =>
    cases reportViolations_cases default decoded with
    | inl refused =>
      obtain ⟨_, fault, refused⟩ := refused
      rw [refused] at projected
      contradiction
    | inr given =>
      obtain ⟨_, own, given, yields⟩ := given
      rw [given] at projected
      cases projected
      exact ⟨log, rfl, yields⟩

/-- The violations of a report whose log is known are those that the runs of this log yield. -/
theorem yields_of_decoded {report default : String} {log : Log} {set : ViolationSet}
    (decoded : Log.decode report = .ok log)
    (projected : reportViolations report default = .ok set) (violation : Violation) :
    violation ∈ set.toList ↔ ∃ run ∈ log.runList, run.Yields default violation := by
  obtain ⟨other, same, yields⟩ := yields_of_reportViolations projected
  cases decoded.symm.trans same
  exact yields violation

end SarifDigest
