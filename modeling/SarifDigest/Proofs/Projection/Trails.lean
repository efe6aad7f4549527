import SarifDigest.Projection.Report

/-!
# Trails of parts

What a sequence of trails leaves behind, from what each trail does: its fault is the first
fault of a part, and without one its steps are those of all parts. The trails of results, runs
and logs are sequences, so their faults are found by nested searches for the first.
-/
namespace SarifDigest

open Sarif

namespace Trail

/-- A sequence of trails ends at the first fault of its parts. -/
theorem sequence_fault (trails : List Trail) :
    (sequence trails).fault = trails.findSome? (·.fault) := by
  induction trails with
  | nil => rfl
  | cons trail others ih =>
    change (andThen trail (sequence others)).fault = _
    rw [List.findSome?_cons]
    unfold andThen
    split
    · rename_i fault ended
      rw [ended]
    · rename_i complete
      rw [complete, ih]

/-- A sequence of trails that reaches its end holds the steps of every part. -/
theorem sequence_steps {trails : List Trail} (complete : (sequence trails).fault = none) :
    (sequence trails).steps = trails.flatMap (·.steps) := by
  induction trails with
  | nil => rfl
  | cons trail others ih =>
    rw [sequence_fault, List.findSome?_eq_none_iff] at complete
    have first : trail.fault = none := complete trail List.mem_cons_self
    have rest : (sequence others).fault = none := by
      rw [sequence_fault, List.findSome?_eq_none_iff]
      exact fun other inside => complete other (List.mem_cons_of_mem _ inside)
    change (andThen trail (sequence others)).steps = _
    simp only [andThen, first, ih rest, List.flatMap_cons]

/-- The violations found by a sequence that reaches its end are those found by its parts. -/
theorem mem_found_sequence {trails : List Trail} (complete : (sequence trails).fault = none)
    {violation : Violation} :
    violation ∈ (sequence trails).found ↔ ∃ trail ∈ trails, violation ∈ trail.found := by
  simp only [found, sequence_steps complete, List.mem_filterMap, List.mem_flatMap]
  constructor
  · rintro ⟨step, ⟨trail, inside, taken⟩, shows⟩
    exact ⟨trail, inside, step, taken, shows⟩
  · rintro ⟨trail, inside, step, taken, shows⟩
    exact ⟨step, ⟨trail, inside, taken⟩, shows⟩

/-- The parts of a sequence that reaches its end reach theirs. -/
theorem fault_of_mem {trails : List Trail} (complete : (sequence trails).fault = none)
    {trail : Trail} (inside : trail ∈ trails) : trail.fault = none := by
  rw [sequence_fault, List.findSome?_eq_none_iff] at complete
  exact complete trail inside

end Trail

namespace RunContext

variable (context : RunContext)

/-- The fault of a location, whatever its result found: that of a place whose file is an
artifact that the run does not have. -/
def locationFault (location : Location) : Option ArtifactFault :=
  match location.place with
  | .error _ => none
  | .ok place =>
    match context.run.file? (referenceOf place.file) with
    | .error index => some ⟨context.position, index, context.run.artifactList.length⟩
    | .ok _ => none

/-- The fault of a trail of a location is that of the location. -/
theorem locationTrail_fault (result : Result) (finding : String) (location : Location) :
    (context.locationTrail result finding location).fault = context.locationFault location := by
  unfold locationTrail locationFault
  cases location.place with
  | error omission => rfl
  | ok place =>
    cases named : context.run.file? (referenceOf place.file) with
    | error index => simp only [named, Trail.fail]
    | ok file => simp only [named, Trail.step]

/-- A result without a message is never at fault, and any other result has the first fault of
its locations. -/
theorem resultTrail_fault (result : Result) :
    (context.resultTrail result).fault =
      if result.finding? = none then none
      else result.locationList.findSome? context.locationFault := by
  unfold resultTrail
  cases found : result.finding? with
  | none => rfl
  | some finding =>
    cases listed : result.locationList with
    | nil => simp [Trail.step]
    | cons location others =>
      simp only [reduceCtorEq, if_false, Trail.sequence_fault, List.findSome?_map]
      congr 1
      funext location
      exact context.locationTrail_fault result finding location

/-- A run has the first fault of its results. -/
theorem trail_fault :
    context.trail.fault =
      context.run.resultList.findSome? fun result => (context.resultTrail result).fault := by
  unfold trail
  simp only [Trail.andThen, Trail.step, Trail.sequence_fault, List.findSome?_map]
  rfl

end RunContext

/-- The projection of a document that is a log. -/
theorem reportViolations_of_decode {report : String} {log : Log} (default : String)
    (decoded : Log.decode report = .ok log) :
    reportViolations report default =
      (log.trail default).violations.mapError .missingArtifact := by
  simp only [reportViolations, reportTrail, decoded, Except.map]

/-- The projection of a document that is no log. -/
theorem reportViolations_of_refused {report : String} {refusal : Json.Refusal} (default : String)
    (refused : Log.decode report = .error refusal) :
    reportViolations report default = .error (.notALog refusal) := by
  simp only [reportViolations, reportTrail, refused, Except.map]

end SarifDigest
