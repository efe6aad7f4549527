import SarifDigest.Projection.Trail
import SarifDigest.Sarif.RuleTable
import SarifDigest.Text.Blank

/-!
# Projecting a log

A result with a message gives one violation for each of its locations that has a place, or a
single violation without a file when it has no locations. A place is a region of a physical
location with a positive start line. The rules, the artifacts and the reporter are those of
the run that the result is in.
-/
namespace SarifDigest

open Sarif

/-- The line from which a region on is pointed at, and the file that it is in. -/
structure Place where
  file : Option ArtifactLocation
  region : Region
  line : Nat
deriving DecidableEq

/-- The place that a location points at, or what it lacks to be one. -/
def Sarif.Location.place (location : Location) : Except Omission Place :=
  match location.physicalLocation with
  | none => .error .noPhysicalLocation
  | some physical =>
    match physical.region with
    | none => .error .noRegion
    | some region =>
      match region.startLine with
      | none => .error .noStartLine
      | some line =>
        if line < 1 then .error (.startLineNotPositive line)
        else .ok ⟨physical.artifactLocation, region, line.toNat⟩

/-- The artifact at a position of a run. -/
def Sarif.Run.artifact? (run : Run) (index : Int) : Option Artifact :=
  if index < 0 then none else run.artifactList[index.toNat]?

/-- The file of a reference, if it is named, or the position of an artifact that is not there.
An artifact that is there may name no file. -/
def Sarif.Run.file? (run : Run) : ArtifactReference → Except Int (Option String)
  | .direct uri => .ok uri
  | .byIndex index =>
    match run.artifact? index with
    | none => .error index
    | some artifact => .ok (artifact.location.bind (·.uri))

/-- The reference of a location that may be missing. -/
def referenceOf (location : Option ArtifactLocation) : ArtifactReference :=
  match location with
  | some location => location.reference
  | none => .direct none

/-- The severity of a level. -/
def Sarif.Level.severity : Level → Severity
  | error => .error
  | warning => .warn
  | note => .info
  | none => .info

/-- The details of a result: its correlation, unless that is empty. -/
def Sarif.Result.details (result : Result) : Details :=
  match nonEmpty result.correlationGuid with
  | some correlation => Details.empty.insert correlationDetail correlation
  | none => .empty

/-- The rule of a result, the empty text when it names none. -/
def Sarif.Result.rule (result : Result) : String :=
  result.ruleId.getD ""

/-- What a result found, if its message says anything. -/
def Sarif.Result.finding? (result : Result) : Option String :=
  nonEmpty (shownText result.message)

/-- The reporter of a run: the name of its driver unless it is blank, or else the default. -/
def Sarif.Run.reporter (run : Run) (default : String) : String :=
  ((run.driver.bind (·.name)).filter fun name => !Text.isBlankText name).getD default

/-- A run in its log, with what its results have in common. -/
structure RunContext where
  position : Nat
  run : Run
  rules : RuleTable
  reporter : String

namespace RunContext

/-- The context of the run at a position. -/
def of (default : String) (position : Nat) (run : Run) : RunContext :=
  ⟨position, run, .ofRun run, run.reporter default⟩

/-- The violation of a result without locations. -/
def fileless (context : RunContext) (result : Result) (finding : String) : Violation where
  file := noFile
  startLine := noLine
  rule := result.rule
  message := filelessMessage (context.rules.description? result.rule) finding
  severity := result.level.severity
  reporter := context.reporter
  specifics := result.details

/-- The violation of a result at a place, given the file if it is named. -/
def located (context : RunContext) (result : Result) (finding : String) (place : Place)
    (file : Option String) : Violation where
  file := file.getD noFile
  startLine := place.line
  rule := result.rule
  message :=
    locatedMessage finding (shownText place.region.message) (context.rules.help? result.rule)
  severity := result.level.severity
  reporter := context.reporter
  specifics := result.details

/-- The trail of one location of a result. -/
def locationTrail (context : RunContext) (result : Result) (finding : String)
    (location : Location) : Trail :=
  match location.place with
  | .error omission => .step (.omitted context.position result.rule omission)
  | .ok place =>
    match context.run.file? (referenceOf place.file) with
    | .error index => .fail ⟨context.position, index, context.run.artifactList.length⟩
    | .ok file => .step (.found (context.located result finding place file))

/-- The trail of a result. -/
def resultTrail (context : RunContext) (result : Result) : Trail :=
  match result.finding? with
  | none => .step (.omitted context.position result.rule .noMessage)
  | some finding =>
    match result.locationList with
    | [] => .step (.found (context.fileless result finding))
    | locations => .sequence (locations.map (context.locationTrail result finding))

/-- The trail of a run. -/
def trail (context : RunContext) : Trail :=
  Trail.andThen
    (.step (.runBegun context.position context.reporter context.run.resultList.length))
    (.sequence (context.run.resultList.map context.resultTrail))

end RunContext

/-- The trail of a log, with the reporter for runs whose driver has no name. -/
def Sarif.Log.trail (log : Log) (defaultReporter : String) : Trail :=
  .sequence (log.runList.mapIdx fun position run =>
    (RunContext.of defaultReporter position run).trail)

end SarifDigest
