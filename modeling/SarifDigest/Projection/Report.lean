import SarifDigest.Projection.Result
import SarifDigest.Sarif.Document

/-!
# Reports

A report is the text of a log. Its violations are those of the log, and it has none at all
when it is no log or when its log refers to an artifact that is not there.
-/
namespace SarifDigest

/-- Why a report gives no violations. -/
inductive ReportFault
  | notALog (refusal : Json.Refusal)
  | missingArtifact (fault : ArtifactFault)
deriving DecidableEq

/-- The wording of each fault. -/
def ReportFault.message : ReportFault → String
  | notALog refusal => "report is not a valid SARIF document: " ++ refusal.message
  | missingArtifact fault => fault.message

/-- The reporter of runs that name no tool. -/
def standardReporter : String := "Sarif"

/-- The trail of a report. -/
def reportTrail (report defaultReporter : String) : Except Json.Refusal Trail :=
  (Sarif.Log.decode report).map (·.trail defaultReporter)

/-- The violations of a report. -/
def reportViolations (report defaultReporter : String) :
    Except ReportFault ViolationSet :=
  match reportTrail report defaultReporter with
  | .error refusal => .error (.notALog refusal)
  | .ok trail => trail.violations.mapError .missingArtifact

end SarifDigest
