import SarifDigest.Files.Tree
import SarifDigest.Projection.Report

/-!
# Report files

The violations of a report that is kept in a file, and why there may be none.
-/
namespace SarifDigest

/-- Why a report file gives no violations. -/
inductive FileFault
  | unreadable (path : Path) (reason : FileError)
  | noReport (fault : ReportFault)
deriving DecidableEq

/-- The wording of a file that cannot be read. -/
def unreadableMessage (path : Path) (reason : FileError) : String :=
  "failed to read " ++ path.text ++ ": " ++ reason.message

/-- The wording of each fault. -/
def FileFault.message : FileFault → String
  | unreadable path reason => unreadableMessage path reason
  | noReport fault => fault.message

/-- What reading a report file leaves behind. -/
structure FileReading where
  steps : List Step
  outcome : Except FileFault ViolationSet

/-- Read the report in a file. A report that turns out faulty on the way has steps but no
violations. -/
def readReportFile (tree : FileTree) (reporter : String) (path : Path) : FileReading :=
  match tree.read path with
  | .error reason => ⟨[], .error (.unreadable path reason)⟩
  | .ok report =>
    match reportTrail report reporter with
    | .error refusal => ⟨[], .error (.noReport (.notALog refusal))⟩
    | .ok trail =>
      ⟨trail.steps, trail.violations.mapError fun fault => .noReport (.missingArtifact fault)⟩

end SarifDigest
