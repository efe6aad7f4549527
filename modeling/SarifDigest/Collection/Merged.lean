import SarifDigest.Collection.ReportFile
import SarifDigest.Collection.Targets
import SarifDigest.Listing.Human

/-!
# Merged reports

The violations of all targets in one set. A target either gives all its violations or is a
failure; the failures of patterns come first, then those of targets in path order.
-/
namespace SarifDigest

/-- The reading of each target, in path order. -/
def readTargets (tree : FileTree) (reporter : String) (targets : List Path) :
    List (Path × FileReading) :=
  targets.map fun path => (path, readReportFile tree reporter path)

/-- The violations of the readings that succeeded. -/
def mergedViolations (readings : List (Path × FileReading)) : ViolationSet :=
  readings.foldl
    (fun merged (_, reading) =>
      match reading.outcome with
      | .ok violations => merged.union violations
      | .error _ => merged)
    .empty

/-- The failure of a reading that failed. -/
def readingFailure? (path : Path) (reading : FileReading) : Option InputFailure :=
  match reading.outcome with
  | .ok _ => none
  | .error fault => some ⟨path.text, fault.message⟩

/-- The failures of readings. -/
def readingFailures (readings : List (Path × FileReading)) : List InputFailure :=
  readings.filterMap fun (path, reading) => readingFailure? path reading

/-- The number of readings that succeeded. -/
def readCount (readings : List (Path × FileReading)) : Nat :=
  readings.countP fun (_, reading) => reading.outcome.isOk

/-- The digest of readings, with the failures that there were before. -/
def digestOf (earlier : List InputFailure) (readings : List (Path × FileReading)) : Digest :=
  let violations := mergedViolations readings
  let failures := earlier ++ readingFailures readings
  { violations
    summary := { Summary.tally violations with
      files := readCount readings
      failed := failures.length }
    failures }

/-- The readings of the targets of patterns. -/
def collectReadings (tree : FileTree) (root : Path) (patterns : List String)
    (reporter : String) : List (Path × FileReading) :=
  readTargets tree reporter (targets tree root patterns).toList

/-- The digest of the reports that patterns lead to. -/
def collect (tree : FileTree) (root : Path) (patterns : List String) (reporter : String) :
    Digest :=
  digestOf (patternFailures root patterns) (collectReadings tree root patterns reporter)

end SarifDigest
