import SarifDigest.Collection.Merged
import SarifDigest.Diagnostics.Record

/-!
# Records of a collection

What is said while reports are collected: the number of targets, then the steps of every
report, then the outcome of every report, both in path order.
-/
namespace SarifDigest

/-- The part of the program that projects logs. -/
def projectionTarget : String := "sarif_violations::parse"

/-- The part of the program that collects reports. -/
def collectionTarget : String := "sarif_violations::collect"

/-- The value that an omission shows. -/
def Omission.fields : Omission → List (String × String)
  | startLineNotPositive line => [("line", toString line)]
  | _ => []

/-- The record of a step; a violation that is found has none. -/
def Step.record? : Step → Option Record
  | runBegun run reporter results => some {
      level := .trace
      target := projectionTarget
      message := "projecting run"
      fields := [("run", toString run), ("reporter", reporter), ("results", toString results)] }
  | omitted run rule omission => some {
      level := .debug
      target := projectionTarget
      message := omission.message
      fields := ("run", toString run) :: ("rule", Text.quoted rule) :: omission.fields }
  | found _ => none

/-- The record that starts a collection. -/
def startRecord (targets : Nat) : Record where
  level := .info
  target := collectionTarget
  message := "parsing SARIF reports"
  fields := [("files", toString targets)]

/-- The record of the outcome of a target. -/
def outcomeRecord (path : Path) (outcome : Except FileFault ViolationSet) : Record :=
  match outcome with
  | .ok violations => {
      level := .debug
      target := collectionTarget
      message := "parsed report"
      fields := [("file", path.text), ("violations", toString violations.size)] }
  | .error fault => {
      level := .warn
      target := collectionTarget
      message := "failed to parse report"
      fields := [("file", path.text), ("error", fault.message)] }

/-- The records of readings. -/
def collectionRecords (readings : List (Path × FileReading)) : List Record :=
  startRecord readings.length ::
    readings.flatMap (fun (_, reading) => reading.steps.filterMap Step.record?) ++
    readings.map fun (path, reading) => outcomeRecord path reading.outcome

end SarifDigest
