import SarifDigest.Violation.Basic

/-!
# Summaries

How many violations of each severity there are, how many reports they come from, and how many
inputs failed; and the threshold that a summary may reach.
-/
namespace SarifDigest

/-- The counts that follow a list of violations. -/
structure Summary where
  errors : Nat := 0
  warnings : Nat := 0
  infos : Nat := 0
  files : Nat := 0
  failed : Nat := 0
deriving DecidableEq

/-- The violations of a severity in a list. -/
def countOf (severity : Severity) (violations : List Violation) : Nat :=
  violations.countP (·.severity = severity)

/-- The violations of a set by severity; reports and failures are not counted. -/
def Summary.tally (violations : ViolationSet) : Summary where
  errors := countOf .error violations.toList
  warnings := countOf .warn violations.toList
  infos := countOf .info violations.toList

/-- An input that gave no violations, and why. -/
structure InputFailure where
  file : String
  message : String
deriving DecidableEq

/-- The severity from which on a violation makes a run fail; no severity is that high for
`never`. -/
inductive Threshold
  | error
  | warn
  | info
  | never
deriving DecidableEq

/-- Whether a summary counts a violation at or above the threshold. -/
def Threshold.isReached (threshold : Threshold) (summary : Summary) : Bool :=
  match threshold with
  | error => summary.errors > 0
  | warn => summary.errors + summary.warnings > 0
  | info => summary.errors + summary.warnings + summary.infos > 0
  | never => false

end SarifDigest
