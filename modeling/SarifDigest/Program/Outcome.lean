import SarifDigest.Diagnostics.Record
import SarifDigest.Listing.Styled

/-!
# Outcomes

What a run of the program leaves behind: an exit status, its output, and remarks beside the
output, which are texts and records.
-/
namespace SarifDigest

/-- How a run ends. -/
inductive ExitStatus
  | passed
  | failed
  | unusable
deriving DecidableEq

/-- The number of an exit status. -/
def ExitStatus.code : ExitStatus → Nat
  | passed => 0
  | failed => 1
  | unusable => 2

/-- What is said beside the output. -/
inductive Remark
  | text (text : String)
  | record (record : Record)
deriving DecidableEq

/-- What a run leaves behind. -/
structure Outcome where
  status : ExitStatus
  output : String := ""
  remarks : List Remark := []

/-- The settings that a run finds around it. -/
structure Environment where
  colours : Bool
  filter : Option String

namespace Remark

/-- A line that starts with a word in some colour. -/
def announced (environment : Environment) (word : String) (colour : Colour) (text : String) :
    Remark :=
  let line : StyledLine := [⟨word, some colour, true⟩, .plain (" " ++ text ++ "\n")]
  .text (line.render environment.colours)

/-- A line about an error. -/
def error (environment : Environment) (text : String) : Remark :=
  announced environment "error:" .red text

/-- A line about something worth knowing. -/
def note (environment : Environment) (text : String) : Remark :=
  announced environment "note:" .cyan text

end Remark

end SarifDigest
