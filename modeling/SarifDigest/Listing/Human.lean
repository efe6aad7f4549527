import SarifDigest.Listing.Styled
import SarifDigest.Text.Search
import SarifDigest.Violation.Summary

/-!
# Listings to be read

One line for each violation, one for each input that failed, and one with the counts. The line
of a violation shows the first line of its message only.
-/
namespace SarifDigest

/-- Violations with their counts and the inputs that failed. -/
structure Digest where
  violations : ViolationSet
  summary : Summary
  failures : List InputFailure

/-- The sign of a severity. -/
def Severity.icon : Severity → String
  | info => "◆"
  | warn => "▲"
  | error => "✖"

/-- The colour of a severity. -/
def Severity.colour : Severity → Colour
  | info => .blue
  | warn => .yellow
  | error => .red

/-- A word in the brackets of a tag. -/
def tag (word : String) : String :=
  "⟦" ++ word ++ "⟧"

/-- Where a violation is: its file and line, or only its file when it belongs to none. -/
def Violation.location (violation : Violation) : String :=
  if violation.isFileless then violation.file
  else violation.file ++ ":" ++ toString violation.startLine

/-- The line of a violation. -/
def Violation.line (violation : Violation) : StyledLine := [
  { text := violation.severity.icon, colour := violation.severity.colour },
  .plain " ",
  { text := tag violation.severity.word, colour := violation.severity.colour, bold := true },
  .plain " ",
  { text := violation.location, bold := true },
  .plain (" ❲" ++ violation.rule ++ "❳ " ++ violation.reporter ++ " — " ++
    Text.headline violation.message)]

/-- The line of an input that failed. -/
def InputFailure.line (failure : InputFailure) : StyledLine := [
  { text := Severity.error.icon ++ " " ++ tag "failed", colour := Severity.error.colour,
    bold := true },
  .plain " ",
  { text := failure.file, bold := true },
  .plain (" — " ++ failure.message)]

/-- The line of the counts. -/
def Summary.line (summary : Summary) : StyledLine := [
  { text := "— Summary — errors=" ++ toString summary.errors ++
      " warnings=" ++ toString summary.warnings ++ " infos=" ++ toString summary.infos ++
      " files=" ++ toString summary.files ++ " failed=" ++ toString summary.failed,
    bold := true }]

/-- The lines of a digest. -/
def Digest.lines (digest : Digest) : List StyledLine :=
  digest.violations.toList.map Violation.line ++ digest.failures.map InputFailure.line ++
    [digest.summary.line]

end SarifDigest
