import SarifDigest.Json.Written
import SarifDigest.Listing.Human

/-!
# Listings as data

A digest as a document with the members `violations`, `summary` and `failures`.
-/
namespace SarifDigest

open Json (Value)

/-- A natural number as a value. -/
def natural (number : Nat) : Value := .number (.natural number)

/-- Details as an object with a member for each name. -/
def Details.document (details : Details) : Value :=
  .object (details.pairs.map fun (name, value) => (name, .text value))

/-- A violation as an object. -/
def Violation.document (violation : Violation) : Value := .object [
  ("parser", .text violation.parser.name),
  ("file", .text violation.file),
  ("startLine", natural violation.startLine),
  ("rule", .text violation.rule),
  ("message", .text violation.message),
  ("severity", .text violation.severity.name),
  ("reporter", .text violation.reporter),
  ("specifics", violation.specifics.document)]

/-- A summary as an object. -/
def Summary.document (summary : Summary) : Value := .object [
  ("errors", natural summary.errors),
  ("warnings", natural summary.warnings),
  ("infos", natural summary.infos),
  ("files", natural summary.files),
  ("failed", natural summary.failed)]

/-- A failure as an object. -/
def InputFailure.document (failure : InputFailure) : Value := .object [
  ("file", .text failure.file),
  ("message", .text failure.message)]

/-- A digest as an object. -/
def Digest.document (digest : Digest) : Value := .object [
  ("violations", .sequence (digest.violations.toList.map Violation.document)),
  ("summary", digest.summary.document),
  ("failures", .sequence (digest.failures.map InputFailure.document))]

end SarifDigest
