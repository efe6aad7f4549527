import SarifDigest.Proofs.Json.Grammar
import SarifDigest.Sarif.Document

/-!
# The grammar of SARIF logs

How the objects of a log are written: the slots of every record in the order of their
declaration, each with the name of its member and the texts of its values. A level is written as
a value of any kind, which stands for one of the known levels or for none. The depth that is
given is that of such a value, the only one whose nesting is limited.
-/
namespace SarifDigest.Sarif

open Json (QuotedText IntegerText SequenceText RecordText)

/-- A message and its text. -/
def Message.Form : Message → List Char → Prop :=
  RecordText [
    .optional "text" (·.text) QuotedText,
    .optional "markdown" (·.markdown) QuotedText]

/-- A rule and its text. -/
def ReportingDescriptor.Form : ReportingDescriptor → List Char → Prop :=
  RecordText [
    .optional "id" (·.id) QuotedText,
    .optional "name" (·.name) QuotedText,
    .optional "help" (·.help) Message.Form,
    .optional "fullDescription" (·.fullDescription) Message.Form,
    .optional "shortDescription" (·.shortDescription) Message.Form]

/-- A tool component and its text. -/
def ToolComponent.Form : ToolComponent → List Char → Prop :=
  RecordText [
    .optional "name" (·.name) QuotedText,
    .optional "rules" (·.rules) (SequenceText ReportingDescriptor.Form)]

/-- A tool and its text. -/
def Tool.Form : Tool → List Char → Prop :=
  RecordText [.optional "driver" (·.driver) ToolComponent.Form]

/-- The location of a file and its text. -/
def ArtifactLocation.Form : ArtifactLocation → List Char → Prop :=
  RecordText [
    .optional "uri" (·.uri) QuotedText,
    .optional "index" (·.index) IntegerText]

/-- An artifact and its text. -/
def Artifact.Form : Artifact → List Char → Prop :=
  RecordText [.optional "location" (·.location) ArtifactLocation.Form]

/-- A region and its text. -/
def Region.Form : Region → List Char → Prop :=
  RecordText [
    .optional "startLine" (·.startLine) IntegerText,
    .optional "message" (·.message) Message.Form]

/-- A physical location and its text. -/
def PhysicalLocation.Form : PhysicalLocation → List Char → Prop :=
  RecordText [
    .optional "artifactLocation" (·.artifactLocation) ArtifactLocation.Form,
    .optional "region" (·.region) Region.Form]

/-- A location and its text. -/
def Location.Form : Location → List Char → Prop :=
  RecordText [.optional "physicalLocation" (·.physicalLocation) PhysicalLocation.Form]

/-- A value stands for the level whose word it is, and for none when it is no known word. -/
def Level.Stands (level : Level) (value : Json.Value) : Prop :=
  value = .text level.word ∨ level = .none ∧ ∀ known : Level, value ≠ .text known.word

/-- A level and its text, a value nested no deeper than given. -/
def Level.Form (depth : Nat) (level : Level) (text : List Char) : Prop :=
  ∃ value, Json.decoding.Writes depth value text ∧ level.Stands value

/-- A result and its text. -/
def Result.Form (depth : Nat) : Result → List Char → Prop :=
  RecordText [
    .optional "ruleId" (·.ruleId) QuotedText,
    .optional "message" (·.message) Message.Form,
    { name := "level"
      Written := fun result text => Level.Form depth result.level text
      Absent := fun result => result.level = .none },
    .optional "correlationGuid" (·.correlationGuid) QuotedText,
    .optional "locations" (·.locations) (SequenceText Location.Form)]

/-- A run and its text. -/
def Run.Form (depth : Nat) : Run → List Char → Prop :=
  RecordText [
    .optional "tool" (·.tool) Tool.Form,
    .optional "artifacts" (·.artifacts) (SequenceText Artifact.Form),
    .optional "results" (·.results) (SequenceText (Result.Form depth))]

/-- A log and its text. -/
def Log.Form (depth : Nat) : Log → List Char → Prop :=
  RecordText [.optional "runs" (·.runs) (SequenceText (Run.Form depth))]

end SarifDigest.Sarif
