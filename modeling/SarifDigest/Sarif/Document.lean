import SarifDigest.Json.Record
import SarifDigest.Json.Value
import SarifDigest.Sarif.Log

/-!
# Reading SARIF logs

The readers of the objects of a log. Every member may be absent or null, except that a level
may be anything: it is read as a value of any kind, and only one of the four known words gives
a level other than `none`. The names in the refusals are those of the format's objects.
-/
namespace SarifDigest.Sarif

open Json (Member Reader)

/-- The objects and sequences that a document may open inside each other, as far as they are
counted: those that hold a level and those inside a level. -/
def nestingLimit : Nat := 127

/-- A message. -/
def Message.reader : Reader Message :=
  .record "struct Message" {} [
    .of "text" (.optional .text) fun text message => { message with text },
    .of "markdown" (.optional .text) fun markdown message => { message with markdown }]

/-- A rule. -/
def ReportingDescriptor.reader : Reader ReportingDescriptor :=
  .record "struct ReportingDescriptor" {} [
    .of "id" (.optional .text) fun id rule => { rule with id },
    .of "name" (.optional .text) fun name rule => { rule with name },
    .of "help" (.optional Message.reader) fun help rule => { rule with help },
    .of "fullDescription" (.optional Message.reader)
      fun fullDescription rule => { rule with fullDescription },
    .of "shortDescription" (.optional Message.reader)
      fun shortDescription rule => { rule with shortDescription }]

/-- A tool component. -/
def ToolComponent.reader : Reader ToolComponent :=
  .record "struct ToolComponent" {} [
    .of "name" (.optional .text) fun name component => { component with name },
    .of "rules" (.optional (.sequence ReportingDescriptor.reader))
      fun rules component => { component with rules }]

/-- A tool. -/
def Tool.reader : Reader Tool :=
  .record "struct Tool" {} [
    .of "driver" (.optional ToolComponent.reader) fun driver tool => { tool with driver }]

/-- The location of a file. -/
def ArtifactLocation.reader : Reader ArtifactLocation :=
  .record "struct ArtifactLocation" {} [
    .of "uri" (.optional .text) fun uri location => { location with uri },
    .of "index" (.optional (.integer "i64")) fun index location => { location with index }]

/-- An artifact. -/
def Artifact.reader : Reader Artifact :=
  .record "struct Artifact" {} [
    .of "location" (.optional ArtifactLocation.reader)
      fun location artifact => { artifact with location }]

/-- A region. -/
def Region.reader : Reader Region :=
  .record "struct Region" {} [
    .of "startLine" (.optional (.integer "i64")) fun startLine region => { region with startLine },
    .of "message" (.optional Message.reader) fun message region => { region with message }]

/-- A physical location. -/
def PhysicalLocation.reader : Reader PhysicalLocation :=
  .record "struct PhysicalLocation" {} [
    .of "artifactLocation" (.optional ArtifactLocation.reader)
      fun artifactLocation place => { place with artifactLocation },
    .of "region" (.optional Region.reader) fun region place => { place with region }]

/-- A location. -/
def Location.reader : Reader Location :=
  .record "struct Location" {} [
    .of "physicalLocation" (.optional PhysicalLocation.reader)
      fun physicalLocation location => { location with physicalLocation }]

/-- The level that a value of any kind gives: that of a text as a word, and none otherwise. -/
def Level.ofValue (value : Json.Value) : Level :=
  (value.text?.map Level.ofWord).getD .none

/-- A level, in a value that may open the given number of sequences and objects. -/
def Level.reader (depth : Nat) : Reader Level :=
  (Json.Value.readerWithin depth).map Level.ofValue

/-- A result, given the sequences and objects that may be opened, itself included. -/
def Result.reader (depth : Nat) : Reader Result :=
  .record "struct SarifResult" {} [
    .of "ruleId" (.optional .text) fun ruleId result => { result with ruleId },
    .of "message" (.optional Message.reader) fun message result => { result with message },
    .of "level" (Level.reader (depth - 1)) fun level result => { result with level },
    .of "correlationGuid" (.optional .text)
      fun correlationGuid result => { result with correlationGuid },
    .of "locations" (.optional (.sequence Location.reader))
      fun locations result => { result with locations }]

/-- A run, given the sequences and objects that may be opened, itself included. -/
def Run.reader (depth : Nat) : Reader Run :=
  .record "struct Run" {} [
    .of "tool" (.optional Tool.reader) fun tool run => { run with tool },
    .of "artifacts" (.optional (.sequence Artifact.reader))
      fun artifacts run => { run with artifacts },
    .of "results" (.optional (.sequence (Result.reader (depth - 2))))
      fun results run => { run with results }]

/-- A log, given the sequences and objects that may be opened, itself included. -/
def Log.reader (depth : Nat) : Reader Log :=
  .record "struct SarifLog" {} [
    .of "runs" (.optional (.sequence (Run.reader (depth - 2)))) fun runs log => { log with runs }]

/-- Read a document as a log. -/
def Log.decode (document : String) : Except Json.Refusal Log :=
  (Log.reader nestingLimit).document document

/-- Read a document as a single run. -/
def Run.decode (document : String) : Except Json.Refusal Run :=
  (Run.reader nestingLimit).document document

end SarifDigest.Sarif
