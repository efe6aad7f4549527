/-!
# SARIF logs

The part of the static analysis results format that violations are drawn from. A member that a
log leaves out and one that it writes as null are the same here, and what is not listed is not
kept.
-/
namespace SarifDigest.Sarif

/-- How severe a tool holds a result to be; a level that is absent or unknown is `none`. -/
inductive Level
  | none
  | note
  | warning
  | error
deriving DecidableEq

/-- The level of a word, if it is one of the four known ones. -/
def Level.ofWord? (word : String) : Option Level :=
  if word = "none" then some .none
  else if word = "note" then some .note
  else if word = "warning" then some .warning
  else if word = "error" then some .error
  else Option.none

/-- The level of a word, `none` when it is unknown. -/
def Level.ofWord (word : String) : Level :=
  (ofWord? word).getD .none

/-- The word of a level. -/
def Level.word : Level → String
  | none => "none"
  | note => "note"
  | warning => "warning"
  | error => "error"

/-- A text with a rendering in Markdown. -/
structure Message where
  text : Option String := none
  markdown : Option String := none
deriving DecidableEq

/-- What a tool says about one of its rules. -/
structure ReportingDescriptor where
  id : Option String := none
  name : Option String := none
  help : Option Message := none
  fullDescription : Option Message := none
  shortDescription : Option Message := none
deriving DecidableEq

/-- A component of a tool, with its rules. -/
structure ToolComponent where
  name : Option String := none
  rules : Option (List ReportingDescriptor) := none
deriving DecidableEq

/-- An analysis tool. -/
structure Tool where
  driver : Option ToolComponent := none
deriving DecidableEq

/-- Where a file is: at a location of its own, or at that of an artifact of the run. -/
structure ArtifactLocation where
  uri : Option String := none
  index : Option Int := none
deriving DecidableEq

/-- A file that a run knows, referred to by its position in the run. -/
structure Artifact where
  location : Option ArtifactLocation := none
deriving DecidableEq

/-- A part of a file. -/
structure Region where
  startLine : Option Int := none
  message : Option Message := none
deriving DecidableEq

/-- A part of a file that has a location. -/
structure PhysicalLocation where
  artifactLocation : Option ArtifactLocation := none
  region : Option Region := none
deriving DecidableEq

/-- A place that a result points at. -/
structure Location where
  physicalLocation : Option PhysicalLocation := none
deriving DecidableEq

/-- One result of a run. -/
structure Result where
  ruleId : Option String := none
  message : Option Message := none
  level : Level := .none
  correlationGuid : Option String := none
  locations : Option (List Location) := none
deriving DecidableEq

/-- One execution of a tool. -/
structure Run where
  tool : Option Tool := none
  artifacts : Option (List Artifact) := none
  results : Option (List Result) := none
deriving DecidableEq

/-- A whole log. -/
structure Log where
  runs : Option (List Run) := none
deriving DecidableEq

namespace Run

/-- The component that names the tool and declares its rules. -/
def driver (run : Run) : Option ToolComponent :=
  run.tool.bind (·.driver)

/-- The rules of a run, none when it declares no driver or no rules. -/
def ruleList (run : Run) : List ReportingDescriptor :=
  (run.driver.bind (·.rules)).getD []

/-- The artifacts of a run. -/
def artifactList (run : Run) : List Artifact :=
  run.artifacts.getD []

/-- The results of a run. -/
def resultList (run : Run) : List Result :=
  run.results.getD []

end Run

/-- The locations of a result. -/
def Result.locationList (result : Result) : List Location :=
  result.locations.getD []

/-- The runs of a log. -/
def Log.runList (log : Log) : List Run :=
  log.runs.getD []

/-- How a location names its file: by the position of an artifact, which need not exist, or by
a location of its own. -/
inductive ArtifactReference
  | byIndex (index : Int)
  | direct (uri : Option String)
deriving DecidableEq

/-- The reference of a location. No index, and the index -1, mean the location of its own. -/
def ArtifactLocation.reference (location : ArtifactLocation) : ArtifactReference :=
  match location.index with
  | none => .direct location.uri
  | some index => if index = -1 then .direct location.uri else .byIndex index

end SarifDigest.Sarif
