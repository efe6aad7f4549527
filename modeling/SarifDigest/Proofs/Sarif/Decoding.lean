import SarifDigest.Proofs.Json.Records
import SarifDigest.Proofs.Sarif.Grammar

/-!
# Decoding SARIF logs

The readers of the objects of a log are exact, from the innermost record outwards, so a document
decodes as a log exactly when it is written as one. Every record has its list of fillings, which
are complete for it.
-/
namespace SarifDigest.Sarif

open Json (Complete Filling)
open Json.Reader

/-- The members of a message. -/
def Message.fillings : List (Filling Message) := [
  .optional "text" text_exact text_neverNull (fun text message => { message with text })
    (·.text) fun _ _ => rfl,
  .optional "markdown" text_exact text_neverNull
    (fun markdown message => { message with markdown }) (·.markdown) fun _ _ => rfl]

/-- The members are complete for messages. -/
theorem Message.complete : Complete {} Message.fillings where
  distinct := by simp [fillings, Filling.optional]
  frame := by simp [fillings, Filling.optional]
  absent := by simp [fillings, Filling.optional]
  determined := by
    rintro ⟨⟩ ⟨⟩ same
    simpa [fillings, Filling.optional] using same

/-- The reader of messages is exact. -/
theorem Message.reader_exact : Message.reader.Exact Message.Form :=
  record_exact "struct Message" Message.complete

/-- The members of a rule. -/
def ReportingDescriptor.fillings : List (Filling ReportingDescriptor) := [
  .optional "id" text_exact text_neverNull (fun id rule => { rule with id })
    (·.id) fun _ _ => rfl,
  .optional "name" text_exact text_neverNull (fun name rule => { rule with name })
    (·.name) fun _ _ => rfl,
  .optional "help" Message.reader_exact record_neverNull (fun help rule => { rule with help })
    (·.help) fun _ _ => rfl,
  .optional "fullDescription" Message.reader_exact record_neverNull
    (fun fullDescription rule => { rule with fullDescription })
    (·.fullDescription) fun _ _ => rfl,
  .optional "shortDescription" Message.reader_exact record_neverNull
    (fun shortDescription rule => { rule with shortDescription })
    (·.shortDescription) fun _ _ => rfl]

/-- The members are complete for rules. -/
theorem ReportingDescriptor.complete : Complete {} ReportingDescriptor.fillings where
  distinct := by simp [fillings, Filling.optional]
  frame := by simp [fillings, Filling.optional]
  absent := by simp [fillings, Filling.optional]
  determined := by
    rintro ⟨⟩ ⟨⟩ same
    simpa [fillings, Filling.optional] using same

/-- The reader of rules is exact. -/
theorem ReportingDescriptor.reader_exact :
    ReportingDescriptor.reader.Exact ReportingDescriptor.Form :=
  record_exact "struct ReportingDescriptor" ReportingDescriptor.complete

/-- The members of a tool component. -/
def ToolComponent.fillings : List (Filling ToolComponent) := [
  .optional "name" text_exact text_neverNull (fun name component => { component with name })
    (·.name) fun _ _ => rfl,
  .optional "rules" (sequence_exact ReportingDescriptor.reader_exact) sequence_neverNull
    (fun rules component => { component with rules })
    (·.rules) fun _ _ => rfl]

/-- The members are complete for tool components. -/
theorem ToolComponent.complete : Complete {} ToolComponent.fillings where
  distinct := by simp [fillings, Filling.optional]
  frame := by simp [fillings, Filling.optional]
  absent := by simp [fillings, Filling.optional]
  determined := by
    rintro ⟨⟩ ⟨⟩ same
    simpa [fillings, Filling.optional] using same

/-- The reader of tool components is exact. -/
theorem ToolComponent.reader_exact : ToolComponent.reader.Exact ToolComponent.Form :=
  record_exact "struct ToolComponent" ToolComponent.complete

/-- The members of a tool. -/
def Tool.fillings : List (Filling Tool) := [
  .optional "driver" ToolComponent.reader_exact record_neverNull
    (fun driver tool => { tool with driver })
    (·.driver) fun _ _ => rfl]

/-- The members are complete for tools. -/
theorem Tool.complete : Complete {} Tool.fillings where
  distinct := by simp [fillings, Filling.optional]
  frame := by simp [fillings, Filling.optional]
  absent := by simp [fillings, Filling.optional]
  determined := by
    rintro ⟨⟩ ⟨⟩ same
    simpa [fillings, Filling.optional] using same

/-- The reader of tools is exact. -/
theorem Tool.reader_exact : Tool.reader.Exact Tool.Form :=
  record_exact "struct Tool" Tool.complete

/-- The members of the location of a file. -/
def ArtifactLocation.fillings : List (Filling ArtifactLocation) := [
  .optional "uri" text_exact text_neverNull (fun uri location => { location with uri })
    (·.uri) fun _ _ => rfl,
  .optional "index" (integer_exact "i64") integer_neverNull
    (fun index location => { location with index })
    (·.index) fun _ _ => rfl]

/-- The members are complete for locations of files. -/
theorem ArtifactLocation.complete : Complete {} ArtifactLocation.fillings where
  distinct := by simp [fillings, Filling.optional]
  frame := by simp [fillings, Filling.optional]
  absent := by simp [fillings, Filling.optional]
  determined := by
    rintro ⟨⟩ ⟨⟩ same
    simpa [fillings, Filling.optional] using same

/-- The reader of locations of files is exact. -/
theorem ArtifactLocation.reader_exact : ArtifactLocation.reader.Exact ArtifactLocation.Form :=
  record_exact "struct ArtifactLocation" ArtifactLocation.complete

/-- The members of an artifact. -/
def Artifact.fillings : List (Filling Artifact) := [
  .optional "location" ArtifactLocation.reader_exact record_neverNull
    (fun location artifact => { artifact with location })
    (·.location) fun _ _ => rfl]

/-- The members are complete for artifacts. -/
theorem Artifact.complete : Complete {} Artifact.fillings where
  distinct := by simp [fillings, Filling.optional]
  frame := by simp [fillings, Filling.optional]
  absent := by simp [fillings, Filling.optional]
  determined := by
    rintro ⟨⟩ ⟨⟩ same
    simpa [fillings, Filling.optional] using same

/-- The reader of artifacts is exact. -/
theorem Artifact.reader_exact : Artifact.reader.Exact Artifact.Form :=
  record_exact "struct Artifact" Artifact.complete

/-- The members of a region. -/
def Region.fillings : List (Filling Region) := [
  .optional "startLine" (integer_exact "i64") integer_neverNull
    (fun startLine region => { region with startLine })
    (·.startLine) fun _ _ => rfl,
  .optional "message" Message.reader_exact record_neverNull
    (fun message region => { region with message })
    (·.message) fun _ _ => rfl]

/-- The members are complete for regions. -/
theorem Region.complete : Complete {} Region.fillings where
  distinct := by simp [fillings, Filling.optional]
  frame := by simp [fillings, Filling.optional]
  absent := by simp [fillings, Filling.optional]
  determined := by
    rintro ⟨⟩ ⟨⟩ same
    simpa [fillings, Filling.optional] using same

/-- The reader of regions is exact. -/
theorem Region.reader_exact : Region.reader.Exact Region.Form :=
  record_exact "struct Region" Region.complete

/-- The members of a physical location. -/
def PhysicalLocation.fillings : List (Filling PhysicalLocation) := [
  .optional "artifactLocation" ArtifactLocation.reader_exact record_neverNull
    (fun artifactLocation place => { place with artifactLocation })
    (·.artifactLocation) fun _ _ => rfl,
  .optional "region" Region.reader_exact record_neverNull
    (fun region place => { place with region })
    (·.region) fun _ _ => rfl]

/-- The members are complete for physical locations. -/
theorem PhysicalLocation.complete : Complete {} PhysicalLocation.fillings where
  distinct := by simp [fillings, Filling.optional]
  frame := by simp [fillings, Filling.optional]
  absent := by simp [fillings, Filling.optional]
  determined := by
    rintro ⟨⟩ ⟨⟩ same
    simpa [fillings, Filling.optional] using same

/-- The reader of physical locations is exact. -/
theorem PhysicalLocation.reader_exact : PhysicalLocation.reader.Exact PhysicalLocation.Form :=
  record_exact "struct PhysicalLocation" PhysicalLocation.complete

/-- The members of a location. -/
def Location.fillings : List (Filling Location) := [
  .optional "physicalLocation" PhysicalLocation.reader_exact record_neverNull
    (fun physicalLocation location => { location with physicalLocation })
    (·.physicalLocation) fun _ _ => rfl]

/-- The members are complete for locations. -/
theorem Location.complete : Complete {} Location.fillings where
  distinct := by simp [fillings, Filling.optional]
  frame := by simp [fillings, Filling.optional]
  absent := by simp [fillings, Filling.optional]
  determined := by
    rintro ⟨⟩ ⟨⟩ same
    simpa [fillings, Filling.optional] using same

/-- The reader of locations is exact. -/
theorem Location.reader_exact : Location.reader.Exact Location.Form :=
  record_exact "struct Location" Location.complete

/-- The words of levels are those that are known. -/
theorem Level.ofWord?_eq_some_iff {word : String} {level : Level} :
    ofWord? word = some level ↔ word = level.word := by
  constructor
  · intro found
    unfold ofWord? at found
    repeat' split at found
    all_goals simp_all only [Option.some.injEq, reduceCtorEq]
    all_goals
      subst found
      rfl
  · rintro rfl
    cases level <;> rfl

/-- A value stands for a level exactly when the level is the one drawn from it. -/
theorem Level.ofValue_eq_iff {value : Json.Value} {level : Level} :
    ofValue value = level ↔ level.Stands value := by
  unfold ofValue Stands
  cases value with
  | text word =>
    simp only [Json.Value.text?, Option.map_some, Option.getD_some, Level.ofWord,
      Json.Value.text.injEq, ne_eq]
    cases known : ofWord? word with
    | none =>
      have unknown : ∀ other : Level, word ≠ other.word := by
        intro other same
        simp [ofWord?_eq_some_iff.mpr same] at known
      simp [unknown, eq_comm]
    | some found =>
      have named := ofWord?_eq_some_iff.mp known
      simp only [Option.getD_some, ← ofWord?_eq_some_iff, known, Option.some.injEq]
      simp
  | _ => simp [Json.Value.text?, eq_comm]

/-- The reader of levels is exact. -/
theorem Level.reader_exact (depth : Nat) : (Level.reader depth).Exact (Level.Form depth) := by
  refine ((Json.Value.readerWithin_exact depth).map ofValue).congr fun level text => ?_
  simp only [Level.Form, ofValue_eq_iff]

/-- The members of a result. -/
def Result.fillings (depth : Nat) : List (Filling Result) := [
  .optional "ruleId" text_exact text_neverNull (fun ruleId result => { result with ruleId })
    (·.ruleId) fun _ _ => rfl,
  .optional "message" Message.reader_exact record_neverNull
    (fun message result => { result with message })
    (·.message) fun _ _ => rfl,
  { Value := Level
    name := "level"
    reader := Level.reader depth
    Form := Level.Form depth
    exact := Level.reader_exact depth
    put := fun level result => { result with level }
    get := (·.level)
    get_put := fun _ _ => rfl
    absent := .none },
  .optional "correlationGuid" text_exact text_neverNull
    (fun correlationGuid result => { result with correlationGuid })
    (·.correlationGuid) fun _ _ => rfl,
  .optional "locations" (sequence_exact Location.reader_exact) sequence_neverNull
    (fun locations result => { result with locations })
    (·.locations) fun _ _ => rfl]

/-- The members are complete for results. -/
theorem Result.complete (depth : Nat) : Complete {} (Result.fillings depth) where
  distinct := by simp [fillings, Filling.optional]
  frame := by simp [fillings, Filling.optional]
  absent := by simp [fillings, Filling.optional]
  determined := by
    rintro ⟨⟩ ⟨⟩ same
    simpa [fillings, Filling.optional] using same

/-- The reader of results is exact; a result is one more object or sequence around a level. -/
theorem Result.reader_exact (depth : Nat) :
    (Result.reader (depth + 1)).Exact (Result.Form depth) :=
  record_exact "struct SarifResult" (Result.complete depth)

/-- The members of a run. -/
def Run.fillings (depth : Nat) : List (Filling Run) := [
  .optional "tool" Tool.reader_exact record_neverNull (fun tool run => { run with tool })
    (·.tool) fun _ _ => rfl,
  .optional "artifacts" (sequence_exact Artifact.reader_exact) sequence_neverNull
    (fun artifacts run => { run with artifacts })
    (·.artifacts) fun _ _ => rfl,
  .optional "results" (sequence_exact (Result.reader_exact depth)) sequence_neverNull
    (fun results run => { run with results })
    (·.results) fun _ _ => rfl]

/-- The members are complete for runs. -/
theorem Run.complete (depth : Nat) : Complete {} (Run.fillings depth) where
  distinct := by simp [fillings, Filling.optional]
  frame := by simp [fillings, Filling.optional]
  absent := by simp [fillings, Filling.optional]
  determined := by
    rintro ⟨⟩ ⟨⟩ same
    simpa [fillings, Filling.optional] using same

/-- The reader of runs is exact; a run and its results are two more around a level. -/
theorem Run.reader_exact (depth : Nat) :
    (Run.reader (depth + 3)).Exact (Run.Form depth) :=
  record_exact "struct Run" (Run.complete depth)

/-- The members of a log. -/
def Log.fillings (depth : Nat) : List (Filling Log) := [
  .optional "runs" (sequence_exact (Run.reader_exact depth)) sequence_neverNull
    (fun runs log => { log with runs })
    (·.runs) fun _ _ => rfl]

/-- The members are complete for logs. -/
theorem Log.complete (depth : Nat) : Complete {} (Log.fillings depth) where
  distinct := by simp [fillings, Filling.optional]
  frame := by simp [fillings, Filling.optional]
  absent := by simp [fillings, Filling.optional]
  determined := by
    rintro ⟨⟩ ⟨⟩ same
    simpa [fillings, Filling.optional] using same

/-- The reader of logs is exact; a log and its runs are two more around a level. -/
theorem Log.reader_exact (depth : Nat) :
    (Log.reader (depth + 5)).Exact (Log.Form depth) :=
  record_exact "struct SarifLog" (Log.complete depth)

/-- A document decodes as a log exactly when it is written as this log. Five objects and sequences
stand around a level, of the 127 that may be open at a time: the log, its runs, the run, its results
and the result. -/
theorem Log.decode_eq_ok_iff (document : String) (log : Log) :
    Log.decode document = .ok log ↔ Json.DocumentText (Log.Form 122) log document :=
  document_eq_ok_iff (Log.reader_exact 122)

/-- A report with escapes: of a letter in the name of a member, and of a character that takes a
pair of units in the text of a message. -/
def pairedReport : String :=
  "\x7b\"r\\u0075ns\":[[null,null,[[null,[\"\\ud83d\\uDE00\"]]]]]\x7d"

/-- The pair of units is the one character that they stand for, and nothing else is read from it;
the first unit alone is no text of anything. -/
theorem Log.decode_pairedReport :
    Json.DocumentText (Log.Form 122)
      ⟨some [{ results := some [{ message := some { text := some "😀" } }] }]⟩ pairedReport ∧
    (∀ log, Json.DocumentText (Log.Form 122) log pairedReport →
      log = ⟨some [{ results := some [{ message := some { text := some "😀" } }] }]⟩) ∧
    ∀ log, ¬ Json.DocumentText (Log.Form 122) log "[[[null,null,[[null,[\"\\ud83d\"]]]]]]" := by
  have decoded : Log.decode pairedReport =
      .ok ⟨some [{ results := some [{ message := some { text := some "😀" } }] }]⟩ := by
    decide +kernel
  have refused : (Log.decode "[[[null,null,[[null,[\"\\ud83d\"]]]]]]").isOk = false := by
    decide +kernel
  refine ⟨(decode_eq_ok_iff _ _).mp decoded, fun log written => ?_, fun log written => ?_⟩
  · have again := (decode_eq_ok_iff _ _).mpr written
    rw [decoded, Except.ok.injEq] at again
    exact again.symm
  · rw [(decode_eq_ok_iff _ _).mpr written] at refused
    contradiction

end SarifDigest.Sarif
