import SarifDigest.Projection.Report

/-!
# What the elements of a log say

What a message, a location, a run and a result say, as relations that read the members of a
log directly. Each function that the projection uses is shown to compute its relation, so that
statements about projected violations can be read without those functions.
-/
namespace SarifDigest

/-- A text counts as there when it is given and not empty. -/
theorem nonEmpty_eq_some_iff {text : Option String} {full : String} :
    nonEmpty text = some full ↔ text = some full ∧ full ≠ "" := by
  simp only [nonEmpty, Option.filter_eq_some_iff, decide_eq_true_eq]

/-- A text counts as missing when it is not given or empty. -/
theorem nonEmpty_eq_none_iff {text : Option String} :
    nonEmpty text = none ↔ text = none ∨ text = some "" := by
  cases text with
  | none => simp [nonEmpty]
  | some text => simp [nonEmpty, Option.filter_eq_none_iff]

namespace Sarif

/-- The text that a message says: its Markdown when that is not empty, and otherwise its plain
text, which may be missing or empty. -/
inductive Says : Option Message → Option String → Prop
  | missing : Says none none
  | markdown {message : Message} {text : String} (written : message.markdown = some text)
      (full : text ≠ "") : Says (some message) (some text)
  | plain {message : Message} (bare : message.markdown = none ∨ message.markdown = some "") :
      Says (some message) message.text

/-- What a message says is computed by `shownText`. -/
theorem says_iff {message : Option Message} {text : Option String} :
    Says message text ↔ shownText message = text := by
  constructor
  · intro spoken
    cases spoken with
    | missing => rfl
    | markdown written full =>
      have used := nonEmpty_eq_some_iff.2 ⟨written, full⟩
      simp only [shownText, Option.bind_some, Message.shown, used]
    | plain bare =>
      have unused := nonEmpty_eq_none_iff.2 bare
      simp only [shownText, Option.bind_some, Message.shown, unused]
  · rintro rfl
    cases message with
    | none => exact .missing
    | some message =>
      simp only [shownText, Option.bind_some, Message.shown]
      cases written : nonEmpty message.markdown with
      | none => exact .plain (nonEmpty_eq_none_iff.1 written)
      | some markdown =>
        obtain ⟨given, full⟩ := nonEmpty_eq_some_iff.1 written
        exact .markdown given full

/-- A result finds a text that its message says and that is not empty. -/
def Result.Finds (result : Result) (finding : String) : Prop :=
  Says result.message (some finding) ∧ finding ≠ ""

/-- What a result finds is computed by `finding?`. -/
theorem Result.finds_iff {result : Result} {finding : String} :
    result.Finds finding ↔ result.finding? = some finding := by
  simp only [Finds, says_iff, finding?, nonEmpty_eq_some_iff]

/-- A result finds nothing exactly when it has no finding. -/
theorem Result.not_finds_iff {result : Result} :
    (∀ finding, ¬ result.Finds finding) ↔ result.finding? = none := by
  simp only [finds_iff, Option.eq_none_iff_forall_ne_some, ne_eq]

/-- A result finds one text. -/
theorem Result.Finds.unique {result : Result} {finding other : String}
    (first : result.Finds finding) (second : result.Finds other) : finding = other := by
  rw [finds_iff] at first second
  exact Option.some.inj (first.symm.trans second)

/-- A result has locations to look at when it lists some. -/
theorem Result.locations_of_cons {result : Result} {first : Location} {others : List Location}
    (listed : result.locationList = first :: others) :
    ∃ locations, result.locations = some locations ∧ locations = first :: others := by
  cases given : result.locations with
  | none => simp [locationList, given] at listed
  | some locations =>
    rw [locationList, given, Option.getD_some] at listed
    exact ⟨locations, rfl, listed⟩

/-- A location points at a region from a line on that counts from one; the file may be left
open. -/
def Location.PointsAt (location : Location) (file : Option ArtifactLocation) (region : Region)
    (line : Int) : Prop :=
  ∃ physical, location.physicalLocation = some physical ∧ physical.artifactLocation = file ∧
    physical.region = some region ∧ region.startLine = some line ∧ 1 ≤ line

/-- What a location points at is its place. -/
theorem Location.place_eq_ok_iff {location : Location} {place : Place} :
    location.place = .ok place ↔
      ∃ line, location.PointsAt place.file place.region line ∧ place.line = line.toNat := by
  constructor
  · intro placed
    unfold Location.place at placed
    split at placed
    · contradiction
    · rename_i physical physicalGiven
      split at placed
      · contradiction
      · rename_i region regionGiven
        split at placed
        · contradiction
        · rename_i line lineGiven
          split at placed
          · contradiction
          · rename_i positive
            cases placed
            exact ⟨line, ⟨physical, physicalGiven, rfl, regionGiven, lineGiven, by omega⟩, rfl⟩
  · rintro ⟨line, ⟨physical, physicalGiven, fileGiven, regionGiven, lineGiven, positive⟩, same⟩
    have counted : ¬ line < 1 := by omega
    simp only [Location.place, physicalGiven, regionGiven, lineGiven, counted, if_false,
      fileGiven, ← same]

/-- A line that a location points at counts from one. -/
theorem Location.PointsAt.positive {location : Location} {file : Option ArtifactLocation}
    {region : Region} {line : Int} (points : location.PointsAt file region line) : 1 ≤ line := by
  obtain ⟨_, _, _, _, _, positive⟩ := points
  exact positive

/-- A location has a place or points at nothing. -/
theorem Location.place_of_pointsAt {location : Location} {file : Option ArtifactLocation}
    {region : Region} {line : Int} (points : location.PointsAt file region line) :
    location.place = .ok ⟨file, region, line.toNat⟩ :=
  place_eq_ok_iff.2 ⟨line, points, rfl⟩

/-- The URI that a run gives for the location of a file: its own when no artifact is meant, and
otherwise that of the artifact at the index, whatever its own is. -/
inductive Run.Locates (run : Run) : Option ArtifactLocation → Option String → Prop
  | missing : run.Locates none none
  | direct {location : ArtifactLocation}
      (own : location.index = none ∨ location.index = some (-1)) :
      run.Locates (some location) location.uri
  | artifact {location : ArtifactLocation} {position : Nat} {artifact : Artifact}
      (meant : location.index = some (position : Int))
      (declared : run.artifactList[position]? = some artifact) :
      run.Locates (some location) (artifact.location.bind (·.uri))

/-- An index that means an artifact which a run does not declare. -/
def Run.Lacks (run : Run) (file : Option ArtifactLocation) (index : Int) : Prop :=
  ∃ location, file = some location ∧ location.index = some index ∧ index ≠ -1 ∧
    ¬ (0 ≤ index ∧ index < run.artifactList.length)

/-- The artifact at an index within the bounds of the list, and none at any other. -/
theorem Run.artifact?_eq_none_iff {run : Run} {index : Int} :
    run.artifact? index = none ↔ ¬ (0 ≤ index ∧ index < run.artifactList.length) := by
  unfold artifact?
  split
  · rename_i negative
    simp only [true_iff]
    omega
  · rename_i natural
    rw [List.getElem?_eq_none_iff]
    omega

/-- The artifact at a natural index is that of the list. -/
theorem Run.artifact?_natural {run : Run} (position : Nat) :
    run.artifact? position = run.artifactList[position]? := by
  have natural : ¬ (position : Int) < 0 := by omega
  simp only [artifact?, natural, if_false, Int.toNat_natCast]

/-- The URI of the location of a file is computed by `file?`. -/
theorem Run.file?_eq_ok_iff {run : Run} {file : Option ArtifactLocation} {uri : Option String} :
    run.file? (referenceOf file) = .ok uri ↔ run.Locates file uri := by
  cases file with
  | none =>
    constructor
    · intro named
      cases named
      exact .missing
    · intro locates
      cases locates
      rfl
  | some location =>
    constructor
    · intro named
      simp only [referenceOf, ArtifactLocation.reference] at named
      split at named
      · rename_i absent
        cases named
        exact .direct (.inl absent)
      · rename_i index meant
        split at named
        · rename_i unset
          cases named
          exact .direct (.inr (by rw [meant, unset]))
        · simp only [file?] at named
          split at named
          · contradiction
          · rename_i artifact declared
            cases named
            have bounds : 0 ≤ index ∧ index < run.artifactList.length :=
              Decidable.byContradiction fun outside => by
                rw [Run.artifact?_eq_none_iff.2 outside] at declared
                contradiction
            obtain ⟨position, rfl⟩ := Int.eq_ofNat_of_zero_le bounds.1
            rw [artifact?_natural] at declared
            exact .artifact meant declared
    · intro locates
      cases locates with
      | direct own =>
        rcases own with absent | unset
        · simp [referenceOf, ArtifactLocation.reference, absent, file?]
        · simp [referenceOf, ArtifactLocation.reference, unset, file?]
      | artifact meant declared =>
        rename_i position artifact
        have other : (position : Int) ≠ -1 := by omega
        simp [referenceOf, ArtifactLocation.reference, meant, other, file?, artifact?_natural,
          declared]

/-- The artifact that a run lacks is found out by `file?`. -/
theorem Run.file?_eq_error_iff {run : Run} {file : Option ArtifactLocation} {index : Int} :
    run.file? (referenceOf file) = .error index ↔ run.Lacks file index := by
  cases file with
  | none => simp [referenceOf, file?, Lacks]
  | some location =>
    constructor
    · intro refused
      simp only [referenceOf, ArtifactLocation.reference] at refused
      split at refused
      · contradiction
      · rename_i meantIndex meant
        split at refused
        · contradiction
        · rename_i other
          simp only [file?] at refused
          split at refused
          · rename_i undeclared
            cases refused
            exact ⟨location, rfl, meant, other, artifact?_eq_none_iff.1 undeclared⟩
          · contradiction
    · rintro ⟨given, same, meant, other, outside⟩
      cases same
      have undeclared := artifact?_eq_none_iff.2 outside
      simp only [referenceOf, ArtifactLocation.reference, meant, other, if_false, file?,
        undeclared]

/-- The reporter of a run: the name of its driver when that has a character other than a blank,
and otherwise the default. -/
inductive Run.Reports (run : Run) (default : String) : String → Prop
  | named {tool : Tool} {driver : ToolComponent} {name : String} (used : run.tool = some tool)
      (driven : tool.driver = some driver) (given : driver.name = some name)
      (visible : ∃ c ∈ name.toList, Text.isBlank c = false) : run.Reports default name
  | unnamed (blank : ∀ tool driver name, run.tool = some tool → tool.driver = some driver →
      driver.name = some name → ∀ c ∈ name.toList, Text.isBlank c = true) :
      run.Reports default default

/-- A text is not blank when one of its characters is not. -/
theorem isBlankText_eq_false_iff {text : String} :
    Text.isBlankText text = false ↔ ∃ c ∈ text.toList, Text.isBlank c = false := by
  simp [Text.isBlankText]

/-- The driver of a run has a name when its tool has a driver that is named. -/
theorem Run.driver_name_iff {run : Run} {name : String} :
    run.driver.bind (·.name) = some name ↔
      ∃ tool driver,
        run.tool = some tool ∧ tool.driver = some driver ∧ driver.name = some name := by
  simp only [Run.driver, Option.bind_eq_some_iff]
  constructor
  · rintro ⟨driver, ⟨tool, used, driven⟩, given⟩
    exact ⟨tool, driver, used, driven, given⟩
  · rintro ⟨tool, driver, used, driven, given⟩
    exact ⟨driver, ⟨tool, used, driven⟩, given⟩

/-- The reporter of a run is computed by `reporter`. -/
theorem Run.reports_iff {run : Run} {default reporter : String} :
    run.Reports default reporter ↔ run.reporter default = reporter := by
  unfold Run.reporter
  constructor
  · intro reports
    cases reports with
    | named used driven given visible =>
      have shown := isBlankText_eq_false_iff.2 visible
      rw [Run.driver_name_iff.2 ⟨_, _, used, driven, given⟩,
        Option.filter_some_pos (by simp [shown])]
      rfl
    | unnamed blank =>
      cases named : run.driver.bind (·.name) with
      | none => rfl
      | some name =>
        obtain ⟨tool, driver, used, driven, given⟩ := Run.driver_name_iff.1 named
        have hidden : Text.isBlankText name = true := by
          simpa [Text.isBlankText] using blank tool driver name used driven given
        rw [Option.filter_some_neg (by simp [hidden])]
        rfl
  · rintro rfl
    cases named : run.driver.bind (·.name) with
    | none =>
      refine .unnamed fun tool driver name used driven given => ?_
      rw [Run.driver_name_iff.2 ⟨tool, driver, used, driven, given⟩] at named
      contradiction
    | some name =>
      obtain ⟨tool, driver, used, driven, given⟩ := Run.driver_name_iff.1 named
      cases hidden : Text.isBlankText name with
      | true =>
        rw [Option.filter_some_neg (by simp [hidden])]
        refine .unnamed fun tool' driver' name' used' driven' given' => ?_
        cases used.symm.trans used'
        cases driven.symm.trans driven'
        cases given.symm.trans given'
        simpa [Text.isBlankText] using hidden
      | false =>
        rw [Option.filter_some_pos (by simp [hidden])]
        exact .named used driven given (isBlankText_eq_false_iff.1 hidden)

/-- The details of a result: its correlation under a name of its own, nothing when the
correlation is missing or empty. -/
inductive Result.Details (result : Result) : List (String × String) → Prop
  | correlated {correlation : String} (given : result.correlationGuid = some correlation)
      (full : correlation ≠ "") : result.Details [("correlationGuid", correlation)]
  | uncorrelated (bare : result.correlationGuid = none ∨ result.correlationGuid = some "") :
      result.Details []

/-- The details of a result are computed by `details`. -/
theorem Result.details_iff {result : Result} {pairs : List (String × String)} :
    result.Details pairs ↔ result.details.pairs = pairs := by
  unfold Result.details
  constructor
  · intro details
    cases details with
    | correlated given full =>
      rw [nonEmpty_eq_some_iff.2 ⟨given, full⟩]
      rfl
    | uncorrelated bare =>
      rw [nonEmpty_eq_none_iff.2 bare]
      rfl
  · rintro rfl
    cases given : nonEmpty result.correlationGuid with
    | none => exact .uncorrelated (nonEmpty_eq_none_iff.1 given)
    | some correlation =>
      obtain ⟨written, full⟩ := nonEmpty_eq_some_iff.1 given
      exact .correlated written full

end Sarif

end SarifDigest
