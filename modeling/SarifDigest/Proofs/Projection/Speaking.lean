import SarifDigest.Proofs.Projection.WellFormed

/-!
# Messages that are empty

A result that finds nothing yields no violation, and the message of a violation without a place
is never empty. The message of a violation at a place is trimmed after its parts have been put
together, so it is empty when no part has a character other than a blank. A location whose
parts are all blank is mute; a report has a violation with an empty message exactly when its log
has a mute location.
-/
namespace SarifDigest

open Sarif

namespace Text

/-- Trimming leaves nothing of a text exactly when the text is blank. -/
theorem trim_eq_empty_iff {text : String} : trim text = "" ↔ isBlankText text = true := by
  have chars : (trim text).toList = (text.toList.dropWhile isBlank).rdropWhile isBlank :=
    String.toList_ofList
  have blank : isBlankText text = true ↔ ∀ c ∈ text.toList, isBlank c = true := by
    simp [isBlankText]
  rw [← String.toList_eq_nil_iff, chars, List.rdropWhile_eq_nil_iff, blank]
  constructor
  · intro rest
    cases left : text.toList.dropWhile isBlank with
    | nil => exact List.dropWhile_eq_nil_iff.1 left
    | cons c others =>
      -- What is left starts with a character that is no blank.
      have visible : isBlank c = false := isBlank_of_dropWhile (by rw [left]; rfl)
      rw [rest c (by rw [left]; exact List.mem_cons_self)] at visible
      contradiction
  · intro whole c inside
    rw [List.dropWhile_eq_nil_iff.2 whole] at inside
    contradiction

/-- A text that is put together is blank when its two parts are. -/
theorem isBlankText_append (front back : String) :
    isBlankText (front ++ back) = (isBlankText front && isBlankText back) := by
  simp [isBlankText]

end Text

/-- A further part of a message is blank when it is missing or has only blanks. -/
theorem isBlankText_furtherPart {part : Option String} :
    Text.isBlankText (furtherPart part) = true ↔
      ∀ given, part = some given → Text.isBlankText given = true := by
  cases part with
  | none =>
    have empty : Text.isBlankText (furtherPart none) = true := by decide
    simp [empty]
  | some given =>
    have separator : Text.isBlankText partSeparator = true := by decide
    simp [furtherPart, Text.isBlankText_append, separator]

/-- The message at a place is empty exactly when what was found and what the region adds are blank
and there is no help: the words that introduce the help are not blank. -/
theorem locatedMessage_eq_empty_iff {finding : String} {region help : Option String} :
    locatedMessage finding region help = "" ↔
      Text.isBlankText finding = true ∧
        (∀ addition, region = some addition → Text.isBlankText addition = true) ∧
        help = none := by
  have helpless : Text.isBlankText (furtherPart (help.map (helpLabel ++ ·))) = true ↔
      help = none := by
    have label : Text.isBlankText helpLabel = false := by decide
    rw [isBlankText_furtherPart]
    cases help with
    | none => simp
    | some help => simp [Text.isBlankText_append, label]
  rw [locatedMessage, Text.trim_eq_empty_iff, Text.isBlankText_append, Text.isBlankText_append,
    Bool.and_eq_true, Bool.and_eq_true, isBlankText_furtherPart, helpless, and_assoc]

/-- A location of a result is mute when it points at a line, but the result finds only blanks, the
region adds nothing or only blanks, and the rule of the result has no help. -/
structure Sarif.Result.MuteAt (result : Result) (run : Run) (location : Location) : Prop where
  /-- What the result finds is there, but blank. -/
  finding : ∃ finding, result.Finds finding ∧ Text.isBlankText finding = true
  /-- The location points at a line of a region that adds nothing visible. -/
  region : ∃ file region line, location.PointsAt file region line ∧
    ∀ addition, Says region.message (some addition) → Text.isBlankText addition = true
  /-- The rule has no help. -/
  help : (RuleTable.ofRun run).help? (result.ruleId.getD "") = none

section Yielded

variable {result : Result} {run : Run} {default : String} {violation : Violation}

/-- A violation with an empty message is at the line of a mute location. -/
theorem Sarif.Result.Yields.muteAt (yields : result.Yields run default violation)
    (silent : violation.message = "") :
    ∃ location ∈ result.locationList, result.MuteAt run location ∧
      ∃ file region, location.PointsAt file region violation.startLine := by
  cases yields with
  | fileless found _ _ _ _ message =>
    have spoken := filelessMessage_ne_empty
      ((RuleTable.ofRun run).description? (result.ruleId.getD "")) found.2
    rw [← message] at spoken
    exact absurd silent spoken
  | @located finding locations location named region line uri addition found listed inside points
      _ spoken _ _ startLine message =>
    rw [message] at silent
    obtain ⟨blank, blankRegion, helpless⟩ := locatedMessage_eq_empty_iff.1 silent
    have adds : ∀ other, Says region.message (some other) → Text.isBlankText other = true := by
      intro other added
      have same : addition = some other := (says_iff.1 spoken).symm.trans (says_iff.1 added)
      exact blankRegion other same
    have mute : result.MuteAt run location :=
      ⟨⟨finding, found, blank⟩, ⟨named, region, line, points, adds⟩, helpless⟩
    rw [← startLine] at points
    exact ⟨location, Sarif.Result.mem_locationList listed inside, mute, named, region, points⟩

/-- A result that finds something yields a violation for each location that points at a line of a
file which its run can name. -/
theorem Sarif.Result.yields_of_pointsAt (default : String) {finding : String}
    {location : Location} {file : Option ArtifactLocation} {region : Region} {line : Int}
    {uri : Option String} (found : result.Finds finding) (inside : location ∈ result.locationList)
    (points : location.PointsAt file region line) (named : run.file? (referenceOf file) = .ok uri) :
    result.Yields run default
      ((RunContext.of default 0 run).located result finding ⟨file, region, line.toNat⟩ uri) := by
  obtain ⟨first, others, listed⟩ := List.exists_cons_of_ne_nil (List.ne_nil_of_mem inside)
  obtain ⟨locations, given, same⟩ := Result.locations_of_cons listed
  have among : location ∈ locations := by
    rw [same, ← listed]
    exact inside
  have shown : (RunContext.of default 0 run).located result finding
      ⟨file, region, line.toNat⟩ uri ∈
        ((RunContext.of default 0 run).locationTrail result finding location).found :=
    RunContext.mem_found_locationTrail.2
      ⟨_, uri, Location.place_of_pointsAt points, named, rfl⟩
  exact (RunContext.yields_located_iff 0 found given (by simp [same])).2 ⟨location, among, shown⟩

/-- A result with a mute location yields a violation with an empty message, unless it asks for an
artifact that its run lacks. -/
theorem Sarif.Result.MuteAt.yields {location : Location} (mute : result.MuteAt run location)
    (inside : location ∈ result.locationList) (whole : ¬ result.Dangles run) :
    ∃ violation, result.Yields run default violation ∧ violation.message = "" := by
  obtain ⟨finding, found, blank⟩ := mute.finding
  obtain ⟨file, region, line, points, adds⟩ := mute.region
  cases named : run.file? (referenceOf file) with
  | error index =>
    have lacks := Run.file?_eq_error_iff.1 named
    exact absurd ⟨finding, location, file, region, line, index, found, inside, points, lacks⟩ whole
  | ok uri =>
    have yields := Sarif.Result.yields_of_pointsAt default found inside points named
    refine ⟨_, yields, ?_⟩
    have blankRegion : ∀ addition, shownText region.message = some addition →
        Text.isBlankText addition = true := by
      intro addition shown
      exact adds addition (says_iff.2 shown)
    exact locatedMessage_eq_empty_iff.2 ⟨blank, blankRegion, mute.help⟩

end Yielded

/-- In a report that is projected to the end, results that find nothing yield nothing, and a
violation with an empty message has a place and comes from a mute location. So all violations say
something exactly when no location of the log is mute. -/
theorem reportViolations_spoken_iff {report default : String} {log : Log} {set : ViolationSet}
    (decoded : Log.decode report = .ok log)
    (projected : reportViolations report default = .ok set) :
    (∀ run ∈ log.runList, ∀ result ∈ run.resultList, (∀ finding, ¬ result.Finds finding) →
      ∀ violation, ¬ result.Yields run default violation) ∧
    (∀ violation ∈ set.toList, violation.message = "" →
      violation.startLine ≠ 0 ∧ ∃ run ∈ log.runList, ∃ result ∈ run.resultList,
        result.Yields run default violation ∧ ∃ location ∈ result.locationList,
          result.MuteAt run location ∧
            ∃ file region, location.PointsAt file region violation.startLine) ∧
    ((∀ violation ∈ set.toList, violation.message ≠ "") ↔
      ∀ run ∈ log.runList, ∀ result ∈ run.resultList, ∀ location ∈ result.locationList,
        ¬ result.MuteAt run location) := by
  have members := yields_of_decoded decoded projected
  refine ⟨?nothing, ?silent, ?spoken⟩
  case nothing =>
    intro run _ result _ nothing violation yields
    cases yields with
    | fileless found => exact nothing _ found
    | located found => exact nothing _ found
  case silent =>
    intro violation inside silent
    obtain ⟨run, ran, result, reported, yields⟩ := (members violation).1 inside
    obtain ⟨location, located, mute, file, region, points⟩ := yields.muteAt silent
    have positive := points.positive
    have present : violation.startLine ≠ 0 := by omega
    exact ⟨present, run, ran, result, reported, yields, location, located, mute, file, region,
      points⟩
  case spoken =>
    constructor
    · intro spoken run ran result reported location located mute
      have whole : ¬ result.Dangles run := by
        intro dangles
        cases reportViolations_cases default decoded with
        | inl refused =>
          obtain ⟨_, fault, refused⟩ := refused
          rw [projected] at refused
          contradiction
        | inr given => exact given.1 run ran ⟨result, reported, dangles⟩
      obtain ⟨violation, yields, silent⟩ :
          ∃ violation, result.Yields run default violation ∧ violation.message = "" :=
        mute.yields located whole
      exact spoken violation ((members violation).2 ⟨run, ran, result, reported, yields⟩) silent
    · intro loud violation inside silent
      obtain ⟨run, ran, result, reported, yields⟩ := (members violation).1 inside
      obtain ⟨location, located, mute, _⟩ := yields.muteAt silent
      exact loud run ran result reported location located mute

/-- A report, its records written as sequences, of two results that find a blank, each with one
location; there is help for the rule of the second. -/
def blankReport : String :=
  "[[[[[\"lint\",[[\"r\",\"N\"]]]],null,[[null,[\" \"],null,null,[[[null,[1]]]]]," ++
  "[\"r\",[\" \"],null,null,[[[null,[2]]]]]]]]]"

/-- The log of that report. -/
def blankLog : Log where
  runs := some [
    { tool := some ⟨some ⟨some "lint", some [{ id := some "r", name := some "N" }]⟩⟩
      results := some [
        { message := some { text := some " " }
          locations := some [⟨some ⟨none, some { startLine := some 1 }⟩⟩] },
        { ruleId := some "r"
          message := some { text := some " " }
          locations := some [⟨some ⟨none, some { startLine := some 2 }⟩⟩] }] }]

/-- The violations of that report: the first says nothing, the second only where to find help. -/
def blankViolations : List Violation := [
  { file := "-", startLine := 1, rule := "", message := "", severity := .info
    reporter := "lint", specifics := .empty },
  { file := "-", startLine := 2, rule := "r", message := "For additional help see: N"
    severity := .info, reporter := "lint", specifics := .empty }]

/-- The blank report is read as its log and projected to its violations. -/
theorem blankReport_projected :
    Log.decode blankReport = .ok blankLog ∧
      reportViolations blankReport "Sarif" = .ok (.ofList blankViolations) := by
  have decoded : Log.decode blankReport = .ok blankLog := by decide +kernel
  have found : (blankLog.trail "Sarif").found = blankViolations := by decide +kernel
  refine ⟨decoded, ?_⟩
  rw [reportViolations_of_decode "Sarif" decoded, ← found]
  rfl

/-- Of the two locations in the blank report the one without help is mute. -/
theorem reportViolations_spoken_blank :
    Log.decode blankReport = .ok blankLog ∧
    reportViolations blankReport "Sarif" = .ok (.ofList blankViolations) ∧
    ∃ run ∈ blankLog.runList, ∃ result ∈ run.resultList, ∃ location ∈ result.locationList,
      result.MuteAt run location := by
  obtain ⟨decoded, projected⟩ := blankReport_projected
  refine ⟨decoded, projected, ?_⟩
  have silent : ∃ violation ∈ (OrderedSet.ofList blankViolations).toList,
      violation.message = "" := by decide +kernel
  obtain ⟨violation, inside, silent⟩ := silent
  obtain ⟨_, run, ran, result, reported, _, location, located, mute, _⟩ :=
    (reportViolations_spoken_iff decoded projected).2.1 violation inside silent
  exact ⟨run, ran, result, reported, location, located, mute⟩

/-- A report that is projected to the end may hold a violation whose message is empty. -/
theorem not_spoken_blank :
    reportViolations blankReport "Sarif" = .ok (.ofList blankViolations) ∧
    ¬ ∀ violation ∈ (OrderedSet.ofList blankViolations).toList, violation.message ≠ "" :=
  ⟨blankReport_projected.2, by decide +kernel⟩

end SarifDigest
