import Mathlib.Logic.Relation
import SarifDigest.Proofs.Projection.Contents
import SarifDigest.Proofs.Sarif.RuleTables

/-!
# Rearranged logs

The independent parts of a log may change places: its runs, the results of a run, the locations
of a result, the rules of a run when their identifiers are different, and the artifacts of a run
when the indices that mean them are renumbered. Runs, results and locations may also be
repeated. However many such steps lie between two logs, both are refused or both have the same
violations in the same order.

Two logs are compared part by part: every part of either has a counterpart in the other that
comes to the same.
-/
namespace SarifDigest

open Sarif

section Paired

variable {α β : Type} {R : α → β → Prop}

/-- Every element of either list is related to one of the other. -/
def Paired (R : α → β → Prop) (list : List α) (other : List β) : Prop :=
  (∀ x ∈ list, ∃ y ∈ other, R x y) ∧ ∀ y ∈ other, ∃ x ∈ list, R x y

/-- What related elements share is found in both lists or in none. -/
theorem Paired.exists_iff {list : List α} {other : List β} (paired : Paired R list other)
    {P : α → Prop} {Q : β → Prop} (share : ∀ x y, R x y → (P x ↔ Q y)) :
    (∃ x ∈ list, P x) ↔ ∃ y ∈ other, Q y := by
  constructor
  · rintro ⟨x, inside, holds⟩
    obtain ⟨y, found, related⟩ := paired.1 x inside
    exact ⟨y, found, (share x y related).1 holds⟩
  · rintro ⟨y, inside, holds⟩
    obtain ⟨x, found, related⟩ := paired.2 y inside
    exact ⟨x, found, (share x y related).2 holds⟩

/-- Both lists are empty or none is. -/
theorem Paired.eq_nil_iff {list : List α} {other : List β} (paired : Paired R list other) :
    list = [] ↔ other = [] := by
  have found : (∃ x, x ∈ list) ↔ ∃ y, y ∈ other := by
    simpa using paired.exists_iff (P := fun _ => True) (Q := fun _ => True) fun _ _ _ => Iff.rfl
  rw [List.eq_nil_iff_forall_not_mem, List.eq_nil_iff_forall_not_mem, ← not_exists, ← not_exists,
    found]

/-- A list is paired with what a function makes of its elements. -/
theorem Paired.map {change : α → β} (related : ∀ x, R x (change x)) (list : List α) :
    Paired R list (list.map change) :=
  ⟨fun x inside => ⟨change x, List.mem_map_of_mem inside, related x⟩, fun y inside => by
    obtain ⟨x, found, rfl⟩ := List.mem_map.1 inside
    exact ⟨x, found, related x⟩⟩

/-- A list is paired with one in which a single element is replaced by a related one. -/
theorem Paired.replace {R : α → α → Prop} (same : ∀ x, R x x) {x y : α} (related : R x y)
    (before behind : List α) : Paired R (before ++ x :: behind) (before ++ y :: behind) := by
  have member : ∀ {z w : α} {list other : List α}, z ∈ list ++ w :: other →
      z = w ∨ z ∈ list ++ other := by
    intro z w list other inside
    simpa [or_left_comm] using inside
  have kept : ∀ {z w : α} {list other : List α}, z ∈ list ++ other → z ∈ list ++ w :: other := by
    intro z w list other inside
    rcases List.mem_append.1 inside with front | back <;> simp [*]
  constructor
  · intro z inside
    rcases member inside with rfl | other
    · exact ⟨y, by simp, related⟩
    · exact ⟨z, kept other, same z⟩
  · intro z inside
    rcases member inside with rfl | other
    · exact ⟨x, by simp, related⟩
    · exact ⟨z, kept other, same z⟩

end Paired

/-- Lists have the same elements, in whatever order and however often these stand there. -/
def SameElements {α : Type} (list other : List α) : Prop :=
  ∀ x, x ∈ list ↔ x ∈ other

/-- Lists with the same elements are paired. -/
theorem SameElements.paired {α : Type} {R : α → α → Prop} {list other : List α}
    (same : SameElements list other) (related : ∀ x, R x x) : Paired R list other :=
  ⟨fun x inside => ⟨x, (same x).1 inside, related x⟩,
    fun x inside => ⟨x, (same x).2 inside, related x⟩⟩

namespace Sarif

section Renumbering

variable (count : Nat) (number : Nat → Nat)

/-- The index of an artifact when so many artifacts have new numbers. An index that means none
of them stays as it is. -/
def renumbered (index : Int) : Int :=
  if 0 ≤ index ∧ index < count then number index.toNat else index

/-- The location of a file with its index renumbered. -/
def ArtifactLocation.renumber (location : ArtifactLocation) : ArtifactLocation :=
  { location with index := location.index.map (renumbered count number) }

/-- A physical location with the index of its file renumbered. -/
def PhysicalLocation.renumber (physical : PhysicalLocation) : PhysicalLocation :=
  { physical with
    artifactLocation := physical.artifactLocation.map (·.renumber count number) }

/-- A location with the index of its file renumbered. -/
def Location.renumber (location : Location) : Location :=
  { physicalLocation := location.physicalLocation.map (·.renumber count number) }

/-- A result with the indices of its locations renumbered. -/
def Result.renumber (result : Result) : Result :=
  { result with locations := result.locations.map (·.map (·.renumber count number)) }

end Renumbering

/-- Artifacts have new numbers: there are as many as before, and at the new number of each one
stands one with its URI. Nothing else of an artifact is ever read. -/
structure Renumbers (number : Nat → Nat) (artifacts others : List Artifact) : Prop where
  /-- None is added and none is left out. -/
  length : others.length = artifacts.length
  /-- Every one is found at its new number. -/
  placed : ∀ (position : Nat) (artifact : Artifact), artifacts[position]? = some artifact →
    ∃ same, others[number position]? = some same ∧
      same.location.bind (·.uri) = artifact.location.bind (·.uri)

/-- One step from a run to a rearranged one. -/
inductive Run.Rearrangement (run : Run) : Run → Prop
  | results {results others : List Result} (given : run.results = some results)
      (same : SameElements results others) :
      Rearrangement run { run with results := some others }
  | locations {before behind : List Result} {result : Result} {locations others : List Location}
      (given : run.results = some (before ++ result :: behind))
      (listed : result.locations = some locations) (same : SameElements locations others) :
      Rearrangement run { run with
        results := some (before ++ { result with locations := some others } :: behind) }
  | rules {tool : Tool} {driver : ToolComponent} {rules others : List ReportingDescriptor}
      (used : run.tool = some tool) (driven : tool.driver = some driver)
      (declared : driver.rules = some rules) (order : rules.Perm others)
      (distinct : (rules.filterMap fun rule => nonEmpty rule.id).Nodup) :
      Rearrangement run { run with
        tool := some { tool with driver := some { driver with rules := some others } } }
  | artifacts {artifacts others : List Artifact} {number : Nat → Nat}
      (given : run.artifacts = some artifacts) (renumbers : Renumbers number artifacts others) :
      Rearrangement run { run with
        artifacts := some others
        results := run.results.map (·.map (·.renumber artifacts.length number)) }

/-- One step from a log to a rearranged one. -/
inductive Log.Rearrangement (log : Log) : Log → Prop
  | runs {runs others : List Run} (given : log.runs = some runs)
      (same : SameElements runs others) : Rearrangement log { log with runs := some others }
  | run {before behind : List Run} {run other : Run}
      (given : log.runs = some (before ++ run :: behind)) (step : run.Rearrangement other) :
      Rearrangement log { log with runs := some (before ++ other :: behind) }

/-- A log is rearranged by any number of steps. -/
def Log.Rearranged : Log → Log → Prop :=
  Relation.ReflTransGen Log.Rearrangement

/-- What a place of a run leads to: a region from a line on, and its file, or the index of an
artifact that is not there. -/
structure Destination where
  region : Region
  line : Nat
  file : Except Int (Option String)

/-- What a location of a run leads to, if it is a place. -/
def Run.destination? (run : Run) (location : Location) : Option Destination :=
  location.place.toOption.map fun place =>
    ⟨place.region, place.line, run.file? (referenceOf place.file)⟩

/-- Two runs say the same of their tool. -/
structure Run.SameTool (run other : Run) : Prop where
  /-- Their results have the same reporter. -/
  reporter : ∀ default, run.reporter default = other.reporter default
  /-- Their rules have the same help. -/
  help : ∀ id, (RuleTable.ofRun run).help? id = (RuleTable.ofRun other).help? id
  /-- Their rules have the same description. -/
  description : ∀ id,
    (RuleTable.ofRun run).description? id = (RuleTable.ofRun other).description? id

/-- A result in a run says the same as another in another, and leads to the same places. -/
structure Result.Matches (run other : Run) (result result' : Result) : Prop where
  /-- They find the same. -/
  finding : result.finding? = result'.finding?
  /-- They are about the same rule. -/
  rule : result.rule = result'.rule
  /-- They are on the same level. -/
  level : result.level = result'.level
  /-- They have the same details. -/
  details : result.details = result'.details
  /-- Every location of either leads to where one of the other does. -/
  locations : Paired (fun location location' =>
      run.destination? location = other.destination? location')
    result.locationList result'.locationList

/-- Two runs say the same of their tool, and every result of either matches one of the other. -/
structure Run.Matches (run other : Run) : Prop where
  /-- The tool is the same. -/
  tool : run.SameTool other
  /-- The results match. -/
  results : Paired (Result.Matches run other) run.resultList other.resultList

end Sarif

namespace RunContext

variable {default : String} {run other : Run} {result result' : Result} {violation : Violation}

/-- What a location adds goes by what it leads to. -/
theorem mem_found_locationTrail_iff (position : Nat) {finding : String} {location : Location} :
    violation ∈
        ((RunContext.of default position run).locationTrail result finding location).found ↔
      ∃ destination uri, run.destination? location = some destination ∧
        destination.file = .ok uri ∧
        violation = (RunContext.of default position run).located result finding
          ⟨none, destination.region, destination.line⟩ uri := by
  rw [mem_found_locationTrail]
  unfold Run.destination?
  cases location.place with
  | error omission => simp [Except.toOption]
  | ok place =>
    simp only [Except.toOption, Option.map_some, Option.some.injEq, Except.ok.injEq]
    constructor
    · rintro ⟨_, uri, rfl, named, same⟩
      exact ⟨_, uri, rfl, named, same⟩
    · rintro ⟨_, uri, rfl, named, same⟩
      exact ⟨_, uri, rfl, named, same⟩

end RunContext

section Matching

variable {default : String} {run other : Run} {result result' : Result} {violation : Violation}

/-- What a result yields goes by what it finds and by what its locations lead to. -/
theorem yields_iff_destination :
    result.Yields run default violation ↔
      ∃ finding, result.finding? = some finding ∧
        (result.locationList = [] ∧
            violation = (RunContext.of default 0 run).fileless result finding ∨
          ∃ location ∈ result.locationList, ∃ destination uri,
            run.destination? location = some destination ∧ destination.file = .ok uri ∧
              violation = (RunContext.of default 0 run).located result finding
                ⟨none, destination.region, destination.line⟩ uri) := by
  cases found : result.finding? with
  | none =>
    have nothing := Result.not_finds_iff.2 found
    simp only [reduceCtorEq, false_and, exists_false, iff_false]
    rintro (⟨finds, _⟩ | ⟨finds, _⟩) <;> exact nothing _ finds
  | some finding =>
    have finds := Result.finds_iff.2 found
    simp only [Option.some.injEq, exists_eq_left']
    cases listed : result.locationList with
    | nil =>
      rw [RunContext.yields_unlocated_iff 0 finds listed]
      simp
    | cons first others =>
      obtain ⟨locations, given, same⟩ := Result.locations_of_cons listed
      rw [RunContext.yields_located_iff 0 finds given (by simp [same])]
      simp only [RunContext.mem_found_locationTrail_iff, same, reduceCtorEq, false_and, false_or]

/-- Whether a result asks for an artifact that is not there goes by what its locations lead
to. -/
theorem dangles_iff_destination :
    result.Dangles run ↔
      (∃ finding, result.finding? = some finding) ∧
        ∃ location ∈ result.locationList, ∃ destination index,
          run.destination? location = some destination ∧ destination.file = .error index := by
  unfold Result.Dangles Run.destination?
  simp only [Result.finds_iff]
  constructor
  · rintro ⟨finding, location, file, region, line, index, found, inside, points, lacks⟩
    refine ⟨⟨finding, found⟩, location, inside, ⟨region, line.toNat, .error index⟩, index, ?_, rfl⟩
    rw [Location.place_of_pointsAt points]
    simp only [Except.toOption, Option.map_some, Run.file?_eq_error_iff.2 lacks]
  · rintro ⟨⟨finding, found⟩, location, inside, _, index, leads, missing⟩
    obtain ⟨place, placed, rfl⟩ := Option.map_eq_some_iff.1 leads
    cases here : location.place with
    | error omission => simp [here, Except.toOption] at placed
    | ok place' =>
      rw [here] at placed
      cases placed
      obtain ⟨line, points, _⟩ := Location.place_eq_ok_iff.1 here
      exact ⟨finding, location, _, _, line, index, found, inside, points,
        Run.file?_eq_error_iff.1 missing⟩

namespace Sarif

/-- Matching results yield the same violations. -/
theorem Result.Matches.yields_iff (matching : Result.Matches run other result result')
    (tool : run.SameTool other) :
    result.Yields run default violation ↔ result'.Yields other default violation := by
  have fileless : ∀ finding, (RunContext.of default 0 run).fileless result finding =
      (RunContext.of default 0 other).fileless result' finding := by
    intro finding
    simp only [RunContext.fileless, RunContext.of, matching.rule, matching.level,
      matching.details, tool.description, tool.reporter]
  have located : ∀ finding place uri,
      (RunContext.of default 0 run).located result finding place uri =
        (RunContext.of default 0 other).located result' finding place uri := by
    intro finding place uri
    simp only [RunContext.located, RunContext.of, matching.rule, matching.level,
      matching.details, tool.help, tool.reporter]
  simp only [yields_iff_destination, matching.finding, matching.locations.eq_nil_iff, fileless,
    located]
  refine exists_congr fun finding => and_congr_right fun _ => or_congr_right ?_
  refine matching.locations.exists_iff fun location location' leads => ?_
  rw [leads]

/-- Matching results ask for missing artifacts both or not at all. -/
theorem Result.Matches.dangles_iff (matching : Result.Matches run other result result') :
    result.Dangles run ↔ result'.Dangles other := by
  simp only [dangles_iff_destination, matching.finding]
  refine and_congr_right fun _ => matching.locations.exists_iff fun location location' leads => ?_
  rw [leads]

/-- Matching runs yield the same violations. -/
theorem Run.Matches.yields_iff (matching : run.Matches other) :
    run.Yields default violation ↔ other.Yields default violation :=
  matching.results.exists_iff fun _ _ inner => inner.yields_iff matching.tool

/-- Matching runs ask for missing artifacts both or not at all. -/
theorem Run.Matches.dangles_iff (matching : run.Matches other) :
    run.Dangles ↔ other.Dangles :=
  matching.results.exists_iff fun _ _ inner => inner.dangles_iff

end Sarif

end Matching

namespace Sarif

section Steps

variable {run other : Run}

/-- Runs with one tool say the same of it. -/
theorem Run.SameTool.of_tool (same : run.tool = other.tool) : run.SameTool other where
  reporter default := by simp only [Run.reporter, Run.driver, same]
  help id := by simp only [RuleTable.ofRun, Run.ruleList, Run.driver, same]
  description id := by simp only [RuleTable.ofRun, Run.ruleList, Run.driver, same]

/-- In runs with the same artifacts a result matches itself. -/
theorem Result.Matches.itself (same : run.artifactList = other.artifactList) (result : Result) :
    Result.Matches run other result result where
  finding := rfl
  rule := rfl
  level := rfl
  details := rfl
  locations := by
    have leads : ∀ location, run.destination? location = other.destination? location := by
      intro location
      have artifact : ∀ index, run.artifact? index = other.artifact? index := by
        intro index
        simp only [Run.artifact?, same]
      simp only [Run.destination?, Run.file?, artifact]
    exact ⟨fun location inside => ⟨location, inside, leads location⟩,
      fun location inside => ⟨location, inside, leads location⟩⟩

/-- A run matches itself. -/
theorem Run.Matches.itself (run : Run) : run.Matches run where
  tool := .of_tool rfl
  results := ⟨fun result inside => ⟨result, inside, .itself rfl result⟩,
    fun result inside => ⟨result, inside, .itself rfl result⟩⟩

section Artifacts

variable {artifacts others : List Artifact} {number : Nat → Nat}

/-- A renumbered index means an artifact of the same URI, or none that is there if it did not
before. -/
theorem Renumbers.file? (renumbers : Renumbers number artifacts others)
    (declared : run.artifactList = artifacts) (declared' : other.artifactList = others)
    (file : Option ArtifactLocation) :
    other.file? (referenceOf (file.map (·.renumber artifacts.length number))) =
      run.file? (referenceOf file) := by
  cases file with
  | none => rfl
  | some location =>
    obtain ⟨uri, index⟩ := location
    cases index with
    | none => rfl
    | some index =>
      simp only [Option.map_some, ArtifactLocation.renumber, referenceOf,
        ArtifactLocation.reference, renumbered]
      by_cases bounds : 0 ≤ index ∧ index < artifacts.length
      · obtain ⟨position, rfl⟩ := Int.eq_ofNat_of_zero_le bounds.1
        have inside : position < artifacts.length := by omega
        obtain ⟨same, moved, uri⟩ :=
          renumbers.placed position artifacts[position] (List.getElem?_eq_getElem inside)
        have set : ¬ (position : Int) = -1 := by omega
        have setNumber : ¬ (number position : Int) = -1 := by omega
        simp only [bounds, and_self, if_true, Int.toNat_natCast, set, setNumber, if_false,
          Run.file?, Run.artifact?_natural, declared, declared', moved, uri,
          List.getElem?_eq_getElem inside]
      · rw [if_neg bounds]
        by_cases unset : index = -1
        · simp only [unset, if_true, Run.file?]
        · have lacks : run.artifact? index = none :=
            Run.artifact?_eq_none_iff.2 (by rw [declared]; exact bounds)
          have lacks' : other.artifact? index = none :=
            Run.artifact?_eq_none_iff.2 (by rw [declared', renumbers.length]; exact bounds)
          simp only [unset, if_false, Run.file?, lacks, lacks']

/-- A renumbered location leads to where it did. -/
theorem Renumbers.destination? (renumbers : Renumbers number artifacts others)
    (declared : run.artifactList = artifacts) (declared' : other.artifactList = others)
    (location : Location) :
    other.destination? (location.renumber artifacts.length number) =
      run.destination? location := by
  obtain ⟨physical⟩ := location
  cases physical with
  | none => rfl
  | some physical =>
    obtain ⟨file, region⟩ := physical
    cases region with
    | none => rfl
    | some region =>
      obtain ⟨line, message⟩ := region
      cases line with
      | none => rfl
      | some line =>
        by_cases low : line < 1
        · simp [Run.destination?, Location.renumber, PhysicalLocation.renumber, Location.place, low,
            Except.toOption]
        · simp only [Run.destination?, Location.renumber, PhysicalLocation.renumber,
            Location.place, low, Option.map_some, if_false, Except.toOption,
            renumbers.file? declared declared']

/-- A renumbered result matches what it was. -/
theorem Renumbers.result (renumbers : Renumbers number artifacts others)
    (declared : run.artifactList = artifacts) (declared' : other.artifactList = others)
    (result : Result) :
    Result.Matches run other result (result.renumber artifacts.length number) where
  finding := rfl
  rule := rfl
  level := rfl
  details := rfl
  locations := by
    have listed : (result.renumber artifacts.length number).locationList =
        result.locationList.map (·.renumber artifacts.length number) := by
      simp only [Result.locationList, Result.renumber]
      cases result.locations <;> rfl
    rw [listed]
    refine .map ?_ result.locationList
    exact fun location => (renumbers.destination? declared declared' location).symm

end Artifacts

/-- A step from a run leads to one that matches it. -/
theorem Run.Rearrangement.matches (step : run.Rearrangement other) : run.Matches other := by
  cases step with
  | results given same =>
    refine ⟨.of_tool rfl, ?_⟩
    simp only [resultList, given, Option.getD_some]
    refine same.paired ?_
    exact fun result => .itself (by rfl) result
  | locations given listed same =>
    rename_i before behind result locations others
    refine ⟨.of_tool rfl, ?_⟩
    simp only [resultList, given, Option.getD_some]
    refine .replace ?_ ⟨rfl, rfl, rfl, rfl, ?_⟩ before behind
    · exact fun result => .itself (by rfl) result
    · simp only [Result.locationList, listed, Option.getD_some]
      refine same.paired ?_
      exact fun location => rfl
  | rules used driven declared order distinct =>
    rename_i tool driver rules others
    have listed : run.ruleList = rules := by
      simp [ruleList, Run.driver, used, driven, declared]
    refine ⟨⟨?_, ?_, ?_⟩, ?_⟩
    · intro default
      simp [Run.reporter, Run.driver, used, driven]
    · refine fun id => (RuleTable.ofRun_of_perm ?_ (by rw [listed]; exact distinct) id).1
      rw [listed]
      exact order
    · refine fun id => (RuleTable.ofRun_of_perm ?_ (by rw [listed]; exact distinct) id).2
      rw [listed]
      exact order
    · have same : SameElements run.resultList run.resultList := fun _ => Iff.rfl
      refine same.paired ?_
      exact fun result => .itself (by rfl) result
  | artifacts given renumbers =>
    rename_i artifacts others number
    refine ⟨.of_tool rfl, ?_⟩
    have declared : run.artifactList = artifacts := by rw [artifactList, given, Option.getD_some]
    have listed : (run.results.map (·.map (·.renumber artifacts.length number))).getD [] =
        run.resultList.map (·.renumber artifacts.length number) := by
      unfold resultList
      cases run.results <;> rfl
    simp only [resultList, listed]
    refine .map ?_ run.resultList
    exact fun result => renumbers.result declared rfl result

end Steps

/-- Two logs come to the same: runs of both ask for missing artifacts or of none, and the runs of
either yield the violations that those of the other do. -/
structure Log.SameContents (log other : Log) : Prop where
  /-- Both ask for missing artifacts, or none does. -/
  dangles : (∃ run ∈ log.runList, run.Dangles) ↔ ∃ run ∈ other.runList, run.Dangles
  /-- Both yield the same violations, whatever the default reporter. -/
  yields : ∀ default violation, (∃ run ∈ log.runList, run.Yields default violation) ↔
    ∃ run ∈ other.runList, run.Yields default violation

/-- Logs whose runs match come to the same. -/
theorem Log.SameContents.of_paired {log other : Log}
    (paired : Paired Run.Matches log.runList other.runList) : log.SameContents other where
  dangles := paired.exists_iff fun _ _ matching => matching.dangles_iff
  yields _ _ := paired.exists_iff fun _ _ matching => matching.yields_iff

/-- A step from a log leads to one that comes to the same. -/
theorem Log.Rearrangement.sameContents {log other : Log} (step : log.Rearrangement other) :
    log.SameContents other := by
  cases step with
  | runs given same =>
    apply SameContents.of_paired
    simp only [runList, given, Option.getD_some]
    exact same.paired Run.Matches.itself
  | run given step =>
    apply SameContents.of_paired
    simp only [runList, given, Option.getD_some]
    exact .replace Run.Matches.itself step.matches _ _

/-- Any number of steps leads to a log that comes to the same. -/
theorem Log.Rearranged.sameContents {log other : Log} (steps : log.Rearranged other) :
    log.SameContents other := by
  induction steps with
  | refl => exact ⟨Iff.rfl, fun _ _ => Iff.rfl⟩
  | tail _ step ih =>
    have next := step.sameContents
    exact ⟨ih.dangles.trans next.dangles,
      fun default violation => (ih.yields default violation).trans (next.yields default violation)⟩

end Sarif

/-- When one of two logs is a rearrangement of the other, both are projected to the same set of
violations, in the same order, or both are refused for a missing artifact. -/
theorem reportViolations_rearranged {report rearranged : String} {log other : Log}
    (default : String) (decoded : Log.decode report = .ok log)
    (decoded' : Log.decode rearranged = .ok other) (steps : log.Rearranged other) :
    (∃ set, reportViolations report default = .ok set ∧
        reportViolations rearranged default = .ok set) ∨
      ∃ fault fault', reportViolations report default = .error (.missingArtifact fault) ∧
        reportViolations rearranged default = .error (.missingArtifact fault') := by
  have same := steps.sameContents
  rcases reportViolations_cases default decoded with
    ⟨dangles, fault, refused⟩ | ⟨whole, set, projected, holds⟩
  · rcases reportViolations_cases default decoded' with
      ⟨_, fault', refused'⟩ | ⟨whole', _⟩
    · exact .inr ⟨fault, fault', refused, refused'⟩
    · obtain ⟨run, inside, asks⟩ := same.dangles.1 dangles
      exact absurd asks (whole' run inside)
  · rcases reportViolations_cases default decoded' with
      ⟨dangles', _⟩ | ⟨_, set', projected', holds'⟩
    · obtain ⟨run, inside, asks⟩ := same.dangles.2 dangles'
      exact absurd asks (whole run inside)
    · have equal : set = set' := by
        apply OrderedSet.eq_of_mem
        intro violation
        rw [holds, holds', same.yields]
      exact .inl ⟨set, projected, by rw [equal]; exact projected'⟩

/-- A run of a tool with the given rules, artifacts and results. -/
def toolRun (rules : List ReportingDescriptor) (artifacts : List Artifact)
    (results : List Result) : Run where
  tool := some ⟨some ⟨some "lint", some rules⟩⟩
  artifacts := some artifacts
  results := some results

/-- A result at the given lines of artifacts, these being given by their indices. -/
def indexedResult (places : List (Int × Int)) : Result where
  ruleId := some "r"
  message := some { text := some "m" }
  locations := some (places.map fun (index, line) =>
    ⟨some ⟨some { index := some index }, some { startLine := some line }⟩⟩)

/-- The rules of that tool. -/
def toolRules : List ReportingDescriptor :=
  [{ id := some "r", name := some "N" }, { id := some "s" }]

/-- A result of that tool without locations. -/
def looseResult : Result where
  ruleId := some "s"
  message := some { text := some "n" }

/-- A report of two runs, its records written as sequences. -/
def orderlyReport : String :=
  "[[[[[\"lint\",[[\"r\",\"N\"],[\"s\"]]]],[[[\"a.c\"]],[[\"b.c\"]]]," ++
  "[[\"r\",[\"m\"],null,null,[[[[null,0],[3]]],[[[null,1],[4]]]]],[\"s\",[\"n\"]]]]," ++
  "[null,null,[[null,[\"o\"]]]]]]"

/-- The log of that report. -/
def orderlyLog : Log where
  runs := some [
    toolRun toolRules [⟨some { uri := some "a.c" }⟩, ⟨some { uri := some "b.c" }⟩]
      [indexedResult [(0, 3), (1, 4)], looseResult],
    { results := some [{ message := some { text := some "o" } }] }]

/-- A report of the same with its runs, results, locations, rules and artifacts in another order,
some of them twice, and the indices renumbered. -/
def shuffledReport : String :=
  "[[[null,null,[[null,[\"o\"]]]]," ++
  "[[[\"lint\",[[\"s\"],[\"r\",\"N\"]]]],[[[\"b.c\"]],[[\"a.c\"]]]," ++
  "[[\"s\",[\"n\"]],[\"r\",[\"m\"],null,null,[[[[null,0],[4]]],[[[null,1],[3]]]," ++
  "[[[null,0],[4]]]]],[\"s\",[\"n\"]]]]]]"

/-- The log of that report. -/
def shuffledLog : Log where
  runs := some [
    { results := some [{ message := some { text := some "o" } }] },
    toolRun toolRules.reverse [⟨some { uri := some "b.c" }⟩, ⟨some { uri := some "a.c" }⟩]
      [looseResult, indexedResult [(0, 4), (1, 3), (0, 4)], looseResult]]

/-- The shuffled log is a rearrangement of the orderly one, in one step of each kind. -/
theorem rearranged_shuffled : orderlyLog.Rearranged shuffledLog := by
  let plain : Run := { results := some [{ message := some { text := some "o" } }] }
  let files : List Artifact := [⟨some { uri := some "a.c" }⟩, ⟨some { uri := some "b.c" }⟩]
  let repeated : Result := indexedResult [(1, 4), (0, 3), (1, 4)]
  let withRun (run : Run) : Log := ⟨some ([plain] ++ run :: [])⟩
  have inRun {first second : Run} (step : first.Rearrangement second) :
      (withRun first).Rearrangement (withRun second) := .run rfl step
  have ofRuns : orderlyLog.Rearrangement
      (withRun (toolRun toolRules files [indexedResult [(0, 3), (1, 4)], looseResult])) :=
    .runs rfl fun run => by simp [or_comm, plain, files]
  have ofLocations : (toolRun toolRules files
        [indexedResult [(0, 3), (1, 4)], looseResult]).Rearrangement
      (toolRun toolRules files [repeated, looseResult]) :=
    @Run.Rearrangement.locations (toolRun toolRules files _) [] [looseResult]
      (indexedResult [(0, 3), (1, 4)]) _ (repeated.locationList) rfl rfl
      fun location => by
        simpa [or_comm, repeated, indexedResult, Result.locationList] using Or.inr
  have ofResults : (toolRun toolRules files [repeated, looseResult]).Rearrangement
      (toolRun toolRules files [looseResult, repeated, looseResult]) :=
    .results rfl fun result => by simp [or_comm]
  have ofRules : (toolRun toolRules files [looseResult, repeated, looseResult]).Rearrangement
      (toolRun toolRules.reverse files [looseResult, repeated, looseResult]) :=
    @Run.Rearrangement.rules (toolRun toolRules files _) _ _ _ _ rfl rfl rfl
      (List.reverse_perm toolRules).symm (by decide)
  have renumbers : Renumbers (fun position => 1 - position) files files.reverse := by
    refine ⟨rfl, fun position artifact given => ?_⟩
    have bound : position < 2 := (List.getElem?_eq_some_iff.1 given).1
    cases position with
    | zero => exact ⟨artifact, given, rfl⟩
    | succ before =>
      obtain rfl : before = 0 := by omega
      exact ⟨artifact, given, rfl⟩
  have ofArtifacts : (toolRun toolRules.reverse files
        [looseResult, repeated, looseResult]).Rearrangement
      (toolRun toolRules.reverse files.reverse
        [looseResult, indexedResult [(0, 4), (1, 3), (0, 4)], looseResult]) :=
    .artifacts rfl renumbers
  exact .tail (.tail (.tail (.tail (.tail .refl ofRuns) (inRun ofLocations)) (inRun ofResults))
    (inRun ofRules)) (inRun ofArtifacts)

/-- The orderly report and the shuffled one have the same violations. -/
theorem reportViolations_shuffled :
    Log.decode orderlyReport = .ok orderlyLog ∧ Log.decode shuffledReport = .ok shuffledLog ∧
    orderlyLog.Rearranged shuffledLog ∧
    ∃ set, reportViolations orderlyReport "Sarif" = .ok set ∧
      reportViolations shuffledReport "Sarif" = .ok set := by
  have decoded : Log.decode orderlyReport = .ok orderlyLog := by decide +kernel
  have decoded' : Log.decode shuffledReport = .ok shuffledLog := by decide +kernel
  refine ⟨decoded, decoded', rearranged_shuffled, ?_⟩
  have projected : reportViolations orderlyReport "Sarif" =
      .ok (.ofList (orderlyLog.trail "Sarif").found) := by
    have whole : (orderlyLog.trail "Sarif").fault = none := by decide +kernel
    rw [reportViolations_of_decode "Sarif" decoded]
    simp only [Trail.violations, whole, Except.mapError]
  rcases reportViolations_rearranged "Sarif" decoded decoded' rearranged_shuffled with
    ⟨set, first, second⟩ | ⟨fault, _, refused, _⟩
  · exact ⟨set, first, second⟩
  · rw [projected] at refused
    cases refused

end SarifDigest
