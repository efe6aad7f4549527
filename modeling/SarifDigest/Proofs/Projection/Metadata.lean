import SarifDigest.Proofs.Ordered.Membership
import SarifDigest.Proofs.Projection.Trails
import SarifDigest.Proofs.Violation.Order

/-!
# What metadata can change

The levels of results, their correlations, the names of tools and the rules of drivers each
count for one field of a violation, and for nothing else. So two logs that differ in one of them
have trails that differ in one field of the violations found: they are refused for the same
artifact, or their violations are the same without the field. Which violations fall together may
differ, since that goes by all fields.
-/
namespace SarifDigest

open Sarif

/-- A kind of metadata of a log. -/
inductive Metadata
  | level
  | correlation
  | toolName
  | rules
deriving DecidableEq

section Logs

variable (kind : Metadata)

/-- A result without its metadata of a kind. -/
def Sarif.Result.without (result : Result) : Result :=
  match kind with
  | .level => { result with level := .none }
  | .correlation => { result with correlationGuid := none }
  | .toolName | .rules => result

/-- A tool component without its metadata of a kind. -/
def Sarif.ToolComponent.without (component : ToolComponent) : ToolComponent :=
  match kind with
  | .toolName => { component with name := none }
  | .rules => { component with rules := none }
  | .level | .correlation => component

/-- A run without the metadata of a kind in its driver and its results. -/
def Sarif.Run.without (run : Run) : Run :=
  { run with
    tool := run.tool.map fun tool => { tool with driver := tool.driver.map (·.without kind) }
    results := run.results.map (·.map (·.without kind)) }

/-- A log without its metadata of a kind. -/
def Sarif.Log.without (log : Log) : Log :=
  { log with runs := log.runs.map (·.map (·.without kind)) }

end Logs

section Violations

variable (kind : Metadata)

/-- A violation without the field that a kind of metadata counts for. -/
def Violation.without (violation : Violation) : Violation :=
  match kind with
  | .level => { violation with severity := .info }
  | .correlation => { violation with specifics := .empty }
  | .toolName => { violation with reporter := "" }
  | .rules => { violation with message := "" }

/-- A set of violations without the field, where some may fall together. -/
def ViolationSet.without (set : ViolationSet) : ViolationSet :=
  .ofList (set.toList.map (·.without kind))

/-- A step without the field that a kind of metadata counts for. -/
def Step.without : Step → Step
  | .runBegun run reporter results =>
    .runBegun run (if kind = .toolName then "" else reporter) results
  | .omitted run rule omission => .omitted run rule omission
  | .found violation => .found (violation.without kind)

/-- A trail without the field that a kind of metadata counts for. -/
def Trail.without (trail : Trail) : Trail :=
  { trail with steps := trail.steps.map (·.without kind) }

end Violations

section Fields

variable {kind : Metadata}

/-- Violations that differ at most in the field of a kind are the same without it. -/
theorem Violation.without_congr {left right : Violation} (parser : left.parser = right.parser)
    (file : left.file = right.file) (startLine : left.startLine = right.startLine)
    (rule : left.rule = right.rule) (message : kind ≠ .rules → left.message = right.message)
    (severity : kind ≠ .level → left.severity = right.severity)
    (reporter : kind ≠ .toolName → left.reporter = right.reporter)
    (specifics : kind ≠ .correlation → left.specifics = right.specifics) :
    left.without kind = right.without kind := by
  cases left
  cases right
  cases kind <;> simp_all [without]

/-- The file, the line and the rule of a violation belong to no kind of metadata. -/
theorem Violation.triple_without (violation : Violation) :
    ((violation.without kind).file, (violation.without kind).startLine,
      (violation.without kind).rule) = (violation.file, violation.startLine, violation.rule) := by
  cases kind <;> rfl

/-- What a result finds does not depend on its metadata. -/
theorem Sarif.Result.finding?_without (result : Result) :
    (result.without kind).finding? = result.finding? := by
  cases kind <;> rfl

/-- The rule of a result is no metadata. -/
theorem Sarif.Result.rule_without (result : Result) :
    (result.without kind).rule = result.rule := by
  cases kind <;> rfl

/-- The locations of a result are no metadata. -/
theorem Sarif.Result.locationList_without (result : Result) :
    (result.without kind).locationList = result.locationList := by
  cases kind <;> rfl

/-- The level of a result depends on levels only. -/
theorem Sarif.Result.level_without (result : Result) (other : kind ≠ .level) :
    (result.without kind).level = result.level := by
  cases kind <;> first | rfl | contradiction

/-- The details of a result depend on correlations only. -/
theorem Sarif.Result.details_without (result : Result) (other : kind ≠ .correlation) :
    (result.without kind).details = result.details := by
  cases kind <;> first | rfl | contradiction

/-- The driver of a run without metadata is the driver without it. -/
theorem Sarif.Run.driver_without (run : Run) :
    (run.without kind).driver = run.driver.map (·.without kind) := by
  unfold Run.driver without
  cases run.tool <;> rfl

/-- The reporter of a run depends on names of tools only. -/
theorem Sarif.Run.reporter_without (run : Run) (default : String) (other : kind ≠ .toolName) :
    (run.without kind).reporter default = run.reporter default := by
  have named : (run.without kind).driver.bind (·.name) = run.driver.bind (·.name) := by
    rw [driver_without]
    cases run.driver with
    | none => rfl
    | some driver => cases kind <;> first | rfl | contradiction
  unfold reporter
  rw [named]

/-- The rule table of a run depends on rules only. -/
theorem Sarif.Run.ruleTable_without (run : Run) (other : kind ≠ .rules) :
    RuleTable.ofRun (run.without kind) = RuleTable.ofRun run := by
  have declared : (run.without kind).driver.bind (·.rules) = run.driver.bind (·.rules) := by
    rw [driver_without]
    cases run.driver with
    | none => rfl
    | some driver => cases kind <;> first | rfl | contradiction
  unfold RuleTable.ofRun ruleList
  rw [declared]

/-- The results of a run without metadata are its results without it. -/
theorem Sarif.Run.resultList_without (run : Run) :
    (run.without kind).resultList = run.resultList.map (·.without kind) := by
  unfold resultList without
  cases run.results <;> rfl

/-- The runs of a log without metadata are its runs without it. -/
theorem Sarif.Log.runList_without (log : Log) :
    (log.without kind).runList = log.runList.map (·.without kind) := by
  unfold runList without
  cases log.runs <;> rfl

end Fields

namespace Trail

variable {kind : Metadata}

/-- Trails of one violation are the same without a field when the violations are. -/
theorem without_found_congr {left right : Violation}
    (same : left.without kind = right.without kind) :
    (step (.found left)).without kind = (step (.found right)).without kind := by
  simp only [without, step, Step.without, List.map_cons, List.map_nil, same]

/-- One trail behind another, without a field. -/
theorem without_andThen (first second : Trail) :
    (first.andThen second).without kind = (first.without kind).andThen (second.without kind) := by
  unfold andThen without
  cases ended : first.fault with
  | none => simp
  | some fault => simp [ended]

/-- A sequence of trails, without a field. -/
theorem without_sequence (trails : List Trail) :
    (sequence trails).without kind = sequence (trails.map (·.without kind)) := by
  induction trails with
  | nil => rfl
  | cons trail others ih =>
    change (andThen trail (sequence others)).without kind = andThen _ _
    rw [without_andThen, ih]
    rfl

/-- The violations found, without a field. -/
theorem found_without (trail : Trail) :
    (trail.without kind).found = trail.found.map (·.without kind) := by
  unfold found without
  simp only [List.filterMap_map, List.map_filterMap]
  congr 1
  funext step
  cases step <;> rfl

/-- Sequences of trails over one list are the same without a field when their parts are. -/
theorem without_sequence_congr {α : Type} {list : List α} {left right : α → Trail}
    (same : ∀ x, (left x).without kind = (right x).without kind) :
    (sequence (list.map left)).without kind = (sequence (list.map right)).without kind := by
  rw [without_sequence, without_sequence, List.map_map, List.map_map]
  congr 2
  funext x
  exact same x

end Trail

namespace RunContext

variable {kind : Metadata} {default default' : String}
  (defaults : kind = .toolName ∨ default' = default) (position : Nat) (run : Run)

include defaults

/-- The reporter of a run without metadata, unless the metadata is the names of tools. -/
theorem reporter_without (other : kind ≠ .toolName) :
    (RunContext.of default' position (run.without kind)).reporter =
      (RunContext.of default position run).reporter := by
  have same : default' = default := defaults.resolve_left other
  change (run.without kind).reporter default' = run.reporter default
  rw [same, run.reporter_without default other]

/-- What a violation has from its result and its run keeps all fields but the one of the metadata.
The message may change with the rules. -/
theorem violation_without (result : Result) (file : String) (startLine : Nat)
    {message message' : String} (written : kind ≠ .rules → message' = message) :
    Violation.without kind {
        file, startLine
        rule := (result.without kind).rule
        message := message'
        severity := (result.without kind).level.severity
        reporter := (RunContext.of default' position (run.without kind)).reporter
        specifics := (result.without kind).details } =
      Violation.without kind {
        file, startLine, message
        rule := result.rule
        severity := result.level.severity
        reporter := (RunContext.of default position run).reporter
        specifics := result.details } := by
  apply Violation.without_congr
  case parser => rfl
  case file => rfl
  case startLine => rfl
  case rule => exact result.rule_without
  case message => exact written
  case severity =>
    intro other
    rw [result.level_without other]
  case reporter => exact reporter_without defaults position run
  case specifics => exact result.details_without

/-- The violation of a result without locations keeps all fields but the one of the metadata. -/
theorem fileless_without (result : Result) (finding : String) :
    ((RunContext.of default' position (run.without kind)).fileless (result.without kind)
        finding).without kind =
      ((RunContext.of default position run).fileless result finding).without kind := by
  apply violation_without defaults position run result
  intro other
  simp only [RunContext.of, run.ruleTable_without other, result.rule_without]

/-- The violation of a result at a place keeps all fields but the one of the metadata. -/
theorem located_without (result : Result) (finding : String) (place : Place)
    (file : Option String) :
    ((RunContext.of default' position (run.without kind)).located (result.without kind) finding
        place file).without kind =
      ((RunContext.of default position run).located result finding place file).without kind := by
  apply violation_without defaults position run result
  intro other
  simp only [RunContext.of, run.ruleTable_without other, result.rule_without]

/-- The trail of a location keeps all but the field of the metadata: whether it has a place, and
whether the run has its artifact, is no metadata. -/
theorem locationTrail_without (result : Result) (finding : String) (location : Location) :
    ((RunContext.of default' position (run.without kind)).locationTrail (result.without kind)
        finding location).without kind =
      ((RunContext.of default position run).locationTrail result finding location).without
        kind := by
  unfold locationTrail
  cases location.place with
  | error omission =>
    rw [result.rule_without]
    rfl
  | ok place =>
    have same : (RunContext.of default' position (run.without kind)).run.file?
        (referenceOf place.file) =
      (RunContext.of default position run).run.file? (referenceOf place.file) := rfl
    simp only [same]
    cases (RunContext.of default position run).run.file? (referenceOf place.file) with
    | error index => rfl
    | ok file =>
      exact Trail.without_found_congr
        (located_without defaults position run result finding place file)

/-- The trail of a result keeps all but the field of the metadata. -/
theorem resultTrail_without (result : Result) :
    ((RunContext.of default' position (run.without kind)).resultTrail
        (result.without kind)).without kind =
      ((RunContext.of default position run).resultTrail result).without kind := by
  unfold resultTrail
  rw [result.finding?_without, result.locationList_without]
  cases result.finding? with
  | none =>
    simp only [result.rule_without]
    rfl
  | some finding =>
    cases result.locationList with
    | nil =>
      exact Trail.without_found_congr (fileless_without defaults position run result finding)
    | cons location others =>
      exact Trail.without_sequence_congr
        (locationTrail_without defaults position run result finding)

/-- The trail of a run keeps all but the field of the metadata. -/
theorem trail_without :
    (RunContext.of default' position (run.without kind)).trail.without kind =
      (RunContext.of default position run).trail.without kind := by
  have begun : (if kind = .toolName then "" else
        (RunContext.of default' position (run.without kind)).reporter) =
      if kind = .toolName then "" else (RunContext.of default position run).reporter := by
    by_cases named : kind = .toolName
    · rw [if_pos named, if_pos named]
    · rw [if_neg named, if_neg named, reporter_without defaults position run named]
  have listed : (RunContext.of default' position (run.without kind)).run.resultList =
      (RunContext.of default position run).run.resultList.map (·.without kind) :=
    run.resultList_without
  unfold trail
  rw [Trail.without_andThen, Trail.without_andThen, listed, List.map_map, List.length_map]
  congr 1
  · simp only [Trail.without, Trail.step, Step.without, List.map_cons, List.map_nil, begun]
    rfl
  · exact Trail.without_sequence_congr (resultTrail_without defaults position run)

end RunContext

/-- The trail of a log keeps all but the field of the metadata. -/
theorem Sarif.Log.trail_without {kind : Metadata} {default default' : String}
    (defaults : kind = .toolName ∨ default' = default) (log : Log) :
    ((log.without kind).trail default').without kind = (log.trail default).without kind := by
  unfold trail
  rw [log.runList_without, Trail.without_sequence, Trail.without_sequence]
  congr 1
  apply List.ext_getElem?
  intro position
  simp only [List.getElem?_map, List.getElem?_mapIdx]
  cases log.runList[position]? with
  | none => rfl
  | some run => exact congrArg some (RunContext.trail_without defaults position run)

/-- Logs that differ in one kind of metadata have trails that differ in its field. -/
theorem Sarif.Log.trail_without_congr {kind : Metadata} {default default' : String}
    {log other : Log} (alike : log.without kind = other.without kind)
    (defaults : kind = .toolName ∨ default = default') :
    (log.trail default).without kind = (other.trail default').without kind := by
  rw [← log.trail_without (.inr rfl), alike, other.trail_without defaults]

section Sets

variable {kind : Metadata} {left right : ViolationSet}

/-- The violations of a set without a field. -/
theorem ViolationSet.mem_without {set : ViolationSet} {violation : Violation} :
    violation ∈ (ViolationSet.without kind set).toList ↔
      ∃ whole ∈ set.toList, whole.without kind = violation := by
  rw [ViolationSet.without, OrderedSet.mem_ofList, List.mem_map]

/-- The sets of lists are the same without a field when the lists are. -/
theorem ViolationSet.without_ofList {found other : List Violation}
    (same : found.map (·.without kind) = other.map (·.without kind)) :
    ViolationSet.without kind (.ofList found) = ViolationSet.without kind (.ofList other) := by
  apply OrderedSet.eq_of_mem
  intro violation
  simp only [ViolationSet.mem_without, OrderedSet.mem_ofList, ← List.mem_map, same]

/-- Sets that are the same without a field have violations of the same file, line and rule. -/
theorem ViolationSet.triple_of_without
    (same : ViolationSet.without kind left = ViolationSet.without kind right)
    {violation : Violation} (inside : violation ∈ left.toList) :
    ∃ other ∈ right.toList, (other.file, other.startLine, other.rule) =
      (violation.file, violation.startLine, violation.rule) := by
  have erased : violation.without kind ∈ (ViolationSet.without kind right).toList := by
    rw [← same]
    exact ViolationSet.mem_without.2 ⟨violation, inside, rfl⟩
  obtain ⟨other, member, equal⟩ := ViolationSet.mem_without.1 erased
  refine ⟨other, member, ?_⟩
  rw [← @Violation.triple_without kind other, equal, violation.triple_without]

end Sets

/-- When the logs of two reports differ in metadata of one kind only, where the default reporter
counts as the name of a tool, both reports are refused for the same artifact, or both have the
same violations without the field of this metadata. Their violations then have the same files,
lines and rules. -/
theorem reportViolations_without_metadata {kind : Metadata}
    {report report' default default' : String} {log log' : Log}
    (decoded : Log.decode report = .ok log) (decoded' : Log.decode report' = .ok log')
    (alike : log.without kind = log'.without kind)
    (defaults : kind = .toolName ∨ default = default') :
    (∃ fault, reportViolations report default = .error (.missingArtifact fault) ∧
      reportViolations report' default' = .error (.missingArtifact fault)) ∨
    ∃ set set', reportViolations report default = .ok set ∧
      reportViolations report' default' = .ok set' ∧
      ViolationSet.without kind set = ViolationSet.without kind set' ∧
      ∀ file startLine rule,
        (∃ violation ∈ set.toList, (violation.file, violation.startLine, violation.rule) =
          (file, startLine, rule)) ↔
        ∃ violation ∈ set'.toList, (violation.file, violation.startLine, violation.rule) =
          (file, startLine, rule) := by
  have trails := Log.trail_without_congr alike defaults
  have faults : ((log.trail default).without kind).fault =
      ((log'.trail default').without kind).fault := by rw [trails]
  change (log.trail default).fault = (log'.trail default').fault at faults
  have found : (log.trail default).found.map (·.without kind) =
      (log'.trail default').found.map (·.without kind) := by
    rw [← Trail.found_without, ← Trail.found_without, trails]
  rw [reportViolations_of_decode default decoded, reportViolations_of_decode default' decoded']
  unfold Trail.violations
  rw [← faults]
  cases (log.trail default).fault with
  | some fault => exact .inl ⟨fault, rfl, rfl⟩
  | none =>
    have same := ViolationSet.without_ofList found
    refine .inr ⟨_, _, rfl, rfl, same, fun file startLine rule => ?_⟩
    constructor
    · rintro ⟨violation, inside, triple⟩
      obtain ⟨other, member, equal⟩ := ViolationSet.triple_of_without same inside
      exact ⟨other, member, equal.trans triple⟩
    · rintro ⟨violation, inside, triple⟩
      obtain ⟨other, member, equal⟩ := ViolationSet.triple_of_without same.symm inside
      exact ⟨other, member, equal.trans triple⟩

/-- A log of one run with two results that differ in their levels at most. -/
def leveledLog (first second : Level) : Log where
  runs := some [{ results := some [
    { ruleId := some "r", message := some { text := some "m" }, level := first },
    { ruleId := some "r", message := some { text := some "m" }, level := second }] }]

/-- A report of that log with two levels. -/
def unevenReport : String :=
  "[[[null,null,[[\"r\",[\"m\"],\"error\"],[\"r\",[\"m\"],\"note\"]]]]]"

/-- A report of that log with one level, which no known word writes. -/
def evenReport : String :=
  "[[[null,null,[[\"r\",[\"m\"],[7]],[\"r\",[\"m\"]]]]]]"

/-- A log of one run with a result, and a driver that may have a name. -/
def toolLog (name : Option String) : Log where
  runs := some [{
    tool := some { driver := some { name } }
    results := some [{ ruleId := some "r", message := some { text := some "m" } }] }]

/-- A report of that log with a name. -/
def namedReport : String := "[[[[[\"lint\"]],null,[[\"r\",[\"m\"]]]]]]"

/-- A report of that log without a name. -/
def namelessReport : String := "[[[[[null]],null,[[\"r\",[\"m\"]]]]]]"

/-- Two levels give two violations and one level gives one, and without the severity these are
the same. A name and no name, with another default, give the violation of another reporter, and
without the reporter it is the same. -/
theorem reportViolations_without_metadata_leveled :
    Log.decode unevenReport = .ok (leveledLog .error .note) ∧
    Log.decode evenReport = .ok (leveledLog .none .none) ∧
    (leveledLog .error .note).without .level = (leveledLog .none .none).without .level ∧
    (∃ set set', reportViolations unevenReport "Sarif" = .ok set ∧
      reportViolations evenReport "Sarif" = .ok set' ∧ set.size = 2 ∧ set'.size = 1 ∧
      ViolationSet.without .level set = ViolationSet.without .level set') ∧
    Log.decode namedReport = .ok (toolLog (some "lint")) ∧
    Log.decode namelessReport = .ok (toolLog none) ∧
    (toolLog (some "lint")).without .toolName = (toolLog none).without .toolName ∧
    ∃ set set', reportViolations namedReport "first" = .ok set ∧
      reportViolations namelessReport "second" = .ok set' ∧
      set.toList.map (·.reporter) = ["lint"] ∧ set'.toList.map (·.reporter) = ["second"] ∧
      ViolationSet.without .toolName set = ViolationSet.without .toolName set' := by
  have decoded : Log.decode unevenReport = .ok (leveledLog .error .note) := by decide +kernel
  have decoded' : Log.decode evenReport = .ok (leveledLog .none .none) := by decide +kernel
  have alike : (leveledLog .error .note).without .level =
      (leveledLog .none .none).without .level := rfl
  have named : Log.decode namedReport = .ok (toolLog (some "lint")) := by decide +kernel
  have nameless : Log.decode namelessReport = .ok (toolLog none) := by decide +kernel
  have alikeTools : (toolLog (some "lint")).without .toolName =
      (toolLog none).without .toolName := rfl
  refine ⟨decoded, decoded', alike, ?levels, named, nameless, alikeTools, ?tools⟩
  case levels =>
    obtain ⟨set, given, size⟩ : ∃ set, reportViolations unevenReport "Sarif" = .ok set ∧
        set.size = 2 := by
      rw [reportViolations_of_decode "Sarif" decoded]
      exact ⟨_, rfl, by decide +kernel⟩
    obtain ⟨set', given', size'⟩ : ∃ set, reportViolations evenReport "Sarif" = .ok set ∧
        set.size = 1 := by
      rw [reportViolations_of_decode "Sarif" decoded']
      exact ⟨_, rfl, by decide +kernel⟩
    refine ⟨set, set', given, given', size, size', ?_⟩
    rcases @reportViolations_without_metadata .level _ _ "Sarif" "Sarif" _ _ decoded decoded'
      alike (.inr rfl) with ⟨fault, refused, _⟩ | ⟨own, own', first, second, same, _⟩
    · rw [given] at refused
      contradiction
    · rw [given] at first
      rw [given'] at second
      cases first
      cases second
      exact same
  case tools =>
    obtain ⟨set, given, reporter⟩ : ∃ set, reportViolations namedReport "first" = .ok set ∧
        set.toList.map (·.reporter) = ["lint"] := by
      rw [reportViolations_of_decode "first" named]
      exact ⟨_, rfl, by decide +kernel⟩
    obtain ⟨set', given', reporter'⟩ : ∃ set, reportViolations namelessReport "second" = .ok set ∧
        set.toList.map (·.reporter) = ["second"] := by
      rw [reportViolations_of_decode "second" nameless]
      exact ⟨_, rfl, by decide +kernel⟩
    refine ⟨set, set', given, given', reporter, reporter', ?_⟩
    rcases @reportViolations_without_metadata .toolName _ _ "first" "second" _ _ named nameless
      alikeTools (.inl rfl) with ⟨fault, refused, _⟩ | ⟨own, own', first, second, same, _⟩
    · rw [given] at refused
      contradiction
    · rw [given] at first
      rw [given'] at second
      cases first
      cases second
      exact same

end SarifDigest
