import SarifDigest.Proofs.Projection.Elementwise

/-!
# Every element accounted for

The elements that a log accounts for, in the order of the document, and the trail of the log side
by side: each element leaves one entry of the trail, and there are no other entries. When a
location asks for a missing artifact, there are the entries of the elements before it and no
others.
-/
namespace SarifDigest

open Sarif

namespace Sarif

/-- The elements of a result at a position. -/
def Result.elements (result : Result) (run position : Nat) : List Element :=
  if result.finding? = none ∨ result.locationList = [] then [.result run position]
  else result.locationList.mapIdx fun location _ => .location ⟨run, position, location⟩

/-- The elements of a run at a position. -/
def Run.elements (run : Run) (position : Nat) : List Element :=
  (run.resultList.mapIdx fun place result => result.elements position place).flatten

/-- The elements of a log that are accounted for, in the order of the document. -/
def Log.elements (log : Log) : List Element :=
  (log.runList.mapIdx fun position run => run.elements position).flatten

section Elements

variable {run position : Nat} {ran : Run} {result : Result} {element : Element}

/-- The elements of a result are the result itself when it is accounted for as a whole, and
otherwise its locations. -/
theorem Result.mem_elements :
    element ∈ result.elements run position ↔
      ((∀ finding, ¬ result.Finds finding) ∨ result.locationList = []) ∧
          element = .result run position ∨
        (∃ finding, result.Finds finding) ∧
          ∃ (place : Nat) (location : Location), result.locationList[place]? = some location ∧
            element = .location ⟨run, position, place⟩ := by
  unfold elements
  by_cases alone : result.finding? = none ∨ result.locationList = []
  · rw [if_pos alone, List.mem_singleton, Result.not_finds_iff]
    constructor
    · intro same
      exact .inl ⟨alone, same⟩
    · intro either
      cases either with
      | inl whole => exact whole.2
      | inr each =>
        obtain ⟨⟨finding, found⟩, place, location, locationAt, _⟩ := each
        cases alone with
        | inl nothing => exact absurd found (Result.not_finds_iff.2 nothing finding)
        | inr none =>
          rw [none] at locationAt
          contradiction
  · rw [if_neg alone, Result.not_finds_iff]
    have found : ∃ finding, result.Finds finding := by
      simp only [Result.finds_iff]
      exact Option.ne_none_iff_exists'.1 (not_or.1 alone).1
    simp only [alone, false_and, false_or, found, true_and, List.mem_mapIdx]
    constructor
    · intro listed
      obtain ⟨place, bound, same⟩ := listed
      exact ⟨place, _, List.getElem?_eq_getElem bound, same.symm⟩
    · intro listed
      obtain ⟨place, location, locationAt, same⟩ := listed
      obtain ⟨bound, _⟩ := List.getElem?_eq_some_iff.1 locationAt
      exact ⟨place, bound, same.symm⟩

/-- The elements of a result stand at the position of the result. -/
theorem Result.site_of_mem_elements (listed : element ∈ result.elements run position) :
    element.site.run = run ∧ element.site.result = position := by
  cases Result.mem_elements.1 listed with
  | inl whole =>
    rw [whole.2]
    exact ⟨rfl, rfl⟩
  | inr each =>
    obtain ⟨_, place, _, _, same⟩ := each
    rw [same]
    exact ⟨rfl, rfl⟩

/-- An element of a list put together from parts, one for each position of a list, is in a part. -/
theorem mem_flatten_mapIdx {α β : Type} {list : List β} {parts : Nat → β → List α} {a : α} :
    a ∈ (list.mapIdx parts).flatten ↔
      ∃ (position : Nat) (x : β), list[position]? = some x ∧ a ∈ parts position x := by
  rw [List.mem_flatten]
  constructor
  · intro listed
    obtain ⟨part, inside, member⟩ := listed
    obtain ⟨position, bound, same⟩ := List.mem_mapIdx.1 inside
    rw [← same] at member
    exact ⟨position, _, List.getElem?_eq_getElem bound, member⟩
  · intro listed
    obtain ⟨position, x, given, member⟩ := listed
    obtain ⟨bound, same⟩ := List.getElem?_eq_some_iff.1 given
    rw [← same] at member
    exact ⟨_, List.mem_mapIdx.2 ⟨position, bound, rfl⟩, member⟩

/-- The elements of a run stand at the position of the run. -/
theorem Run.site_of_mem_elements (listed : element ∈ ran.elements run) :
    element.site.run = run := by
  obtain ⟨position, result, _, inside⟩ := mem_flatten_mapIdx.1 listed
  exact (Result.site_of_mem_elements inside).1

/-- The elements of a log are those that it accounts for. -/
theorem Log.mem_elements {log : Log} : element ∈ log.elements ↔ log.Counts element := by
  constructor
  · intro listed
    obtain ⟨run, ran, runAt, inRun⟩ := mem_flatten_mapIdx.1 listed
    obtain ⟨position, result, resultAt, inResult⟩ := mem_flatten_mapIdx.1 inRun
    have holds : log.Holds run position ran result := ⟨runAt, resultAt⟩
    cases Result.mem_elements.1 inResult with
    | inl whole =>
      rw [whole.2]
      exact .whole holds whole.1
    | inr each =>
      obtain ⟨⟨finding, found⟩, place, location, locationAt, same⟩ := each
      rw [same]
      exact .each holds found locationAt
  · intro counted
    have inRun : ∀ {run position ran result}, log.Holds run position ran result →
        element ∈ result.elements run position → element ∈ log.elements := by
      intro run position ran result holds inside
      exact mem_flatten_mapIdx.2 ⟨run, ran, holds.runAt,
        mem_flatten_mapIdx.2 ⟨position, result, holds.resultAt, inside⟩⟩
    cases counted with
    | whole holds alone => exact inRun holds (Result.mem_elements.2 (.inl ⟨alone, rfl⟩))
    | each holds found locationAt =>
      exact inRun holds
        (Result.mem_elements.2 (.inr ⟨⟨_, found⟩, _, _, locationAt, rfl⟩))

/-- A list put together from parts, one for each position of a list, is in order when each part
is and the parts at earlier positions come before those at later ones. -/
theorem pairwise_flatten_mapIdx {α β : Type} {list : List β} {parts : Nat → β → List α}
    {before : α → α → Prop} (inside : ∀ position x, (parts position x).Pairwise before)
    (between : ∀ earlier later, earlier < later → ∀ x y, ∀ a ∈ parts earlier x,
      ∀ b ∈ parts later y, before a b) :
    (list.mapIdx parts).flatten.Pairwise before := by
  rw [List.pairwise_flatten]
  constructor
  · intro part listed
    obtain ⟨position, bound, same⟩ := List.mem_mapIdx.1 listed
    rw [← same]
    exact inside position _
  · rw [List.pairwise_iff_getElem]
    intro earlier later _ _ less
    rw [List.getElem_mapIdx, List.getElem_mapIdx]
    exact between earlier later less _ _

/-- The elements of a result come in the order of its locations. -/
theorem Result.elements_ordered (result : Result) (run position : Nat) :
    (result.elements run position).Pairwise Element.Before := by
  unfold elements
  by_cases alone : result.finding? = none ∨ result.locationList = []
  · rw [if_pos alone]
    exact List.pairwise_singleton ..
  · rw [if_neg alone, List.pairwise_iff_getElem]
    intro earlier later _ _ less
    rw [List.getElem_mapIdx, List.getElem_mapIdx]
    exact .inr ⟨rfl, .inr ⟨rfl, less⟩⟩

/-- The elements of a log come in the order of the document. -/
theorem Log.elements_ordered (log : Log) : log.elements.Pairwise Element.Before := by
  apply pairwise_flatten_mapIdx
  · intro run ran
    apply pairwise_flatten_mapIdx
    · intro position result
      exact result.elements_ordered run position
    · intro earlier later less x y a inX b inY
      obtain ⟨runA, resultA⟩ := Result.site_of_mem_elements inX
      obtain ⟨runB, resultB⟩ := Result.site_of_mem_elements inY
      simp only [Element.Before, Site.Before]
      omega
  · intro earlier later less x y a inX b inY
    have runA := Run.site_of_mem_elements inX
    have runB := Run.site_of_mem_elements inY
    simp only [Element.Before, Site.Before]
    omega

end Elements

section Accounted

variable {log : Log} {default : String} {run position : Nat} {ran : Run} {result : Result}

/-- The trail of a result accounts for the elements of the result. -/
theorem Log.accounts_result (holds : log.Holds run position ran result) :
    Trail.Accounts (log.Leaves default) log.Breaks (result.elements run position)
      ((RunContext.of default run ran).resultTrail result) := by
  unfold Result.elements
  by_cases alone : result.finding? = none ∨ result.locationList = []
  · rw [if_pos alone]
    rw [← Result.not_finds_iff] at alone
    exact accounts_whole holds alone
  · rw [if_neg alone]
    rw [not_or] at alone
    obtain ⟨finding, found⟩ := Option.ne_none_iff_exists'.1 alone.1
    have parts : (RunContext.of default run ran).resultTrail result =
        .sequence (result.locationList.map
          ((RunContext.of default run ran).locationTrail result finding)) := by
      unfold RunContext.resultTrail
      rw [found]
      cases listed : result.locationList with
      | nil => exact absurd listed alone.2
      | cons => rfl
    rw [parts]
    apply Trail.Accounts.sequence_each
    rw [Trail.map_eq_mapIdx]
    apply Trail.forall₂_mapIdx
    intro place location locationAt
    exact accounts_location ⟨run, position, place⟩ holds (Result.finds_iff.2 found) locationAt

/-- The trail of a run accounts for the elements of the run. -/
theorem Log.accounts_run (runAt : log.runList[run]? = some ran) :
    Trail.Accounts (log.Leaves default) log.Breaks (ran.elements run)
      (RunContext.of default run ran).trail := by
  -- The record of a run that begins is a trace, which is no entry.
  apply Trail.Accounts.behind rfl
  apply Trail.Accounts.sequence
  rw [Trail.map_eq_mapIdx]
  apply Trail.forall₂_mapIdx
  intro position result resultAt
  exact accounts_result ⟨runAt, resultAt⟩

/-- The trail of a log accounts for the elements of the log. -/
theorem Log.accounts (log : Log) (default : String) :
    Trail.Accounts (log.Leaves default) log.Breaks log.elements (log.trail default) := by
  apply Trail.Accounts.sequence
  apply Trail.forall₂_mapIdx
  intro run ran runAt
  exact accounts_run runAt

/-- Entries account for the elements of a log among some: each of these that the log accounts for
leaves one of the entries, in the order of the document, and there are no others. -/
def Log.AccountedBy (log : Log) (default : String) (among : Element → Prop)
    (entries : List Entry) : Prop :=
  ∃ elements : List Element, elements.Pairwise Element.Before ∧
    (∀ element, element ∈ elements ↔ log.Counts element ∧ among element) ∧
    List.Forall₂ (log.Leaves default) elements entries

/-- A trail without a fault accounts for all elements. -/
theorem Log.accountedBy_of_complete (whole : (log.trail default).fault = none) :
    log.AccountedBy default (fun _ => True) (log.trail default).entries := by
  cases log.accounts default with
  | complete _ left =>
    refine ⟨log.elements, log.elements_ordered, ?_, left⟩
    intro element
    rw [Log.mem_elements, and_true]
  | broken _ ended =>
    rw [whole] at ended
    contradiction

/-- A trail with a fault accounts for the elements before the one that it breaks off at, which is
the first to ask for a missing artifact. -/
theorem Log.accountedBy_of_fault {fault : ArtifactFault}
    (ended : (log.trail default).fault = some fault) :
    ∃ site, log.FaultAt site fault ∧
      (∀ earlier, earlier.Before site → ∀ other, ¬ log.FaultAt earlier other) ∧
      log.AccountedBy default (fun element => element.site.Before site)
        (log.trail default).entries := by
  cases log.accounts default with
  | complete whole =>
    rw [whole] at ended
    contradiction
  | @broken before after element found parts ended' breaks left =>
    have same : found = fault := Option.some.inj (ended'.symm.trans ended)
    subst same
    have ordered := log.elements_ordered
    rw [parts, List.pairwise_append, List.pairwise_cons] at ordered
    obtain ⟨orderedBefore, ⟨behind, _⟩, apart⟩ := ordered
    cases breaks with
    | @missing site _ reached =>
      -- An element in front of the site is one of those before it in the list.
      have members : ∀ other, other ∈ before ↔
          log.Counts other ∧ other.site.Before site := by
        intro other
        constructor
        · intro inside
          have listed : other ∈ log.elements := by
            rw [parts]
            exact List.mem_append_left _ inside
          exact ⟨Log.mem_elements.1 listed, apart other inside _ List.mem_cons_self⟩
        · intro counted
          obtain ⟨counts, front⟩ := counted
          have listed := Log.mem_elements.2 counts
          rw [parts, List.mem_append, List.mem_cons] at listed
          have front' : other.Before (.location site) := front
          cases listed with
          | inl inside => exact inside
          | inr later =>
            cases later with
            | inl itself =>
              rw [itself] at front'
              exact absurd front' front'.not_before
            | inr further => exact absurd front' (behind other further).not_before
      refine ⟨site, reached, ?_, before, orderedBefore, members, left⟩
      intro earlier front other faulty
      have counts : log.Counts (.location earlier) := by
        obtain ⟨run, file, index, ⟨result, finding, location, _, _, runAt, resultAt, found,
          locationAt, _⟩, _⟩ := faulty
        exact .each ⟨runAt, resultAt⟩ found locationAt
      have inside := (members (.location earlier)).2 ⟨counts, front⟩
      obtain ⟨entry, _, leaves⟩ := Trail.exists_of_forall₂ left inside
      exact leaves.not_breaks (.missing faulty)

end Accounted

end Sarif

/-- A log that is decoded has a trail whose entries are its debug records and the insertions into
its set. Each element leaves at most one entry. When the projection reaches its end, the entries
account for all elements; when it is refused for a missing artifact, they account for the elements
before the first location that asks for one. -/
theorem reportTrail_accounted {report : String} {log : Log} (default : String)
    (decoded : Log.decode report = .ok log) :
    ∃ trail, reportTrail report default = .ok trail ∧
      (trail.steps.filterMap Step.record?).filter (·.level = .debug) =
        trail.entries.filterMap Entry.record? ∧
      (∀ element entry other, log.Leaves default element entry →
        log.Leaves default element other → entry = other) ∧
      (∀ set, reportViolations report default = .ok set →
        set = .ofList (trail.entries.filterMap Entry.violation?) ∧
        log.AccountedBy default (fun _ => True) trail.entries) ∧
      ∀ fault, reportViolations report default = .error (.missingArtifact fault) →
        ∃ site, log.FaultAt site fault ∧
          (∀ earlier, earlier.Before site → ∀ other, ¬ log.FaultAt earlier other) ∧
          log.AccountedBy default (fun element => element.site.Before site) trail.entries := by
  have projected : reportTrail report default = .ok (log.trail default) := by
    simp only [reportTrail, decoded, Except.map]
  refine ⟨log.trail default, projected, Trail.records_eq_entries _, ?once, ?whole, ?broken⟩
  case once =>
    intro element entry other first second
    exact first.unique second
  case whole =>
    intro set given
    rw [reportViolations_of_decode default decoded, Trail.violations] at given
    cases ended : (log.trail default).fault with
    | some fault =>
      simp only [ended, Except.mapError] at given
      contradiction
    | none =>
      simp only [ended, Except.mapError, Except.ok.injEq] at given
      rw [← given, Trail.found_eq_entries]
      exact ⟨rfl, Log.accountedBy_of_complete ended⟩
  case broken =>
    intro fault refused
    exact Log.accountedBy_of_fault ((reportViolations_missingArtifact_iff decoded fault).1 refused)

/-- A report, its records written as sequences, of a result that finds nothing, a result without
locations, and a result with one location for each part that may be missing and one that has
them all. -/
def patchyReport : String :=
  "[[[null,null,[[\"q\",null,null,null,[[[null,[1]]]]],[\"r\",[\"m\"]]," ++
  "[\"s\",[\"n\"],null,null,[[],[[]],[[null,[]]],[[null,[0]]],[[null,[3]]]]]]]]]"

/-- The log of that report. -/
def patchyLog : Log where
  runs := some [
    { results := some [
        { ruleId := some "q"
          locations := some [⟨some ⟨none, some { startLine := some 1 }⟩⟩] },
        { ruleId := some "r", message := some { text := some "m" } },
        { ruleId := some "s"
          message := some { text := some "n" }
          locations := some [{}, ⟨some {}⟩, ⟨some ⟨none, some {}⟩⟩,
            ⟨some ⟨none, some { startLine := some 0 }⟩⟩,
            ⟨some ⟨none, some { startLine := some 3 }⟩⟩] }] }]

/-- The entries of that log. -/
def patchyEntries : List Entry := [
  .event (skipRecord 0 "q" "skipping result without message" []),
  .insertion { file := "-", startLine := 0, rule := "r", message := "\n\nm", severity := .info
               reporter := "Sarif", specifics := .empty },
  .event (skipRecord 0 "s" "skipping location without physical location" []),
  .event (skipRecord 0 "s" "skipping location without region" []),
  .event (skipRecord 0 "s" "skipping region without start line" []),
  .event (skipRecord 0 "s" "skipping non-positive start line" [("line", "0")]),
  .insertion { file := "-", startLine := 3, rule := "s", message := "n", severity := .info
               reporter := "Sarif", specifics := .empty }]

/-- The patchy report is projected to the end and its entries account for all its elements; those
of the dangling report account for the elements before its missing artifact. -/
theorem reportTrail_accounted_patchy :
    Log.decode patchyReport = .ok patchyLog ∧
    (∃ set, reportViolations patchyReport "Sarif" = .ok set) ∧
    patchyLog.AccountedBy "Sarif" (fun _ => True) patchyEntries ∧
    Log.decode danglingReport = .ok danglingLog ∧
    ∃ site, danglingLog.FaultAt site ⟨1, 1, 1⟩ ∧
      danglingLog.AccountedBy "Sarif" (fun element => element.site.Before site)
        (danglingLog.trail "Sarif").entries := by
  have decoded : Log.decode patchyReport = .ok patchyLog := by decide +kernel
  have entries : (patchyLog.trail "Sarif").entries = patchyEntries := by decide +kernel
  have given : reportViolations patchyReport "Sarif" =
      .ok (.ofList (patchyLog.trail "Sarif").found) := by
    rw [reportViolations_of_decode "Sarif" decoded]
    rfl
  have decodedToo : Log.decode danglingReport = .ok danglingLog := by decide +kernel
  have refused : reportViolations danglingReport "Sarif" =
      .error (.missingArtifact ⟨1, 1, 1⟩) := by
    rw [reportViolations_of_decode "Sarif" decodedToo]
    rfl
  refine ⟨decoded, ⟨_, given⟩, ?patchy, decodedToo, ?dangling⟩
  case patchy =>
    obtain ⟨trail, projected, _, _, whole, _⟩ := reportTrail_accounted "Sarif" decoded
    simp only [reportTrail, decoded, Except.map, Except.ok.injEq] at projected
    rw [← entries, projected]
    exact (whole _ given).2
  case dangling =>
    obtain ⟨trail, projected, _, _, _, broken⟩ := reportTrail_accounted "Sarif" decodedToo
    simp only [reportTrail, decodedToo, Except.map, Except.ok.injEq] at projected
    obtain ⟨site, reached, _, accounted⟩ := broken _ refused
    rw [projected]
    exact ⟨site, reached, accounted⟩

end SarifDigest
