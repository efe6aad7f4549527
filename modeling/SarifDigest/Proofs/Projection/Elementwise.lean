import SarifDigest.Proofs.Projection.Entries
import SarifDigest.Proofs.Projection.MissingArtifact
import SarifDigest.Proofs.Projection.Projected

/-!
# What each element leaves

A log accounts for a result as a whole when the result finds nothing or has no locations, and
otherwise for each of its locations. Each such element leaves one entry, a record of why it is
skipped or an inserted violation, unless it is a location that asks for a missing artifact. What
an element leaves is the entry of its trail.
-/
namespace SarifDigest

open Sarif

/-- A part of a log that is accounted for: a result as a whole, by the position of its run and
its own in the run, or a location. -/
inductive Element
  | result (run position : Nat)
  | location (site : Site)
deriving DecidableEq

namespace Element

/-- The position of an element; a result as a whole stands where its first location would. -/
def site : Element → Site
  | result run position => ⟨run, position, 0⟩
  | location site => site

/-- One element comes before another in the order of the document. -/
def Before (first second : Element) : Prop :=
  first.site.Before second.site

/-- Of two elements only one comes first. -/
theorem Before.not_before {first second : Element} (before : first.Before second) :
    ¬ second.Before first := by
  simp only [Before, Site.Before] at before ⊢
  omega

end Element

/-- A log holds a result of a run at their positions. -/
structure Sarif.Log.Holds (log : Log) (run position : Nat) (ran : Run) (result : Result) :
    Prop where
  /-- The run is there in the log. -/
  runAt : log.runList[run]? = some ran
  /-- The result is there in the run. -/
  resultAt : ran.resultList[position]? = some result

/-- There is one run and one result at a position. -/
theorem Sarif.Log.Holds.unique {log : Log} {run position : Nat} {ran ran' : Run}
    {result result' : Result} (first : log.Holds run position ran result)
    (second : log.Holds run position ran' result') : ran = ran' ∧ result = result' := by
  have sameRun : ran = ran' := Option.some.inj (first.runAt.symm.trans second.runAt)
  subst sameRun
  exact ⟨rfl, Option.some.inj (first.resultAt.symm.trans second.resultAt)⟩

/-- The elements that a log accounts for: a result that finds nothing or has no locations, and
the locations of any other result. -/
inductive Sarif.Log.Counts (log : Log) : Element → Prop
  | whole {run position : Nat} {ran : Run} {result : Result}
      (holds : log.Holds run position ran result)
      (alone : (∀ finding, ¬ result.Finds finding) ∨ result.locationList = []) :
      log.Counts (.result run position)
  | each {site : Site} {ran : Run} {result : Result} {finding : String} {location : Location}
      (holds : log.Holds site.run site.result ran result) (found : result.Finds finding)
      (locationAt : result.locationList[site.location]? = some location) :
      log.Counts (.location site)

/-- What is said of a location that is skipped, and the value that is shown with it: the first
part that is missing, from the outer to the inner, or the line when it does not count from one. -/
inductive Sarif.Location.Skipped (location : Location) : String → List (String × String) → Prop
  | physicalLocation (missing : location.physicalLocation = none) :
      location.Skipped "skipping location without physical location" []
  | region {physical : PhysicalLocation} (given : location.physicalLocation = some physical)
      (missing : physical.region = none) :
      location.Skipped "skipping location without region" []
  | startLine {physical : PhysicalLocation} {region : Region}
      (given : location.physicalLocation = some physical)
      (inner : physical.region = some region) (missing : region.startLine = none) :
      location.Skipped "skipping region without start line" []
  | positive {physical : PhysicalLocation} {region : Region} {line : Int}
      (given : location.physicalLocation = some physical)
      (inner : physical.region = some region) (known : region.startLine = some line)
      (low : line < 1) :
      location.Skipped "skipping non-positive start line" [("line", toString line)]

/-- The record of something that is skipped in a run, for a rule. -/
def skipRecord (run : Nat) (rule message : String) (fields : List (String × String)) : Record where
  level := .debug
  target := "sarif_violations::parse"
  message := message
  fields := ("run", toString run) :: ("rule", Text.quoted rule) :: fields

/-- A result as it would be with a single location. -/
def Sarif.Result.placedAt (result : Result) (location : Location) : Result :=
  { result with locations := some [location] }

/-- What an element of a log leaves: a result that finds nothing is skipped as a whole, any other
without locations has its violation inserted, and each location of any other is either skipped
or has the violation inserted that the result would yield with this location alone. -/
inductive Sarif.Log.Leaves (log : Log) (default : String) : Element → Entry → Prop
  | unspoken {run position : Nat} {ran : Run} {result : Result}
      (holds : log.Holds run position ran result) (nothing : ∀ finding, ¬ result.Finds finding) :
      log.Leaves default (.result run position)
        (.event (skipRecord run (result.ruleId.getD "") "skipping result without message" []))
  | unlocated {run position : Nat} {ran : Run} {result : Result} {finding : String}
      {violation : Violation} (holds : log.Holds run position ran result)
      (found : result.Finds finding) (none : result.locationList = [])
      (yields : result.Yields ran default violation) :
      log.Leaves default (.result run position) (.insertion violation)
  | skipped {site : Site} {ran : Run} {result : Result} {finding : String} {location : Location}
      {message : String} {fields : List (String × String)}
      (holds : log.Holds site.run site.result ran result) (found : result.Finds finding)
      (locationAt : result.locationList[site.location]? = some location)
      (skipped : location.Skipped message fields) :
      log.Leaves default (.location site)
        (.event (skipRecord site.run (result.ruleId.getD "") message fields))
  | located {site : Site} {ran : Run} {result : Result} {finding : String} {location : Location}
      {violation : Violation} (holds : log.Holds site.run site.result ran result)
      (found : result.Finds finding)
      (locationAt : result.locationList[site.location]? = some location)
      (yields : (result.placedAt location).Yields ran default violation) :
      log.Leaves default (.location site) (.insertion violation)

/-- An element breaks the projection off with a fault when it is a location that asks for a
missing artifact. -/
inductive Sarif.Log.Breaks (log : Log) : Element → ArtifactFault → Prop
  | missing {site : Site} {fault : ArtifactFault} (reached : log.FaultAt site fault) :
      log.Breaks (.location site) fault

/-- A location is skipped exactly when it has no place, and what is said of it goes by what it
lacks. -/
theorem Sarif.Location.skipped_iff {location : Location} {message : String}
    {fields : List (String × String)} :
    location.Skipped message fields ↔
      ∃ omission, location.place = .error omission ∧ message = omission.message ∧
        fields = omission.fields := by
  constructor
  · intro skipped
    cases skipped with
    | physicalLocation missing =>
      exact ⟨.noPhysicalLocation, by simp only [place, missing], rfl, rfl⟩
    | region given missing =>
      exact ⟨.noRegion, by simp only [place, given, missing], rfl, rfl⟩
    | startLine given inner missing =>
      exact ⟨.noStartLine, by simp only [place, given, inner, missing], rfl, rfl⟩
    | positive given inner known low =>
      exact ⟨.startLineNotPositive _, by simp only [place, given, inner, known, low, if_true],
        rfl, rfl⟩
  · intro lacking
    obtain ⟨omission, unplaced, rfl, rfl⟩ := lacking
    unfold place at unplaced
    split at unplaced
    · rename_i missing
      cases unplaced
      exact .physicalLocation missing
    · rename_i physical given
      split at unplaced
      · rename_i missing
        cases unplaced
        exact .region given missing
      · rename_i region inner
        split at unplaced
        · rename_i missing
          cases unplaced
          exact .startLine given inner missing
        · rename_i line known
          split at unplaced
          · rename_i low
            cases unplaced
            exact .positive given inner known low
          · contradiction

namespace RunContext

variable {default : String} {run : Run} {result : Result} {violation : Violation}

/-- With a single location a result yields the violation of its place, if the file can be
named. -/
theorem yields_placedAt_iff (position : Nat) {finding : String} (found : result.Finds finding)
    {location : Location} :
    (result.placedAt location).Yields run default violation ↔
      ∃ place uri, location.place = .ok place ∧ run.file? (referenceOf place.file) = .ok uri ∧
        violation = (RunContext.of default position run).located result finding place uri := by
  have finds : (result.placedAt location).Finds finding := found
  have listed : (result.placedAt location).locations = some [location] := rfl
  have single : [location] ≠ [] := by simp
  rw [yields_located_iff position finds listed single]
  simp only [List.mem_singleton, exists_eq_left, mem_found_locationTrail]
  rfl

/-- The trail of a location has one entry or breaks off without any. -/
theorem entries_locationTrail (context : RunContext) (result : Result) (finding : String)
    (location : Location) :
    (∃ entry, (context.locationTrail result finding location).entries = [entry] ∧
      (context.locationTrail result finding location).fault = none) ∨
    (context.locationTrail result finding location).entries = [] ∧
      ∃ fault, (context.locationTrail result finding location).fault = some fault := by
  unfold locationTrail
  split
  · exact .inl ⟨_, rfl, rfl⟩
  · split
    · exact .inr ⟨rfl, _, rfl⟩
    · exact .inl ⟨_, rfl, rfl⟩

/-- The trail of a result that is accounted for as a whole has one entry and no fault. -/
theorem entries_resultTrail (context : RunContext)
    (alone : (∀ finding, ¬ result.Finds finding) ∨ result.locationList = []) :
    ∃ entry, (context.resultTrail result).entries = [entry] ∧
      (context.resultTrail result).fault = none := by
  unfold resultTrail
  cases found : result.finding? with
  | none => exact ⟨_, rfl, rfl⟩
  | some finding =>
    cases alone with
    | inl nothing => exact absurd (Result.finds_iff.2 found) (nothing finding)
    | inr none =>
      rw [none]
      exact ⟨_, rfl, rfl⟩

end RunContext

namespace Sarif

section Left

variable {log : Log} {default : String} {element : Element} {entry : Entry}
  {fault : ArtifactFault}

/-- Only an element that is accounted for leaves an entry. -/
theorem Log.Leaves.counts (left : log.Leaves default element entry) : log.Counts element := by
  cases left with
  | unspoken holds nothing => exact .whole holds (.inl nothing)
  | unlocated holds _ none => exact .whole holds (.inr none)
  | skipped holds found locationAt => exact .each holds found locationAt
  | located holds found locationAt => exact .each holds found locationAt

section Location

variable {site : Site} {ran : Run} {result : Result} {finding : String} {location : Location}

/-- What a location leaves is the entry of its trail. -/
theorem Log.leaves_location_iff (holds : log.Holds site.run site.result ran result)
    (found : result.Finds finding)
    (locationAt : result.locationList[site.location]? = some location) :
    log.Leaves default (.location site) entry ↔
      ((RunContext.of default site.run ran).locationTrail result finding location).entries =
        [entry] := by
  constructor
  · intro left
    cases left with
    | skipped holds' _ locationAt' skipped =>
      have same := (holds.unique holds').2
      subst same
      cases locationAt.symm.trans locationAt'
      obtain ⟨omission, unplaced, rfl, rfl⟩ := Location.skipped_iff.1 skipped
      simp only [RunContext.locationTrail, unplaced]
      rfl
    | located holds' _ locationAt' yields =>
      obtain ⟨sameRun, same⟩ := holds.unique holds'
      subst sameRun same
      cases locationAt.symm.trans locationAt'
      obtain ⟨place, uri, placed, named, rfl⟩ :=
        (RunContext.yields_placedAt_iff site.run found).1 yields
      simp only [RunContext.locationTrail, placed, RunContext.of, named]
      rfl
  · intro shows
    unfold RunContext.locationTrail at shows
    split at shows
    · rename_i omission unplaced
      cases shows
      exact .skipped holds found locationAt
        (Location.skipped_iff.2 ⟨omission, unplaced, rfl, rfl⟩)
    · rename_i place placed
      split at shows
      · contradiction
      · rename_i uri named
        cases shows
        exact .located holds found locationAt
          ((RunContext.yields_placedAt_iff site.run found).2 ⟨place, uri, placed, named, rfl⟩)

/-- A location breaks off exactly when its trail does. -/
theorem Log.breaks_location_iff (holds : log.Holds site.run site.result ran result)
    (found : result.Finds finding)
    (locationAt : result.locationList[site.location]? = some location) :
    log.Breaks (.location site) fault ↔
      ((RunContext.of default site.run ran).locationTrail result finding location).fault =
        some fault := by
  rw [RunContext.locationTrail_fault]
  constructor
  · intro breaks
    cases breaks with
    | missing reached =>
      obtain ⟨ran', result', location', runAt, resultAt, _, locationAt', faulty⟩ :=
        (faultAt_iff default).1 reached
      obtain ⟨sameRun, same⟩ := holds.unique ⟨runAt, resultAt⟩
      subst sameRun same
      cases locationAt.symm.trans locationAt'
      exact faulty
  · intro faulty
    exact .missing ((faultAt_iff default).2
      ⟨ran, result, location, holds.runAt, holds.resultAt, ⟨finding, found⟩, locationAt, faulty⟩)

/-- The trail of a location accounts for the location. -/
theorem Log.accounts_location (site : Site) (holds : log.Holds site.run site.result ran result)
    (found : result.Finds finding)
    (locationAt : result.locationList[site.location]? = some location) :
    Trail.Accounts (log.Leaves default) log.Breaks [.location site]
      ((RunContext.of default site.run ran).locationTrail result finding location) := by
  cases RunContext.entries_locationTrail (.of default site.run ran) result finding location with
  | inl placed =>
    obtain ⟨entry, shows, whole⟩ := placed
    refine .complete whole ?_
    rw [shows]
    exact .cons ((leaves_location_iff holds found locationAt).2 shows) .nil
  | inr faulty =>
    obtain ⟨none, fault, ended⟩ := faulty
    refine .broken (List.nil_append _).symm ended
      ((breaks_location_iff holds found locationAt).2 ended) ?_
    rw [none]
    exact .nil

end Location

section Whole

variable {run position : Nat} {ran : Run} {result : Result}

/-- What a result leaves as a whole is the entry of its trail. -/
theorem Log.leaves_result_iff (holds : log.Holds run position ran result)
    (alone : (∀ finding, ¬ result.Finds finding) ∨ result.locationList = []) :
    log.Leaves default (.result run position) entry ↔
      ((RunContext.of default run ran).resultTrail result).entries = [entry] := by
  constructor
  · intro left
    cases left with
    | unspoken holds' nothing =>
      have same := (holds.unique holds').2
      subst same
      simp only [RunContext.resultTrail, Result.not_finds_iff.1 nothing]
      rfl
    | unlocated holds' found none yields =>
      obtain ⟨sameRun, same⟩ := holds.unique holds'
      subst sameRun same
      rw [(RunContext.yields_unlocated_iff run found none).1 yields]
      simp only [RunContext.resultTrail, Result.finds_iff.1 found, none]
      rfl
  · intro shows
    unfold RunContext.resultTrail at shows
    split at shows
    · rename_i nothing
      cases shows
      exact .unspoken holds (Result.not_finds_iff.2 nothing)
    · rename_i finding found
      have finds := Result.finds_iff.2 found
      cases alone with
      | inl nothing => exact absurd finds (nothing finding)
      | inr none =>
        rw [none] at shows
        cases shows
        exact .unlocated holds finds none ((RunContext.yields_unlocated_iff run finds none).2 rfl)

/-- The trail of a result that is accounted for as a whole accounts for it. -/
theorem Log.accounts_whole (holds : log.Holds run position ran result)
    (alone : (∀ finding, ¬ result.Finds finding) ∨ result.locationList = []) :
    Trail.Accounts (log.Leaves default) log.Breaks [.result run position]
      ((RunContext.of default run ran).resultTrail result) := by
  obtain ⟨entry, shows, whole⟩ := RunContext.entries_resultTrail (.of default run ran) alone
  refine .complete whole ?_
  rw [shows]
  exact .cons ((leaves_result_iff holds alone).2 shows) .nil

end Whole

/-- An element leaves one entry. -/
theorem Log.Leaves.unique {other : Entry} (first : log.Leaves default element entry)
    (second : log.Leaves default element other) : entry = other := by
  cases first.counts with
  | whole holds alone =>
    rw [leaves_result_iff holds alone] at first second
    exact List.singleton_inj.1 (first.symm.trans second)
  | each holds found locationAt =>
    rw [leaves_location_iff holds found locationAt] at first second
    exact List.singleton_inj.1 (first.symm.trans second)

/-- An element that leaves an entry does not break off. -/
theorem Log.Leaves.not_breaks (left : log.Leaves default element entry) :
    ¬ log.Breaks element fault := by
  intro breaks
  cases left.counts with
  | whole => cases breaks
  | each holds found locationAt =>
    rw [leaves_location_iff holds found locationAt] at left
    have ended : ((RunContext.of default _ _).locationTrail _ _ _).fault = some fault :=
      (breaks_location_iff holds found locationAt).1 breaks
    cases RunContext.entries_locationTrail (.of default _ _) _ _ _ with
    | inl placed =>
      obtain ⟨_, _, whole⟩ := placed
      rw [whole] at ended
      contradiction
    | inr faulty =>
      rw [faulty.1] at left
      contradiction

end Left

end Sarif

end SarifDigest
