import Mathlib.Data.List.Forall2
import SarifDigest.Collection.Events
import SarifDigest.Proofs.Projection.Trails

/-!
# Entries of trails

What the steps of a trail leave for good: a debug record or a violation that is put into the
set. A trail accounts for elements when its entries match them one by one, in their order, up to
the end or to the element that it breaks off at. Trails one behind the other account for the
elements of the one and then of the other.
-/
namespace SarifDigest

/-- What a step leaves: a record for those who look for errors in detail, or a violation that is
inserted. -/
inductive Entry
  | event (record : Record)
  | insertion (violation : Violation)
deriving DecidableEq

/-- The violation of an entry, if it is an insertion. -/
def Entry.violation? : Entry → Option Violation
  | event _ => none
  | insertion violation => some violation

/-- The record of an entry, if it is an event. -/
def Entry.record? : Entry → Option Record
  | event record => some record
  | insertion _ => none

/-- The entry of a step; a record of another level is none. -/
def Step.entry? (step : Step) : Option Entry :=
  match step.violation? with
  | some violation => some (.insertion violation)
  | none => (step.record?.filter (·.level = .debug)).map .event

/-- A step shows the same violation as its entry. -/
theorem Step.entry?_bind_violation? (step : Step) :
    step.entry?.bind Entry.violation? = step.violation? := by
  unfold entry?
  cases step.violation? with
  | some violation => rfl
  | none =>
    cases step.record?.filter (·.level = .debug) with
    | none => rfl
    | some record => rfl

/-- A step is said in detail as its entry is. -/
theorem Step.entry?_bind_record? (step : Step) :
    step.entry?.bind Entry.record? = step.record?.filter (·.level = .debug) := by
  cases step with
  | runBegun run reporter results => rfl
  | omitted run rule omission => rfl
  | found violation => rfl

namespace Trail

/-- The entries of a trail, in the order of its steps. -/
def entries (trail : Trail) : List Entry :=
  trail.steps.filterMap Step.entry?

/-- The violations found are those inserted. -/
theorem found_eq_entries (trail : Trail) :
    trail.found = trail.entries.filterMap Entry.violation? := by
  rw [entries, List.filterMap_filterMap, found]
  congr 1
  funext step
  exact step.entry?_bind_violation?.symm

/-- The debug records of a trail are its events. -/
theorem records_eq_entries (trail : Trail) :
    (trail.steps.filterMap Step.record?).filter (·.level = .debug) =
      trail.entries.filterMap Entry.record? := by
  rw [entries, List.filterMap_filterMap, List.filter_filterMap]
  congr 1
  funext step
  exact step.entry?_bind_record?.symm

/-- A trail accounts for elements, given what each element leaves and which faults it breaks off
with: either the trail has no fault and each element leaves one entry, or some element breaks
off with its fault and each element before that one leaves one entry. -/
inductive Accounts {α : Type} (leaves : α → Entry → Prop) (breaks : α → ArtifactFault → Prop)
    (elements : List α) (trail : Trail) : Prop
  | complete (whole : trail.fault = none) (left : List.Forall₂ leaves elements trail.entries)
  | broken {before after : List α} {element : α} {fault : ArtifactFault}
      (parts : elements = before ++ element :: after) (ended : trail.fault = some fault)
      (breaking : breaks element fault) (left : List.Forall₂ leaves before trail.entries)

/-- Lists that are made from one list by position are related when what is made from each element
is. -/
theorem forall₂_mapIdx {α β γ : Type} {list : List γ} {f : Nat → γ → α} {g : Nat → γ → β}
    {relation : α → β → Prop}
    (each : ∀ position x, list[position]? = some x → relation (f position x) (g position x)) :
    List.Forall₂ relation (list.mapIdx f) (list.mapIdx g) := by
  rw [List.forall₂_iff_get]
  refine ⟨by simp, ?_⟩
  intro position bound _
  rw [List.length_mapIdx] at bound
  simpa using each position list[position] (List.getElem?_eq_getElem bound)

/-- An element of the first of two related lists is related to one of the second. -/
theorem exists_of_forall₂ {α β : Type} {relation : α → β → Prop} {left : List α} {right : List β}
    (related : List.Forall₂ relation left right) {a : α} (inside : a ∈ left) :
    ∃ b ∈ right, relation a b := by
  induction related with
  | nil => contradiction
  | @cons first other _ _ here _ ih =>
    cases List.mem_cons.1 inside with
    | inl same =>
      rw [same]
      exact ⟨other, List.mem_cons_self, here⟩
    | inr further =>
      obtain ⟨b, member, holds⟩ := ih further
      exact ⟨b, List.mem_cons_of_mem _ member, holds⟩

/-- What is made from each element alone is made by position, too. -/
theorem map_eq_mapIdx {β γ : Type} (list : List γ) (g : γ → β) :
    list.map g = list.mapIdx fun _ => g := by
  apply List.ext_getElem?
  intro position
  rw [List.getElem?_map, List.getElem?_mapIdx]

section Accounts

variable {α : Type} {leaves : α → Entry → Prop} {breaks : α → ArtifactFault → Prop}

/-- The empty trail accounts for no elements. -/
theorem Accounts.empty : Accounts leaves breaks [] Trail.empty :=
  .complete rfl .nil

/-- A step with an entry accounts for an element that leaves it. -/
theorem Accounts.step {element : α} {step : Step} {entry : Entry}
    (shows : step.entry? = some entry) (left : leaves element entry) :
    Accounts leaves breaks [element] (Trail.step step) := by
  have entries : (Trail.step step).entries = [entry] := by
    simp only [Trail.entries, Trail.step, List.filterMap_cons, shows, List.filterMap_nil]
  refine .complete rfl ?_
  rw [entries]
  exact .cons left .nil

/-- A trail that fails at once accounts for an element that breaks off with the fault. -/
theorem Accounts.fail {element : α} {fault : ArtifactFault} (breaking : breaks element fault) :
    Accounts leaves breaks [element] (Trail.fail fault) :=
  .broken (List.nil_append _).symm rfl breaking .nil

/-- A trail behind another accounts for the further elements, which are not looked at when the
first trail breaks off. -/
theorem Accounts.andThen {elements others : List α} {first second : Trail}
    (start : Accounts leaves breaks elements first)
    (rest : Accounts leaves breaks others second) :
    Accounts leaves breaks (elements ++ others) (first.andThen second) := by
  cases start with
  | @broken before after element fault parts ended breaking left =>
    have kept : first.andThen second = first := by simp only [Trail.andThen, ended]
    have apart : elements ++ others = before ++ element :: (after ++ others) := by
      rw [parts, List.append_assoc, List.cons_append]
    rw [kept]
    exact .broken apart ended breaking left
  | complete whole left =>
    have fault : (first.andThen second).fault = second.fault := by
      simp only [Trail.andThen, whole]
    have entries : (first.andThen second).entries = first.entries ++ second.entries := by
      simp only [Trail.andThen, whole, Trail.entries, List.filterMap_append]
    cases rest with
    | complete wholeRest leftRest =>
      refine .complete (fault.trans wholeRest) ?_
      rw [entries]
      exact List.rel_append left leftRest
    | @broken before after element _ parts ended breaking leftRest =>
      have apart : elements ++ others = (elements ++ before) ++ element :: after := by
        rw [parts, List.append_assoc]
      refine .broken apart (fault.trans ended) breaking ?_
      rw [entries]
      exact List.rel_append left leftRest

/-- A sequence of trails accounts for the elements of all parts. -/
theorem Accounts.sequence {parts : List (List α)} {trails : List Trail}
    (each : List.Forall₂ (Accounts leaves breaks) parts trails) :
    Accounts leaves breaks parts.flatten (Trail.sequence trails) := by
  induction each with
  | nil => exact .empty
  | cons start _ ih => exact start.andThen ih

/-- A sequence of trails, one for each element, accounts for the elements. -/
theorem Accounts.sequence_each {elements : List α} {trails : List Trail}
    (each : List.Forall₂ (fun element trail => Accounts leaves breaks [element] trail)
      elements trails) :
    Accounts leaves breaks elements (Trail.sequence trails) := by
  induction each with
  | nil => exact .empty
  | cons start _ ih => exact start.andThen ih

/-- A step without an entry in front changes nothing. -/
theorem Accounts.behind {elements : List α} {step : Step} {trail : Trail}
    (silent : step.entry? = none) (rest : Accounts leaves breaks elements trail) :
    Accounts leaves breaks elements ((Trail.step step).andThen trail) := by
  have start : Accounts leaves breaks [] (Trail.step step) := by
    have entries : (Trail.step step).entries = [] := by
      simp only [Trail.entries, Trail.step, List.filterMap_cons, silent, List.filterMap_nil]
    refine .complete rfl ?_
    rw [entries]
    exact .nil
  exact start.andThen rest

end Accounts

end Trail

end SarifDigest
