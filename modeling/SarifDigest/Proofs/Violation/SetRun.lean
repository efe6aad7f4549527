import Mathlib.Data.Finset.Card
import Mathlib.Logic.Function.Basic
import SarifDigest.Proofs.Ordered.Membership
import SarifDigest.Proofs.Violation.Order

/-!
# Runs over sets of violations

Any number of sets of violations, kept under names, go through any sequence of operations.
Beside the run stands its replay with finite sets in the sense of mathematics, where insertion
is union with one element and merging is union. After every sequence each set represents its
replayed set, and each further operation gives the answer that the replayed sets call for.
-/
namespace SarifDigest

/-- One operation on named sets. A merge empties the set it takes from, as a drain empties the
set that it lists. -/
inductive SetStep (ν : Type)
  | new (name : ν)
  | insert (name : ν) (violation : Violation)
  | extend (name : ν) (violations : List Violation)
  | collect (name : ν) (violations : List Violation)
  | merge (name other : ν)
  | clone (name other : ν)
  | drain (name : ν)

/-- What an operation answers. -/
inductive SetAnswer
  | nothing
  | inserted (isNew : Bool)
  | drained (violations : List Violation)

/-- A set represents some violations when it lists them strictly increasing and all its other
answers agree with them. -/
structure OrderedSet.Represents (set : ViolationSet) (elements : Finset Violation) : Prop where
  /-- The list increases strictly, so nothing is in it twice. -/
  increasing : Increasing set.toList
  /-- The list holds the elements and nothing else. -/
  mem_toList : ∀ violation, violation ∈ set.toList ↔ violation ∈ elements
  /-- Membership is that of the elements. -/
  contains : ∀ violation, set.contains violation = true ↔ violation ∈ elements
  /-- The size counts the elements. -/
  size : set.size = elements.card
  /-- A set of size zero is empty, and no other. -/
  isEmpty : set.isEmpty = true ↔ set.size = 0

/-- A set represents the violations that its list holds. -/
theorem OrderedSet.represents_of_mem {set : ViolationSet} {elements : Finset Violation}
    (same : ∀ violation, violation ∈ set.toList ↔ violation ∈ elements) :
    set.Represents elements where
  increasing := set.increasing
  mem_toList := same
  contains violation := contains_iff.trans (same violation)
  size := size_eq_card same
  isEmpty := isEmpty_iff

namespace SetStep

variable {ν : Type} [DecidableEq ν]

/-- The sets behind an operation, and its answer. -/
def apply (step : SetStep ν) (sets : ν → ViolationSet) : (ν → ViolationSet) × SetAnswer :=
  match step with
  | new name => (Function.update sets name .empty, .nothing)
  | insert name violation =>
    let (set, isNew) := (sets name).insertNew violation
    (Function.update sets name set, .inserted isNew)
  | extend name violations =>
    (Function.update sets name ((sets name).insertAll violations), .nothing)
  | collect name violations => (Function.update sets name (.ofList violations), .nothing)
  | merge name other =>
    let taken := sets other
    let others := Function.update sets other .empty
    (Function.update others name ((others name).union taken), .nothing)
  | clone name other => (Function.update sets name (sets other), .nothing)
  | drain name => (Function.update sets name .empty, .drained (sets name).toList)

/-- The sets after a sequence of operations, all of them empty at first. -/
def run (steps : List (SetStep ν)) : ν → ViolationSet :=
  steps.foldl (fun sets step => (step.apply sets).1) fun _ => .empty

/-- The same operation on finite sets of violations. -/
def replay (step : SetStep ν) (sets : ν → Finset Violation) : ν → Finset Violation :=
  match step with
  | new name => Function.update sets name ∅
  | insert name violation => Function.update sets name ({violation} ∪ sets name)
  | extend name violations => Function.update sets name (sets name ∪ violations.toFinset)
  | collect name violations => Function.update sets name violations.toFinset
  | merge name other =>
    let others := Function.update sets other ∅
    Function.update others name (others name ∪ sets other)
  | clone name other => Function.update sets name (sets other)
  | drain name => Function.update sets name ∅

/-- The finite sets after a sequence of operations, all of them empty at first. -/
def replayed (steps : List (SetStep ν)) : ν → Finset Violation :=
  steps.foldl (fun sets step => step.replay sets) fun _ => ∅

/-- Whether an answer is the one that finite sets call for: an insertion is new when the
violation is no element yet, and a drain lists the elements in order. -/
def Expects (step : SetStep ν) (sets : ν → Finset Violation) (answer : SetAnswer) : Prop :=
  match step with
  | insert name violation => answer = .inserted (decide (violation ∉ sets name))
  | drain name => ∃ violations, answer = .drained violations ∧ Increasing violations ∧
      ∀ violation, violation ∈ violations ↔ violation ∈ sets name
  | new _ | extend .. | collect .. | merge .. | clone .. => answer = .nothing

/-- Named sets agree with finite sets when each has the elements of the finite set under its
name. This is the invariant of a run. -/
def Agree (sets : ν → ViolationSet) (elements : ν → Finset Violation) : Prop :=
  ∀ name violation, violation ∈ (sets name).toList ↔ violation ∈ elements name

/-- Agreement is kept by changing one set and its finite set alike. -/
theorem Agree.update {sets : ν → ViolationSet} {elements : ν → Finset Violation}
    (agree : Agree sets elements) (name : ν) {set : ViolationSet} {changed : Finset Violation}
    (same : ∀ violation, violation ∈ set.toList ↔ violation ∈ changed) :
    Agree (Function.update sets name set) (Function.update elements name changed) := by
  intro other violation
  by_cases here : other = name
  · subst here
    simp only [Function.update_self]
    exact same violation
  · simp only [Function.update_of_ne here]
    exact agree other violation

/-- Every operation keeps the agreement. -/
theorem apply_agree (step : SetStep ν) {sets : ν → ViolationSet}
    {elements : ν → Finset Violation} (agree : Agree sets elements) :
    Agree (step.apply sets).1 (step.replay elements) := by
  have none : ∀ violation, violation ∈ (OrderedSet.empty : ViolationSet).toList ↔
      violation ∈ (∅ : Finset Violation) := by simp
  cases step with
  | new name => exact agree.update name none
  | insert name violation =>
    refine agree.update name fun other => ?_
    simp only [OrderedSet.mem_insert, Finset.mem_union, Finset.mem_singleton, agree name other]
  | extend name violations =>
    refine agree.update name fun other => ?_
    simp only [OrderedSet.mem_insertAll, Finset.mem_union, List.mem_toFinset, agree name other]
  | collect name violations =>
    refine agree.update name fun other => ?_
    simp only [OrderedSet.mem_ofList, List.mem_toFinset]
  | merge name other =>
    have emptied := agree.update other none
    refine emptied.update name fun violation => ?_
    simp only [OrderedSet.mem_union, Finset.mem_union, emptied name violation,
      agree other violation]
  | clone name other => exact agree.update name (agree other)
  | drain name => exact agree.update name none

/-- Every operation answers as the finite sets call for. -/
theorem apply_expects (step : SetStep ν) {sets : ν → ViolationSet}
    {elements : ν → Finset Violation} (agree : Agree sets elements) :
    step.Expects elements (step.apply sets).2 := by
  cases step with
  | insert name violation =>
    have told : ((sets name).insertNew violation).2 = decide (violation ∉ elements name) := by
      rw [Bool.eq_iff_iff, OrderedSet.insertNew_iff, decide_eq_true_eq, agree name violation]
    simp only [Expects, apply, told]
  | drain name => exact ⟨_, rfl, (sets name).increasing, agree name⟩
  | new | extend | collect | merge | clone => rfl

/-- Every run agrees with its replay. -/
theorem run_agree (steps : List (SetStep ν)) : Agree (run steps) (replayed steps) := by
  have onward : ∀ {sets : ν → ViolationSet} {elements : ν → Finset Violation},
      Agree sets elements → Agree (steps.foldl (fun sets step => (step.apply sets).1) sets)
        (steps.foldl (fun sets step => step.replay sets) elements) := by
    induction steps with
    | nil => exact id
    | cons step steps ih => exact fun agree => ih (apply_agree step agree)
  exact onward fun _ _ => by simp

/-- After every sequence of operations on any number of sets, each set represents the violations
that replaying the sequence with finite sets gives it; a further operation answers as these call
for; sets are equal exactly when their lists are; and sets with the same replayed violations,
even of different runs, have the same list. -/
theorem run_faithful (steps : List (SetStep ν)) :
    (∀ name, (run steps name).Represents (replayed steps name)) ∧
    (∀ step : SetStep ν, step.Expects (replayed steps) (step.apply (run steps)).2) ∧
    (∀ left right, (run steps left == run steps right) = true ↔
      (run steps left).toList = (run steps right).toList) ∧
    (∀ (others : List (SetStep ν)) left right, replayed steps left = replayed others right →
      (run steps left).toList = (run others right).toList) := by
  refine ⟨?represents, ?answers, ?equality, ?order⟩
  case represents =>
    intro name
    exact OrderedSet.represents_of_mem (run_agree steps name)
  case answers =>
    intro step
    exact step.apply_expects (run_agree steps)
  case equality =>
    intro left right
    exact OrderedSet.beq_iff
  case order =>
    intro others left right same
    refine OrderedSet.toList_eq_of_mem fun violation => ?_
    rw [run_agree steps left violation, same, run_agree others right violation]

end SetStep

end SarifDigest
