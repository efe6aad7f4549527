import Mathlib.Data.List.Sort
import Mathlib.Data.Finset.Card
import SarifDigest.Ordered.Set

/-!
# Membership in ordered sets

Each operation of an ordered set is described by the elements of its result. The order is
assumed to tell all different elements apart, so that the elements decide the set: two sets
with the same elements have the same list.
-/
namespace SarifDigest

variable {α : Type} [Ord α]

omit [Ord α] in
/-- Lists of one length are equal when they are one by one. -/
theorem all_zip_beq_iff [BEq α] [LawfulBEq α] {xs ys : List α} (length : xs.length = ys.length) :
    ((xs.zip ys).all fun pair => pair.1 == pair.2) = true ↔ xs = ys := by
  induction xs generalizing ys with
  | nil =>
    have none := List.length_eq_zero_iff.1 length.symm
    simp [none]
  | cons x xs ih =>
    cases ys with
    | nil => simp at length
    | cons y ys => simp [ih (Nat.succ.inj length)]

/-- Equality of sets compares their lists. -/
theorem OrderedSet.beq_iff [BEq α] [LawfulBEq α] {left right : OrderedSet α} :
    (left == right) = true ↔ left.toList = right.toList := by
  change (left.size == right.size &&
    (left.toList.zip right.toList).all fun pair => pair.1 == pair.2) = true ↔ _
  rw [Bool.and_eq_true, beq_iff_eq]
  constructor
  · rintro ⟨length, equal⟩
    exact (all_zip_beq_iff length).1 equal
  · intro equal
    have length : left.size = right.size := by rw [size, size, equal]
    exact ⟨length, (all_zip_beq_iff length).2 equal⟩

/-- Nothing is in the set exactly when its size is zero. -/
theorem OrderedSet.isEmpty_iff {set : OrderedSet α} : set.isEmpty = true ↔ set.size = 0 := by
  simp [isEmpty, size]

/-- The empty set has no elements. -/
@[simp]
theorem OrderedSet.toList_empty : (empty : OrderedSet α).toList = [] := rfl

variable [Std.LawfulEqOrd α]

/-- Elements that differ in the order are different. -/
theorem ne_of_compare {x y : α} (different : compare x y ≠ .eq) : x ≠ y := by
  rintro rfl
  exact different Std.ReflOrd.compare_self

/-- Looking for an element by the order finds the elements of the set. -/
theorem OrderedSet.contains_iff {set : OrderedSet α} {x : α} :
    set.contains x = true ↔ x ∈ set.toList := by
  simp only [contains, List.any_eq_true, beq_iff_eq]
  constructor
  · rintro ⟨y, inside, same⟩
    rw [Std.LawfulEqOrd.eq_of_compare same]
    exact inside
  · intro inside
    exact ⟨x, inside, Std.ReflOrd.compare_self⟩

/-- Insertion adds one element and loses none. -/
theorem mem_insertInto {new x : α} {list : List α} :
    x ∈ insertInto new list ↔ x = new ∨ x ∈ list := by
  constructor
  · exact mem_insertInto_imp
  · induction list with
    | nil => simp [insertInto]
    | cons old others ih =>
      intro inside
      unfold insertInto
      split
      · simpa using inside
      · rename_i same
        have equal := Std.LawfulEqOrd.eq_of_compare same
        rcases inside with rfl | inside
        · rw [equal]
          exact List.mem_cons_self
        · exact inside
      · rcases inside with rfl | inside
        · exact List.mem_cons_of_mem _ (ih (.inl rfl))
        · rcases List.mem_cons.1 inside with rfl | inside
          · exact List.mem_cons_self
          · exact List.mem_cons_of_mem _ (ih (.inr inside))

omit [Std.LawfulEqOrd α] in
/-- An increasing list has no element twice. -/
theorem Increasing.nodup [Std.ReflOrd α] {list : List α} (increasing : Increasing list) :
    list.Nodup := by
  refine List.Pairwise.imp ?_ increasing
  intro left right less same
  rw [same, Std.ReflOrd.compare_self] at less
  contradiction

variable [Std.TransOrd α]

/-- An element smaller than the first of an increasing list is not in it. -/
theorem not_mem_of_lt_head {x first : α} {others : List α} (less : compare x first = .lt)
    (increasing : Increasing (first :: others)) : x ∉ first :: others := by
  have above := (List.pairwise_cons.1 increasing).1
  rw [List.mem_cons, not_or]
  constructor
  · exact ne_of_compare (by rw [less]; decide)
  · intro inside
    have between := Std.TransCmp.lt_trans less (above x inside)
    exact ne_of_compare (by rw [between]; decide) rfl

/-- The search for an equal element in an increasing list misses none. -/
theorem isNewTo_iff {new : α} {list : List α} (increasing : Increasing list) :
    isNewTo new list = true ↔ new ∉ list := by
  induction list with
  | nil => simp [isNewTo]
  | cons old others ih =>
    unfold isNewTo
    split
    · rename_i less
      simp [not_mem_of_lt_head less increasing]
    · rename_i same
      simp [Std.LawfulEqOrd.eq_of_compare same]
    · rename_i greater
      have different : new ≠ old := ne_of_compare (by rw [greater]; decide)
      rw [ih (List.pairwise_cons.1 increasing).2]
      simp [different]

/-- Increasing lists with the same elements are the same. -/
theorem Increasing.eq_of_mem {left right : List α} (leftIncreasing : Increasing left)
    (rightIncreasing : Increasing right) (same : ∀ x, x ∈ left ↔ x ∈ right) : left = right := by
  refine List.Perm.eq_of_pairwise ?_ leftIncreasing rightIncreasing
    ((List.perm_ext_iff_of_nodup leftIncreasing.nodup rightIncreasing.nodup).2 same)
  intro a b _ _ less greater
  rw [Std.OrientedCmp.gt_of_lt less] at greater
  contradiction

namespace OrderedSet

/-- Insertion adds one element. -/
@[simp]
theorem mem_insert {set : OrderedSet α} {new x : α} :
    x ∈ (set.insert new).toList ↔ x = new ∨ x ∈ set.toList :=
  mem_insertInto

/-- Inserting a list adds its elements. -/
@[simp]
theorem mem_insertAll {set : OrderedSet α} {list : List α} {x : α} :
    x ∈ (set.insertAll list).toList ↔ x ∈ set.toList ∨ x ∈ list := by
  unfold insertAll
  induction list generalizing set with
  | nil => simp
  | cons new others ih =>
    rw [List.foldl_cons, ih, mem_insert, List.mem_cons]
    tauto

/-- The set of a list has its elements. -/
@[simp]
theorem mem_ofList {list : List α} {x : α} : x ∈ (ofList list).toList ↔ x ∈ list := by
  simp [ofList]

/-- The union has the elements of both sets. -/
@[simp]
theorem mem_union {left right : OrderedSet α} {x : α} :
    x ∈ (left.union right).toList ↔ x ∈ left.toList ∨ x ∈ right.toList :=
  mem_insertAll

/-- An insertion is told to be new exactly when the element was not in the set. -/
theorem insertNew_iff {set : OrderedSet α} {x : α} :
    (set.insertNew x).2 = true ↔ x ∉ set.toList :=
  isNewTo_iff set.increasing

omit [Std.TransOrd α] in
/-- The size is the number of different elements. -/
theorem size_eq_card [DecidableEq α] {set : OrderedSet α} {elements : Finset α}
    (same : ∀ x, x ∈ set.toList ↔ x ∈ elements) : set.size = elements.card := by
  have counted : set.toList.toFinset = elements := by
    ext x
    rw [List.mem_toFinset, same]
  rw [← counted, List.toFinset_card_of_nodup set.increasing.nodup]
  rfl

/-- The elements decide the list. -/
theorem toList_eq_of_mem {left right : OrderedSet α}
    (same : ∀ x, x ∈ left.toList ↔ x ∈ right.toList) : left.toList = right.toList :=
  left.increasing.eq_of_mem right.increasing same

/-- The elements decide the set. -/
theorem eq_of_mem {left right : OrderedSet α}
    (same : ∀ x, x ∈ left.toList ↔ x ∈ right.toList) : left = right := by
  cases left
  cases right
  simpa using toList_eq_of_mem same

end OrderedSet

end SarifDigest
