import SarifDigest.Ordered.Set

/-!
# Sets that keep one of several equals

The order of an ordered set may take different elements as equal, as that of paths does with
two spellings. Then the set of a list has no elements but those of the list, and for every
element of the list one that is equal to it in the order.
-/
namespace SarifDigest

variable {α : Type} [Ord α] [Std.TransOrd α]

/-- After an insertion there is an element equal to the new one, and none is lost. -/
theorem exists_mem_insertInto {new x : α} {list : List α} (given : x = new ∨ x ∈ list) :
    ∃ y ∈ insertInto new list, compare x y = .eq := by
  have itself : compare x x = .eq := Std.ReflOrd.compare_self
  induction list with
  | nil =>
    have single : x = new := by simpa using given
    exact ⟨x, by simp [insertInto, single], itself⟩
  | cons old others ih =>
    unfold insertInto
    split
    · have inside : x ∈ new :: old :: others := List.mem_cons.2 given
      exact ⟨x, inside, itself⟩
    · rename_i same
      rcases given with rfl | inside
      · exact ⟨old, List.mem_cons_self, same⟩
      · exact ⟨x, inside, itself⟩
    · rcases given with rfl | inside
      · obtain ⟨y, kept, equal⟩ := ih (.inl rfl)
        exact ⟨y, List.mem_cons_of_mem old kept, equal⟩
      · rcases List.mem_cons.1 inside with rfl | inside
        · exact ⟨x, List.mem_cons_self, itself⟩
        · obtain ⟨y, kept, equal⟩ := ih (.inr inside)
          exact ⟨y, List.mem_cons_of_mem old kept, equal⟩

/-- An increasing list has no two elements that are equal in the order. -/
theorem Increasing.eq_of_compare {list : List α} (increasing : Increasing list) {x y : α}
    (first : x ∈ list) (second : y ∈ list) (same : compare x y = .eq) : x = y := by
  induction list with
  | nil => contradiction
  | cons least others ih =>
    obtain ⟨above, tail⟩ := List.pairwise_cons.1 increasing
    rcases List.mem_cons.1 first with rfl | inside
    · rcases List.mem_cons.1 second with rfl | later
      · rfl
      · have less := above y later
        rw [same] at less
        contradiction
    · rcases List.mem_cons.1 second with rfl | later
      · have less := above x inside
        rw [Std.OrientedCmp.eq_symm same] at less
        contradiction
      · exact ih tail inside later

section Filtering

variable {keep : α → Bool} {new : α} {list : List α}

omit [Std.TransOrd α] in
/-- An element smaller than all others is put in front of them. -/
theorem insertInto_of_lt (less : ∀ x ∈ list, compare new x = .lt) :
    insertInto new list = new :: list := by
  cases list with
  | nil => rfl
  | cons old others => rw [insertInto, less old List.mem_cons_self]

omit [Std.TransOrd α] in
/-- When the new element is not kept, the same elements are kept as without it. -/
theorem filter_insertInto_dropped (dropped : keep new = false) :
    (insertInto new list).filter keep = list.filter keep := by
  induction list with
  | nil => simp [insertInto, dropped]
  | cons old others ih =>
    unfold insertInto
    split
    · simp [dropped]
    · rfl
    · simp [List.filter_cons, ih]

/-- When the new element is kept, it is put among the elements that are kept. Of elements that are
equal in the order all must be kept or none. -/
theorem filter_insertInto_kept (alike : ∀ {x y : α}, compare x y = .eq → keep x = keep y)
    (kept : keep new = true) (increasing : Increasing list) :
    (insertInto new list).filter keep = insertInto new (list.filter keep) := by
  induction list with
  | nil => simp [insertInto, kept]
  | cons old others ih =>
    obtain ⟨above, tail⟩ := List.pairwise_cons.1 increasing
    rw [insertInto]
    cases order : compare new old with
    | lt =>
      have less : ∀ x ∈ (old :: others).filter keep, compare new x = .lt := by
        intro x inside
        cases List.mem_cons.1 (List.mem_filter.1 inside).1 with
        | inl first => rw [first, order]
        | inr later => exact Std.TransCmp.lt_trans order (above x later)
      rw [insertInto_of_lt less, List.filter_cons_of_pos kept]
    | eq =>
      have keptOld : keep old = true := (alike order).symm.trans kept
      rw [List.filter_cons_of_pos keptOld, insertInto, order]
    | gt =>
      by_cases keptOld : keep old = true
      · rw [List.filter_cons_of_pos keptOld, List.filter_cons_of_pos keptOld, ih tail, insertInto,
          order]
      · rw [List.filter_cons_of_neg keptOld, List.filter_cons_of_neg keptOld, ih tail]

end Filtering

namespace OrderedSet

/-- Inserting a list adds no other elements. -/
theorem mem_of_mem_insertAll {set : OrderedSet α} {list : List α} {x : α}
    (inside : x ∈ (set.insertAll list).toList) : x ∈ set.toList ∨ x ∈ list := by
  unfold insertAll at inside
  induction list generalizing set with
  | nil => exact .inl inside
  | cons new others ih =>
    rw [List.foldl_cons] at inside
    rcases ih inside with before | later
    · have first : x = new ∨ x ∈ set.toList := mem_insertInto_imp before
      rcases first with rfl | before
      · exact .inr List.mem_cons_self
      · exact .inl before
    · exact .inr (List.mem_cons_of_mem new later)

/-- The set of a list has no elements but those of the list. -/
theorem mem_of_mem_ofList {list : List α} {x : α} (inside : x ∈ (ofList list).toList) :
    x ∈ list := by
  have given : x ∈ (empty : OrderedSet α).toList ∨ x ∈ list := mem_of_mem_insertAll inside
  rcases given with none | given
  · contradiction
  · exact given

/-- Inserting a list keeps or adds an element equal to each one given. -/
theorem exists_mem_insertAll {set : OrderedSet α} {list : List α} {x : α}
    (given : x ∈ set.toList ∨ x ∈ list) :
    ∃ y ∈ (set.insertAll list).toList, compare x y = .eq := by
  unfold insertAll
  induction list generalizing set x with
  | nil =>
    have inside : x ∈ set.toList := by simpa using given
    exact ⟨x, inside, Std.ReflOrd.compare_self⟩
  | cons new others ih =>
    rw [List.foldl_cons]
    by_cases later : x ∈ others
    · exact ih (.inr later)
    · have first : x = new ∨ x ∈ set.toList := by
        rcases given with before | inside
        · exact .inr before
        · exact .inl ((List.mem_cons.1 inside).resolve_right later)
      obtain ⟨y, kept, same⟩ := exists_mem_insertInto first
      have inserted : y ∈ (set.insert new).toList := kept
      obtain ⟨z, last, equal⟩ := ih (.inl inserted)
      exact ⟨z, last, Std.TransCmp.eq_trans same equal⟩

/-- The set of a list has an element equal to each one of the list. -/
theorem exists_mem_ofList {list : List α} {x : α} (inside : x ∈ list) :
    ∃ y ∈ (ofList list).toList, compare x y = .eq :=
  exists_mem_insertAll (.inr inside)

/-- What is kept of a set of a list is the set of what is kept of the list, if of elements that are
equal in the order all are kept or none. -/
theorem filter_toList_ofList {keep : α → Bool}
    (alike : ∀ {x y : α}, compare x y = .eq → keep x = keep y) (list : List α) :
    (ofList list).toList.filter keep = (ofList (list.filter keep)).toList := by
  have onward : ∀ set set' : OrderedSet α, set.toList.filter keep = set'.toList →
      (set.insertAll list).toList.filter keep = (set'.insertAll (list.filter keep)).toList := by
    unfold insertAll
    induction list with
    | nil =>
      intro set set' same
      exact same
    | cons new others ih =>
      intro set set' same
      by_cases kept : keep new = true
      · rw [List.filter_cons_of_pos kept, List.foldl_cons, List.foldl_cons]
        apply ih
        show (insertInto new set.toList).filter keep = insertInto new set'.toList
        rw [filter_insertInto_kept alike kept set.increasing, same]
      · rw [List.filter_cons_of_neg kept, List.foldl_cons]
        apply ih
        show (insertInto new set.toList).filter keep = set'.toList
        rw [filter_insertInto_dropped (Bool.eq_false_iff.2 kept), same]
  exact onward empty empty rfl

end OrderedSet

end SarifDigest
