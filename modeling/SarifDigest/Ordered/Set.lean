/-!
# Ordered sets

A finite set as the strictly increasing list of its elements. The order of the element type
decides both where an element stands and which elements are one: of two that compare as equal
the one inserted first is kept. Insertion keeps the list increasing, so the order in which
elements arrive never shows in the list.
-/
namespace SarifDigest

/-- Put an element into an increasing list, unless one equal to it is there. -/
def insertInto {α : Type} [Ord α] (new : α) : List α → List α
  | [] => [new]
  | old :: others =>
    match compare new old with
    | .lt => new :: old :: others
    | .eq => old :: others
    | .gt => old :: insertInto new others

/-- Putting an element in brings no other element. -/
theorem mem_insertInto_imp {α : Type} [Ord α] {new x : α} {list : List α}
    (found : x ∈ insertInto new list) : x = new ∨ x ∈ list := by
  induction list with
  | nil => simpa [insertInto] using found
  | cons old others ih =>
    unfold insertInto at found
    split at found
    · simpa using found
    · exact .inr found
    · rcases List.mem_cons.1 found with rfl | inside
      · exact .inr (List.mem_cons_self ..)
      · exact (ih inside).imp id (List.mem_cons_of_mem _)

/-- Whether an increasing list has no element equal to the given one, looked for where it would
be put in. -/
def isNewTo {α : Type} [Ord α] (new : α) : List α → Bool
  | [] => true
  | old :: others =>
    match compare new old with
    | .lt => true
    | .eq => false
    | .gt => isNewTo new others

/-- A list in which every element is smaller than those behind it. -/
abbrev Increasing {α : Type} [Ord α] (list : List α) : Prop :=
  list.Pairwise fun left right => compare left right = .lt

/-- A list stays increasing when an element is put in. -/
theorem insertInto_increasing {α : Type} [Ord α] [Std.TransOrd α] {new : α} {list : List α}
    (increasing : Increasing list) : Increasing (insertInto new list) := by
  induction list with
  | nil => exact List.pairwise_singleton ..
  | cons old others ih =>
    obtain ⟨above, tail⟩ := List.pairwise_cons.1 increasing
    unfold insertInto
    split
    · rename_i less
      refine List.pairwise_cons.2 ⟨fun x inside => ?_, increasing⟩
      rcases List.mem_cons.1 inside with rfl | inside
      · exact less
      · exact Std.TransCmp.lt_trans less (above x inside)
    · exact increasing
    · rename_i greater
      refine List.pairwise_cons.2 ⟨fun x inside => ?_, ih tail⟩
      rcases mem_insertInto_imp inside with rfl | inside
      · exact Std.OrientedCmp.lt_of_gt greater
      · exact above x inside

/-- A finite set, as the increasing list of its elements. -/
structure OrderedSet (α : Type) [Ord α] where
  /-- The elements in order. -/
  toList : List α
  /-- The order is strict. -/
  increasing : Increasing toList

namespace OrderedSet

variable {α : Type} [Ord α]

/-- The set without elements. -/
def empty : OrderedSet α := ⟨[], List.Pairwise.nil⟩

/-- The number of elements. -/
def size (set : OrderedSet α) : Nat := set.toList.length

/-- Whether there is no element. -/
def isEmpty (set : OrderedSet α) : Bool := set.toList.isEmpty

/-- Whether an element equal to the given one is in the set. -/
def contains (set : OrderedSet α) (x : α) : Bool :=
  set.toList.any fun y => compare x y == .eq

/-- Sets are equal when they have as many elements and these are equal one by one. -/
instance [BEq α] : BEq (OrderedSet α) where
  beq left right :=
    left.size == right.size && (left.toList.zip right.toList).all fun (x, y) => x == y

variable [Std.TransOrd α]

/-- Insert an element, unless one equal to it is in the set. -/
def insert (set : OrderedSet α) (x : α) : OrderedSet α :=
  ⟨insertInto x set.toList, insertInto_increasing set.increasing⟩

/-- Insert an element and tell whether it is new to the set. -/
def insertNew (set : OrderedSet α) (x : α) : OrderedSet α × Bool :=
  (set.insert x, isNewTo x set.toList)

/-- Insert elements from the first to the last. -/
def insertAll (set : OrderedSet α) (list : List α) : OrderedSet α :=
  list.foldl insert set

/-- The set of the elements of a list. -/
def ofList (list : List α) : OrderedSet α :=
  empty.insertAll list

/-- The elements of both sets. -/
def union (left right : OrderedSet α) : OrderedSet α :=
  left.insertAll right.toList

end OrderedSet

end SarifDigest
