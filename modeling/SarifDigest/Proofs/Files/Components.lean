import SarifDigest.Proofs.Files.Following

/-!
# Components and locations

Paths are equal in their order when they have the same components. The components of a path
decide where it is walked to, so paths that are equal in this way lead to one location.
-/
namespace SarifDigest

namespace Component

/-- Components are decided by their kind and name. -/
theorem rank_label_injective {left right : Component} (kind : left.rank = right.rank)
    (name : left.label = right.label) : left = right := by
  cases left <;> cases right <;> simp_all [rank, label]

instance : Std.LawfulEqOrd Component where
  compare_self := by
    intro component
    exact compareLex_eq_eq.2 ⟨Std.ReflOrd.compare_self (a := component.rank),
      Std.ReflOrd.compare_self (a := component.label)⟩
  eq_of_compare := by
    intro left right same
    obtain ⟨kind, name⟩ := compareLex_eq_eq.1 same
    exact rank_label_injective (Std.LawfulEqOrd.eq_of_compare kind)
      (Std.LawfulEqOrd.eq_of_compare name)

/-- A name that is not idle and does not lead up is its own component. -/
theorem ofLater?_of_busy {name : String} (busy : Path.isIdle name = false) (inner : name ≠ "..") :
    ofLater? name = some (.name name) := by
  have undotted : ¬ (name = "" ∨ name = ".") := by
    simpa [Path.isIdle] using busy
  rw [ofLater?, if_neg undotted, if_neg inner]

/-- Where a component leads from a location, in a tree with the given working folder. -/
def place (here location : List String) : Component → List String
  | .top => []
  | .here => here
  | .up => location.dropLast
  | .name label => location ++ [label]

end Component

namespace Path

/-- Paths are equal in their order when they have the same components. -/
theorem compare_eq_iff {left right : Path} :
    compare left right = .eq ↔ left.components = right.components :=
  Std.LawfulEqOrd.compare_eq_iff_eq (a := left.components) (b := right.components)

/-- A name behind a path that is not empty adds a component, unless it is idle. -/
theorem components_child {path : Path} (nonempty : path.isEmpty = false) (name : String) :
    (path.child name).components = path.components ++ (Component.ofLater? name).toList := by
  have kept : (dropEndEmpty path.rest).filterMap Component.ofLater? =
      path.rest.filterMap Component.ofLater? := by
    rcases dropEndEmpty_eq path.rest with ⟨before, same, left⟩ | left
    · have idle : Component.ofLater? "" = none := by decide
      rw [left, same, List.filterMap_append, List.filterMap_cons, idle]
      simp
    · rw [left]
  have sameStart : (path.child name).isAbsolute = path.isAbsolute := by
    rw [child_of_nonempty nonempty]
    unfold isAbsolute
    cases first : decide (path.first = "") with
    | false => simp
    | true =>
      have empty : path.first = "" := of_decide_eq_true first
      have more : path.rest.isEmpty = false := by
        simpa [isEmpty, empty] using nonempty
      simp [more]
  unfold components
  rw [sameStart, child_of_nonempty nonempty]
  dsimp only
  rw [List.filterMap_append, kept, List.append_assoc]
  congr 2

end Path

namespace FileTree

variable {tree : FileTree}

/-- A step to a piece that is not the first is what its component stands for. -/
theorem place_of_follow {location next : List String} {piece : String}
    (step : tree.follow location piece = .ok next) :
    next = (Component.ofLater? piece).toList.foldl (Component.place tree.here) location := by
  obtain ⟨entries, folder⟩ := follow_ok_folder step
  unfold Component.ofLater?
  by_cases idle : piece = "" ∨ piece = "."
  · have still : Path.isIdle piece = true := by simpa [Path.isIdle] using idle
    rw [follow_idle folder still] at step
    rw [if_pos idle]
    exact (Except.ok.inj step).symm
  · rw [if_neg idle]
    by_cases up : piece = ".."
    · rw [up, follow_up folder] at step
      rw [if_pos up]
      exact (Except.ok.inj step).symm
    · rw [if_neg up]
      rcases follow_ok_cases step up with ⟨still, _⟩ | ⟨_, reached, _⟩
      · have contrary : piece = "" ∨ piece = "." := by simpa [Path.isIdle] using still
        contradiction
      · exact reached

/-- Where pieces that are not the first lead is decided by their components. -/
theorem place_of_foldlM {pieces location next : List String}
    (walked : pieces.foldlM tree.follow location = .ok next) :
    next = (pieces.filterMap Component.ofLater?).foldl (Component.place tree.here) location := by
  induction pieces generalizing location with
  | nil => exact (Except.ok.inj walked).symm
  | cons piece pieces ih =>
    rw [List.foldlM_cons] at walked
    obtain ⟨middle, step, onward⟩ := bind_eq_ok_iff.1 walked
    have reached := ih onward
    rw [place_of_follow step] at reached
    rw [reached]
    cases found : Component.ofLater? piece with
    | none => simp [found]
    | some component => simp [found]

/-- Where a path is walked to is decided by its components. -/
theorem place_of_walk {path : Path} {location : List String}
    (walked : tree.walk path = .ok location) :
    location = path.components.foldl (Component.place tree.here) tree.here := by
  obtain ⟨first, rest⟩ := path
  have led := walked
  rw [walk, Path.pieces, List.foldlM_cons] at led
  obtain ⟨middle, start, onward⟩ := bind_eq_ok_iff.1 led
  have reached := place_of_foldlM onward
  unfold Path.components
  cases absolute : (Path.mk first rest).isAbsolute with
  | true =>
    have empty : first = "" := by
      have parts : first = "" ∧ rest ≠ [] := by simpa [Path.isAbsolute] using absolute
      exact parts.1
    rw [base, if_pos absolute, empty] at start
    have top := place_of_follow start
    rw [reached, top]
    rfl
  | false =>
    have based : tree.base ⟨first, rest⟩ = tree.here := by
      rw [base, absolute]
      rfl
    rw [based] at start
    have placed := place_of_follow start
    rw [reached, placed]
    unfold Component.ofFirst?
    by_cases dot : first = "."
    · rw [dot]
      rfl
    · simp [dot, List.foldl_append]

/-- Where a path leads in a tree, if it leads anywhere. -/
def place (tree : FileTree) (path : Path) : List String :=
  path.components.foldl (Component.place tree.here) tree.here

/-- A path that is followed leads to its place. -/
theorem place_of_locate {path : Path} {location : List String}
    (led : tree.locate path = .ok location) : tree.place path = location :=
  (place_of_walk (walk_of_locate led)).symm

/-- Paths that are equal in their order have one place. -/
theorem place_of_compare {path other : Path} (same : compare path other = .eq) :
    tree.place path = tree.place other := by
  rw [place, place, Path.compare_eq_iff.1 same]

end FileTree

end SarifDigest
