import SarifDigest.Proofs.Files.Following

/-!
# Lawful trees

A system keeps every entry of a folder under a name of its own, and no entry under a name that
a path could not lead to it by. In a tree of this kind a folder is its entries by name, and the
names on the way to a node can be followed one by one.
-/
namespace SarifDigest

/-- A name that an entry of a folder may have. -/
structure ProperName (name : String) : Prop where
  /-- It does not stand for the folder itself. -/
  busy : Path.isIdle name = false
  /-- It does not stand for the folder around it. -/
  inner : name ≠ ".."
  /-- It has no character that ends a text for the system. -/
  clean : '\x00' ∉ name.toList
  /-- It is not too long. -/
  short : name.utf8ByteSize ≤ nameLimit

/-- It can be checked. -/
instance (name : String) : Decidable (ProperName name) :=
  decidable_of_iff
    (Path.isIdle name = false ∧ name ≠ ".." ∧ '\x00' ∉ name.toList ∧
      name.utf8ByteSize ≤ nameLimit)
    ⟨fun ⟨busy, inner, clean, short⟩ => ⟨busy, inner, clean, short⟩,
      fun ⟨busy, inner, clean, short⟩ => ⟨busy, inner, clean, short⟩⟩

/-- A proper name is not empty. -/
theorem ProperName.given {name : String} (proper : ProperName name) : name ≠ "" := by
  have busy := proper.busy
  rintro rfl
  simp [Path.isIdle] at busy

namespace Node

/-- Every folder at a node or below has proper names, each once. -/
inductive Lawful : Node → Prop
  | file {bytes : ByteArray} : Lawful (.file bytes)
  | folder {entries : List (String × Node)}
      (proper : ∀ entry ∈ entries, ProperName entry.1)
      (distinct : (entries.map Prod.fst).Nodup)
      (inner : ∀ entry ∈ entries, Lawful entry.2) : Lawful (.folder entries)

/-- What is found under a name is an entry of that name. -/
theorem mem_of_lookup {entries : List (String × Node)} {name : String} {node : Node}
    (found : entries.lookup name = some node) : (name, node) ∈ entries := by
  obtain ⟨before, behind, split, _⟩ := List.lookup_eq_some_iff.1 found
  rw [split]
  exact List.mem_append_right before List.mem_cons_self

/-- When names are distinct, an entry is what is found under its name. -/
theorem lookup_of_mem {entries : List (String × Node)}
    (distinct : (entries.map Prod.fst).Nodup) {name : String} {node : Node}
    (listed : (name, node) ∈ entries) : entries.lookup name = some node := by
  obtain ⟨before, behind, split⟩ := List.append_of_mem listed
  refine List.lookup_eq_some_iff.2 ⟨before, behind, split, ?_⟩
  rw [split, List.map_append, List.nodup_append] at distinct
  intro other inside
  have different : other.1 ≠ name :=
    distinct.2.2 other.1 (List.mem_map_of_mem inside) name (by simp)
  simpa using Ne.symm different

/-- In a lawful folder the entries are found by their names. -/
theorem Lawful.lookup_of_mem {entries : List (String × Node)}
    (lawful : Lawful (.folder entries)) {name : String} {node : Node}
    (listed : (name, node) ∈ entries) : entries.lookup name = some node := by
  cases lawful with
  | folder proper distinct inner => exact Node.lookup_of_mem distinct listed

/-- What is in a lawful folder has a proper name and is lawful. -/
theorem Lawful.entry {entries : List (String × Node)} (lawful : Lawful (.folder entries))
    {name : String} {node : Node} (listed : (name, node) ∈ entries) :
    ProperName name ∧ node.Lawful := by
  cases lawful with
  | folder proper distinct inner => exact ⟨proper _ listed, inner _ listed⟩

/-- The nodes below a lawful one are lawful, and the names that lead to them are proper. -/
theorem Lawful.descend {node inner : Node} (lawful : node.Lawful) {names : List String}
    (found : node.at? names = some inner) :
    inner.Lawful ∧ ∀ name ∈ names, ProperName name := by
  induction names generalizing node with
  | nil =>
    cases found
    exact ⟨lawful, by simp⟩
  | cons name names ih =>
    rw [at?] at found
    obtain ⟨next, listed, onward⟩ := Option.bind_eq_some_iff.1 found
    cases node with
    | file bytes => simp [entries] at listed
    | folder entries =>
      obtain ⟨proper, lawfulNext⟩ := lawful.entry (mem_of_lookup listed)
      obtain ⟨lawfulInner, properNames⟩ := ih lawfulNext onward
      exact ⟨lawfulInner, List.forall_mem_cons.2 ⟨proper, properNames⟩⟩

end Node

namespace FileTree

variable {tree : FileTree} {location : List String}

/-- A proper name that is there leads to it. -/
theorem follow_of_proper {name : String} (proper : ProperName name)
    (there : (tree.top.at? (location ++ [name])).isSome = true) :
    tree.follow location name = .ok (location ++ [name]) :=
  follow_of_at? proper.busy proper.inner proper.short there

end FileTree

end SarifDigest
