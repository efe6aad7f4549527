import SarifDigest.Ordered.Set

/-!
# Violations

A violation is one finding at one place, in the same form whatever tool found it. Violations
are ordered by their fields from first to last, texts by code point and the named details as
the sequence of their pairs, so two violations are equal in the order only if they are equal.
-/
namespace SarifDigest

/-- The formats that violations are read from. -/
inductive ReportFormat
  | sarif
deriving DecidableEq

/-- How severe a violation is, from least to most. -/
inductive Severity
  | info
  | warn
  | error
deriving DecidableEq

namespace Severity

/-- The rank of a severity. -/
def rank : Severity → Nat
  | info => 0
  | warn => 1
  | error => 2

instance : Ord Severity where
  compare := compareOn rank

/-- The word for a severity in running text. -/
def word : Severity → String
  | info => "info"
  | warn => "warn"
  | error => "error"

/-- The name of a severity in data. -/
def name : Severity → String
  | info => "INFO"
  | warn => "WARN"
  | error => "ERROR"

end Severity

/-- The name of a format in data. -/
def ReportFormat.name : ReportFormat → String
  | sarif => "SARIF"

instance : Ord ReportFormat where
  compare _ _ := .eq

/-- Put a pair into a list that is sorted by key, in place of the pair of the same key. -/
def insertPair (key value : String) : List (String × String) → List (String × String)
  | [] => [(key, value)]
  | (other, old) :: rest =>
    match compare key other with
    | .lt => (key, value) :: (other, old) :: rest
    | .eq => (key, value) :: rest
    | .gt => (other, old) :: insertPair key value rest

/-- Putting a pair in brings no other pair. -/
theorem mem_insertPair_imp {key value : String} {pairs : List (String × String)}
    {pair : String × String} (found : pair ∈ insertPair key value pairs) :
    pair = (key, value) ∨ pair ∈ pairs := by
  induction pairs with
  | nil => simpa [insertPair] using found
  | cons first rest ih =>
    unfold insertPair at found
    split at found
    · simpa using found
    · rcases List.mem_cons.1 found with rfl | inside
      · exact .inl rfl
      · exact .inr (List.mem_cons_of_mem _ inside)
    · rcases List.mem_cons.1 found with rfl | inside
      · exact .inr (List.mem_cons_self ..)
      · exact (ih inside).imp id (List.mem_cons_of_mem _)

/-- Pairs in strictly increasing order of their keys. -/
abbrev SortedByKey (pairs : List (String × String)) : Prop :=
  pairs.Pairwise fun left right => compare left.1 right.1 = .lt

/-- Pairs stay in the order of their keys when one is put in. -/
theorem insertPair_sorted {key value : String} {pairs : List (String × String)}
    (sorted : SortedByKey pairs) : SortedByKey (insertPair key value pairs) := by
  induction pairs with
  | nil => exact List.pairwise_singleton ..
  | cons first rest ih =>
    obtain ⟨above, tail⟩ := List.pairwise_cons.1 sorted
    unfold insertPair
    split
    · rename_i less
      refine List.pairwise_cons.2 ⟨fun pair inside => ?_, sorted⟩
      rcases List.mem_cons.1 inside with rfl | inside
      · exact less
      · exact Std.TransCmp.lt_trans less (above pair inside)
    · rename_i same
      have equal := Std.LawfulEqOrd.eq_of_compare same
      subst equal
      exact List.pairwise_cons.2 ⟨above, tail⟩
    · rename_i greater
      refine List.pairwise_cons.2 ⟨fun pair inside => ?_, ih tail⟩
      rcases mem_insertPair_imp inside with rfl | inside
      · exact Std.OrientedCmp.lt_of_gt greater
      · exact above pair inside

/-- Named details of a violation, sorted by name, one value a name. -/
structure Details where
  /-- The names and values in order. -/
  pairs : List (String × String)
  /-- The names increase. -/
  sorted : SortedByKey pairs
deriving DecidableEq

namespace Details

/-- No details. -/
def empty : Details := ⟨[], List.Pairwise.nil⟩

/-- Give a name a value, in place of the value that it has. -/
def insert (details : Details) (name value : String) : Details :=
  ⟨insertPair name value details.pairs, insertPair_sorted details.sorted⟩

/-- The details of a list of pairs; a later value of a name takes the place of an earlier. -/
def ofList (pairs : List (String × String)) : Details :=
  pairs.foldl (fun details (name, value) => details.insert name value) empty

attribute [local instance] lexOrd in
/-- The order of the sequences of pairs, a proper beginning first. -/
instance : Ord Details where
  compare := compareOn pairs

end Details

/-- The file of a violation that no file is known for. -/
def noFile : String := "-"

/-- The line of a violation that has no place in a file. -/
def noLine : Nat := 0

/-- The detail under which the correlation of a result is kept. -/
def correlationDetail : String := "correlationGuid"

/-- One finding at one place. -/
structure Violation where
  parser : ReportFormat := .sarif
  file : String
  startLine : Nat
  rule : String
  message : String
  severity : Severity
  reporter : String
  specifics : Details
deriving DecidableEq

namespace Violation

/-- Compare the fields from first to last. -/
instance : Ord Violation where
  compare :=
    compareLex (compareOn parser) <| compareLex (compareOn file) <|
    compareLex (compareOn startLine) <| compareLex (compareOn rule) <|
    compareLex (compareOn message) <| compareLex (compareOn severity) <|
    compareLex (compareOn reporter) (compareOn specifics)

/-- How two violations stand to each other where an order may leave that open; this one never
does. -/
def partialCompare? (left right : Violation) : Option Ordering :=
  some (compare left right)

/-- One violation is at most another when they are known to stand like that. -/
instance : LE Violation where
  le left right := (left.partialCompare? right).any Ordering.isLE = true

/-- Whether a violation belongs to no file at all. -/
def isFileless (violation : Violation) : Bool :=
  violation.file = noFile && violation.startLine = noLine

end Violation

instance : Std.TransOrd ReportFormat where
  eq_swap := rfl
  isLE_trans := fun _ _ => rfl

instance : Std.TransOrd Severity :=
  inferInstanceAs (Std.TransCmp (compareOn Severity.rank))

attribute [local instance] lexOrd in
instance : Std.TransOrd Details :=
  inferInstanceAs (Std.TransCmp (compareOn Details.pairs))

instance : Std.TransOrd Violation :=
  inferInstanceAs <| Std.TransCmp <|
    compareLex (compareOn Violation.parser) <| compareLex (compareOn Violation.file) <|
    compareLex (compareOn Violation.startLine) <| compareLex (compareOn Violation.rule) <|
    compareLex (compareOn Violation.message) <| compareLex (compareOn Violation.severity) <|
    compareLex (compareOn Violation.reporter) (compareOn Violation.specifics)

/-- Violations without repetition, in their order. -/
abbrev ViolationSet := OrderedSet Violation

end SarifDigest
