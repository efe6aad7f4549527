import Mathlib.Data.List.Nodup
import SarifDigest.Sarif.RuleTable

/-!
# What a rule table holds

A table is filled rule by rule, each rule adding at most one help and one description. So it
holds what its rules add, the last first, and a lookup finds what the last rule of an identifier
added. Where identifiers are different, the order of the rules does not matter.
-/
namespace SarifDigest.Sarif

/-- The help that a rule adds to a table. -/
def ReportingDescriptor.helpEntry (rule : ReportingDescriptor) : Option (String × String) :=
  (nonEmpty rule.id).bind fun id => rule.helpText.map fun help => (id, help)

/-- The description that a rule adds to a table. -/
def ReportingDescriptor.descriptionEntry (rule : ReportingDescriptor) :
    Option (String × String) :=
  (nonEmpty rule.id).map fun id => (id, rule.description id)

namespace RuleTable

/-- A rule puts what it adds in front. -/
theorem add_eq (table : RuleTable) (rule : ReportingDescriptor) :
    table.add rule =
      { helps := rule.helpEntry.toList ++ table.helps
        descriptions := rule.descriptionEntry.toList ++ table.descriptions } := by
  unfold add ReportingDescriptor.helpEntry ReportingDescriptor.descriptionEntry
  cases nonEmpty rule.id with
  | none => rfl
  | some id => cases rule.helpText <;> rfl

/-- Adding rules puts what they add in front, the last first. -/
theorem foldl_add (rules : List ReportingDescriptor) (table : RuleTable) :
    rules.foldl add table =
      { helps := (rules.filterMap (·.helpEntry)).reverse ++ table.helps
        descriptions := (rules.filterMap (·.descriptionEntry)).reverse ++ table.descriptions } := by
  induction rules generalizing table with
  | nil => rfl
  | cons rule others ih =>
    rw [List.foldl_cons, ih, add_eq, List.filterMap_cons, List.filterMap_cons]
    cases rule.helpEntry <;> cases rule.descriptionEntry <;> simp

/-- The table of a run holds what its rules add, the last first. -/
theorem ofRun_eq (run : Run) :
    ofRun run =
      { helps := (run.ruleList.filterMap (·.helpEntry)).reverse
        descriptions := (run.ruleList.filterMap (·.descriptionEntry)).reverse } := by
  rw [ofRun, foldl_add, List.append_nil, List.append_nil]

end RuleTable

/-- Entries with different keys are found in whatever order they stand. -/
theorem lookup_of_perm {entries others : List (String × String)} (order : entries.Perm others)
    (distinct : (entries.map Prod.fst).Nodup) (key : String) :
    entries.lookup key = others.lookup key := by
  induction order with
  | nil => rfl
  | cons entry order ih =>
    rw [List.map_cons, List.nodup_cons] at distinct
    rw [List.lookup_cons, List.lookup_cons, ih distinct.2]
  | swap first second rest =>
    obtain ⟨name, value⟩ := first
    obtain ⟨name', value'⟩ := second
    simp only [List.map_cons, List.nodup_cons, List.mem_cons, not_or] at distinct
    have different : (name' == name) = false := beq_eq_false_iff_ne.2 distinct.1.1
    simp only [List.lookup_cons]
    by_cases here : key = name'
    · simp [here, different]
    · simp [beq_eq_false_iff_ne.2 here]
  | trans order _ ih ih' =>
    rw [ih distinct, ih' ((order.map Prod.fst).nodup_iff.1 distinct)]

/-- What rules of different identifiers add is found in whatever order they stand, when it is
added under their identifiers. -/
theorem lookup_reverse_of_perm {entry : ReportingDescriptor → Option (String × String)}
    (named : ∀ rule pair, entry rule = some pair → nonEmpty rule.id = some pair.1)
    {rules others : List ReportingDescriptor} (order : rules.Perm others)
    (distinct : (rules.filterMap fun rule => nonEmpty rule.id).Nodup) (key : String) :
    (rules.filterMap entry).reverse.lookup key = (others.filterMap entry).reverse.lookup key := by
  have reordered : (rules.filterMap entry).reverse.Perm (others.filterMap entry).reverse :=
    (List.reverse_perm _).trans ((order.filterMap entry).trans (List.reverse_perm _).symm)
  refine lookup_of_perm reordered ?_ key
  rw [List.map_reverse, List.nodup_reverse]
  refine distinct.sublist ?_
  clear order distinct reordered
  induction rules with
  | nil => exact .slnil
  | cons rule rules ih =>
    cases added : entry rule with
    | none =>
      cases given : nonEmpty rule.id with
      | none => simpa [added, given] using ih
      | some id => simpa [added, given] using ih.cons id
    | some pair => simpa [added, named rule pair added] using ih.cons_cons pair.1

/-- A table finds the same for every identifier when rules of different identifiers change
places. -/
theorem RuleTable.ofRun_of_perm {run other : Run} (order : run.ruleList.Perm other.ruleList)
    (distinct : (run.ruleList.filterMap fun rule => nonEmpty rule.id).Nodup) (id : String) :
    (ofRun run).help? id = (ofRun other).help? id ∧
      (ofRun run).description? id = (ofRun other).description? id := by
  simp only [ofRun_eq, help?, description?]
  constructor
  · refine lookup_reverse_of_perm ?_ order distinct id
    intro rule pair added
    obtain ⟨name, given, helps⟩ := Option.bind_eq_some_iff.1 added
    obtain ⟨help, _, rfl⟩ := Option.map_eq_some_iff.1 helps
    exact given
  · refine lookup_reverse_of_perm ?_ order distinct id
    intro rule pair added
    obtain ⟨name, given, rfl⟩ := Option.map_eq_some_iff.1 added
    exact given

end SarifDigest.Sarif
