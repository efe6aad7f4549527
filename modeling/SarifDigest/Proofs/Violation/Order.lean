import SarifDigest.Violation.Basic

/-!
# The order of violations and equality

Violations that compare as equal agree in all eight fields. The comparison of each field tells
different values apart, and a comparison of fields from first to last finds every difference
that one of them finds.
-/
namespace SarifDigest

instance : Std.LawfulEqOrd ReportFormat where
  compare_self := rfl
  eq_of_compare := by
    intro left right _
    cases left
    cases right
    rfl

/-- Severities of one rank are one severity. -/
theorem Severity.rank_injective {left right : Severity} (same : left.rank = right.rank) :
    left = right := by
  cases left <;> cases right <;> simp_all [rank]

instance : Std.LawfulEqOrd Severity where
  compare_self := by
    intro severity
    exact Std.ReflOrd.compare_self (a := severity.rank)
  eq_of_compare := by
    intro left right same
    exact Severity.rank_injective (Std.LawfulEqOrd.eq_of_compare same)

/-- Details are decided by their pairs. -/
theorem Details.pairs_injective {left right : Details} (same : left.pairs = right.pairs) :
    left = right := by
  cases left
  cases right
  cases same
  rfl

attribute [local instance] lexOrd in
instance lawfulEqOrdPair : Std.LawfulEqOrd (String × String) where
  compare_self := by
    intro pair
    exact compareLex_eq_eq.2 ⟨Std.ReflOrd.compare_self, Std.ReflOrd.compare_self⟩
  eq_of_compare := by
    intro left right same
    obtain ⟨first, second⟩ := compareLex_eq_eq.1 same
    exact Prod.ext (Std.LawfulEqOrd.eq_of_compare first) (Std.LawfulEqOrd.eq_of_compare second)

attribute [local instance] lexOrd in
instance : Std.LawfulEqOrd Details where
  compare_self := by
    intro details
    exact Std.ReflOrd.compare_self (a := details.pairs)
  eq_of_compare := by
    intro left right same
    exact Details.pairs_injective (Std.LawfulEqOrd.eq_of_compare same)

namespace Violation

/-- Violations compare as equal exactly when each of their fields does. -/
theorem compare_eq_iff_fields {left right : Violation} :
    compare left right = .eq ↔
      compare left.parser right.parser = .eq ∧ compare left.file right.file = .eq ∧
      compare left.startLine right.startLine = .eq ∧ compare left.rule right.rule = .eq ∧
      compare left.message right.message = .eq ∧
      compare left.severity right.severity = .eq ∧
      compare left.reporter right.reporter = .eq ∧
      compare left.specifics right.specifics = .eq := by
  have fields : compare left right =
      (compareLex (compareOn parser) <| compareLex (compareOn file) <|
        compareLex (compareOn startLine) <| compareLex (compareOn rule) <|
        compareLex (compareOn message) <| compareLex (compareOn severity) <|
        compareLex (compareOn reporter) (compareOn specifics)) left right := rfl
  simp only [fields, compareLex_eq_eq, compareOn]

instance : Std.LawfulEqOrd Violation where
  compare_self := by
    intro violation
    rw [compare_eq_iff_fields]
    simp only [Std.ReflOrd.compare_self, and_self]
  eq_of_compare := by
    intro left right same
    simp only [compare_eq_iff_fields, Std.LawfulEqOrd.compare_eq_iff_eq] at same
    obtain ⟨parser, file, startLine, rule, message, severity, reporter, specifics⟩ := same
    cases left
    cases right
    simp_all

end Violation

end SarifDigest
