import Mathlib.Data.Prod.Lex
import SarifDigest.Proofs.Text.CodePoints
import SarifDigest.Proofs.Violation.Order

/-!
# The lexicographic order of violations

Violations are in a total order: they are compared field by field, and the first field in which
they differ decides. Texts are in the order of their code points, severities from least to most,
and details as the sequence of their pairs, sorted by name, a proper beginning first.
-/
namespace SarifDigest

/-- One severity is less than another. -/
inductive Severity.Milder : Severity → Severity → Prop
  | infoWarn : Milder .info .warn
  | infoError : Milder .info .error
  | warnError : Milder .warn .error

/-- Severities compare as smaller when they are milder. -/
theorem Severity.compare_eq_lt_iff {left right : Severity} :
    compare left right = .lt ↔ left.Milder right := by
  constructor
  · intro smaller
    have ranks : left.rank < right.rank := Nat.compare_eq_lt.1 smaller
    cases left <;> cases right <;> simp only [rank, Nat.lt_irrefl, Nat.not_lt_zero] at ranks
    case info.warn => exact .infoWarn
    case info.error => exact .infoError
    case warn.error => exact .warnError
    case error.warn => omega
  · rintro (_ | _ | _) <;> decide

/-- Lists compare as smaller when they are in the lexicographic order of their elements, which the
comparison has to tell apart. -/
theorem compareLex_eq_lt_iff {α : Type} {cmp : α → α → Ordering} [Std.LawfulEqCmp cmp]
    {left right : List α} :
    List.compareLex cmp left right = .lt ↔
      List.Lex (fun first second => cmp first second = .lt) left right := by
  induction left generalizing right with
  | nil => cases right <;> simp [List.compareLex]
  | cons first left ih =>
    cases right with
    | nil => simp [List.compareLex]
    | cons second right =>
      rw [List.compareLex_cons_cons, Ordering.then_eq_lt, ih, Std.LawfulEqCmp.compare_eq_iff_eq,
        List.cons_lex_cons_iff]

/-- The details of one violation are before those of another: their pairs are a proper beginning,
or the first that differs has the smaller name, or the same name and the smaller value. -/
def Details.Before (left right : Details) : Prop :=
  List.Lex (Prod.Lex Text.Before Text.Before) left.pairs right.pairs

attribute [local instance] lexOrd in
/-- Details compare as smaller when they are before in this order. -/
theorem Details.compare_eq_lt_iff {left right : Details} :
    compare left right = .lt ↔ left.Before right := by
  have pair (first second : String × String) :
      compare first second = .lt ↔ Prod.Lex Text.Before Text.Before first second := by
    change compareLex (compareOn Prod.fst) (compareOn Prod.snd) first second = .lt ↔ _
    rw [compareLex, Ordering.then_eq_lt, compareOn, compareOn, Text.compare_eq_lt_iff,
      Text.compare_eq_lt_iff, Std.LawfulEqOrd.compare_eq_iff_eq, Prod.lex_def]
  have lists : List.compareLex compare left.pairs right.pairs = .lt ↔ _ := compareLex_eq_lt_iff
  simp only [pair] at lists
  exact lists

/-- The names of details are in the order of texts. -/
theorem Details.sorted_before (details : Details) :
    details.pairs.Pairwise fun left right => Text.Before left.1 right.1 :=
  details.sorted.imp Text.compare_eq_lt_iff.1

namespace Violation

/-- The fields of a violation. -/
inductive Field
  | parser
  | file
  | startLine
  | rule
  | message
  | severity
  | reporter
  | specifics

namespace Field

/-- The fields in the order in which they count. -/
def all : List Field :=
  [parser, file, startLine, rule, message, severity, reporter, specifics]

/-- Every field counts. -/
theorem mem_all (field : Field) : field ∈ all := by
  cases field <;> simp [all]

/-- Two violations agree in a field. -/
def Agree (left right : Violation) : Field → Prop
  | parser => left.parser = right.parser
  | file => left.file = right.file
  | startLine => left.startLine = right.startLine
  | rule => left.rule = right.rule
  | message => left.message = right.message
  | severity => left.severity = right.severity
  | reporter => left.reporter = right.reporter
  | specifics => left.specifics = right.specifics

/-- The first of two violations has the smaller value in a field. There is one format only, so
no format is smaller than another. -/
def Smaller (left right : Violation) : Field → Prop
  | parser => False
  | file => Text.Before left.file right.file
  | startLine => left.startLine < right.startLine
  | rule => Text.Before left.rule right.rule
  | message => Text.Before left.message right.message
  | severity => left.severity.Milder right.severity
  | reporter => Text.Before left.reporter right.reporter
  | specifics => left.specifics.Before right.specifics

/-- The comparison of a field. -/
def order (left right : Violation) : Field → Ordering
  | parser => compare left.parser right.parser
  | file => compare left.file right.file
  | startLine => compare left.startLine right.startLine
  | rule => compare left.rule right.rule
  | message => compare left.message right.message
  | severity => compare left.severity right.severity
  | reporter => compare left.reporter right.reporter
  | specifics => compare left.specifics right.specifics

variable {left right : Violation}

/-- A field compares as equal when violations agree in it. -/
theorem order_eq_eq_iff (field : Field) :
    field.order left right = .eq ↔ field.Agree left right := by
  cases field <;> exact Std.LawfulEqOrd.compare_eq_iff_eq

/-- A field compares as smaller when the first violation has the smaller value in it. -/
theorem order_eq_lt_iff (field : Field) :
    field.order left right = .lt ↔ field.Smaller left right := by
  cases field with
  | parser => simp [order, Smaller, compare]
  | startLine => exact Nat.compare_eq_lt
  | severity => exact Severity.compare_eq_lt_iff
  | specifics => exact Details.compare_eq_lt_iff
  | _ => exact Text.compare_eq_lt_iff

end Field

/-- One violation precedes another when it has the smaller value in a field and they agree in all
fields that count before it. -/
def Precedes (left right : Violation) : Prop :=
  ∃ earlier field later, Field.all = earlier ++ field :: later ∧
    (∀ other ∈ earlier, other.Agree left right) ∧ field.Smaller left right

/-- Comparisons in a row end as smaller when one of them does and those before it are equal. -/
theorem foldr_then_eq_lt_iff {ι : Type} {fields : List ι} {order : ι → Ordering} :
    fields.foldr (fun field rest => (order field).then rest) .eq = .lt ↔
      ∃ earlier field later, fields = earlier ++ field :: later ∧
        (∀ other ∈ earlier, order other = .eq) ∧ order field = .lt := by
  induction fields with
  | nil => simp
  | cons first fields ih =>
    rw [List.foldr_cons, Ordering.then_eq_lt, ih]
    constructor
    · rintro (smaller | ⟨same, earlier, field, later, rfl, equal, smaller⟩)
      · exact ⟨[], first, fields, rfl, by simp, smaller⟩
      · refine ⟨first :: earlier, field, later, rfl, ?_, smaller⟩
        exact List.forall_mem_cons.2 ⟨same, equal⟩
    · rintro ⟨earlier, field, later, split, equal, smaller⟩
      cases earlier with
      | nil =>
        cases split
        exact .inl smaller
      | cons other earlier =>
        cases split
        obtain ⟨same, equal⟩ := List.forall_mem_cons.1 equal
        exact .inr ⟨same, earlier, field, later, rfl, equal, smaller⟩

/-- Comparisons in a row end as equal when all of them do. -/
theorem foldr_then_eq_eq_iff {ι : Type} {fields : List ι} {order : ι → Ordering} :
    fields.foldr (fun field rest => (order field).then rest) .eq = .eq ↔
      ∀ field ∈ fields, order field = .eq := by
  induction fields with
  | nil => simp
  | cons first fields ih => rw [List.foldr_cons, Ordering.then_eq_eq, ih, List.forall_mem_cons]

/-- Violations are compared by one field after the other. -/
theorem compare_eq_foldr (left right : Violation) :
    compare left right =
      Field.all.foldr (fun field rest => (field.order left right).then rest) .eq := by
  simp only [Field.all, List.foldr_cons, List.foldr_nil, Field.order, Ordering.then_eq]
  rfl

/-- Violations compare as smaller when one precedes the other. -/
theorem compare_eq_lt_iff_precedes {left right : Violation} :
    compare left right = .lt ↔ left.Precedes right := by
  rw [compare_eq_foldr, foldr_then_eq_lt_iff]
  simp only [Field.order_eq_eq_iff, Field.order_eq_lt_iff, Precedes]

/-- Violations that agree in all fields are equal. -/
theorem eq_iff_agree {left right : Violation} :
    left = right ↔ ∀ field : Field, field.Agree left right := by
  rw [← Std.LawfulEqOrd.compare_eq_iff_eq (α := Violation), compare_eq_foldr,
    foldr_then_eq_eq_iff]
  simp only [Field.order_eq_eq_iff, Field.mem_all, true_imp_iff]

/-- At most means that the comparison does not say greater. -/
theorem le_iff {left right : Violation} : left ≤ right ↔ (compare left right).isLE = true :=
  Iff.rfl

/-- The comparison of violations is a total order that agrees with equality, and the lexicographic
order of their eight fields: turned around it gives the reverse, it is equal exactly for violations
that agree in all fields, which are those that are equal, it is transitive, and it is always known.
The names of details are sorted in the order of texts, which is that of their code points and of
their bytes alike. -/
theorem compare_total_lexicographic (first second third : Violation) :
    compare first second = (compare second first).swap ∧
    (compare first second = .eq ↔ ∀ field : Field, field.Agree first second) ∧
    ((∀ field : Field, field.Agree first second) ↔ (first == second) = true) ∧
    (first ≤ second ∨ second ≤ first) ∧
    (first ≤ second → second ≤ third → first ≤ third) ∧
    first.partialCompare? second = some (compare first second) ∧
    (compare first second = .lt ↔ first.Precedes second) ∧
    (first.specifics.pairs.Pairwise fun left right => Text.Before left.1 right.1) ∧
    ∀ left right : String, Text.Before left right ↔
      List.Lex (· < ·) (Text.bytes left) (Text.bytes right) := by
  refine ⟨Std.OrientedCmp.eq_swap, ?equal, ?same, ?total, ?transitive, rfl,
    compare_eq_lt_iff_precedes, first.specifics.sorted_before, fun _ _ => Text.before_iff_bytes⟩
  case equal => rw [Std.LawfulEqOrd.compare_eq_iff_eq, eq_iff_agree]
  case same => rw [beq_iff_eq, eq_iff_agree]
  case total =>
    have turned : compare second first = (compare first second).swap := Std.OrientedCmp.eq_swap
    rw [le_iff, le_iff, turned]
    cases compare first second <;> decide
  case transitive =>
    intro lower upper
    exact Std.TransCmp.isLE_trans lower upper

/-- A warning without details. -/
def bareWarning : Violation where
  file := "a.rs"
  startLine := 2
  rule := "r"
  message := "m"
  severity := .warn
  reporter := "lint"
  specifics := .empty

/-- The same warning with a detail. -/
def detailedWarning : Violation :=
  { bareWarning with specifics := Details.empty.insert correlationDetail "g" }

/-- The same warning by a reporter whose name is longer and not in ASCII. -/
def foreignWarning : Violation := { bareWarning with reporter := "lint é" }

/-- The detail puts the second warning behind the first one, and the reporter, which counts before
details, puts the third behind both. -/
theorem compare_total_lexicographic_warnings :
    bareWarning ≤ detailedWarning ∧ detailedWarning ≤ foreignWarning ∧
      bareWarning ≤ foreignWarning ∧ detailedWarning.Precedes foreignWarning := by
  have lower : bareWarning ≤ detailedWarning := le_iff.2 (by decide +kernel)
  have upper : detailedWarning ≤ foreignWarning := le_iff.2 (by decide +kernel)
  have smaller : compare detailedWarning foreignWarning = .lt := by decide +kernel
  obtain ⟨_, _, _, _, transitive, _⟩ :=
    compare_total_lexicographic bareWarning detailedWarning foreignWarning
  obtain ⟨_, _, _, _, _, _, precedes, _⟩ :=
    compare_total_lexicographic detailedWarning foreignWarning bareWarning
  exact ⟨lower, upper, transitive lower upper, precedes.1 smaller⟩

end Violation

end SarifDigest
