import Mathlib.Data.List.Infix
import SarifDigest.Text.Search

/-!
# Occurrences in text

Searching for a pattern finds exactly the texts that hold it as a run of characters. The number of
its occurrences adds up over parts that are separated by a character which the pattern lacks: no
occurrence can straddle the separator. A pattern whose first character does not come again in it
cannot overlap itself either.
-/
namespace SarifDigest.Text

variable {pattern text : List Char}

/-- A pattern is found exactly in the texts that it is a run of characters of. -/
theorem occursIn_iff : occursIn pattern text = true ↔ pattern <:+: text := by
  induction text with
  | nil => rw [occursIn, List.isEmpty_iff, List.infix_nil]
  | cons c rest ih =>
    rw [occursIn, Bool.or_eq_true, List.isPrefixOf_iff_prefix, ih, List.infix_cons_iff]

/-- A text contains another exactly when the other is a run of its characters. -/
theorem contains_iff {text pattern : String} :
    contains text pattern = true ↔ pattern.toList <:+: text.toList :=
  occursIn_iff

/-- The number of places in a text at which a pattern starts. -/
def occurrences (pattern : List Char) : List Char → Nat
  | [] => if pattern.isEmpty then 1 else 0
  | c :: rest => (if pattern.isPrefixOf (c :: rest) then 1 else 0) + occurrences pattern rest

/-- A pattern has no occurrence in a text exactly when it is not found there. -/
theorem occurrences_eq_zero_iff : occurrences pattern text = 0 ↔ ¬ pattern <:+: text := by
  induction text with
  | nil => simp [occurrences, List.infix_nil]
  | cons c rest ih =>
    rw [occurrences, Nat.add_eq_zero_iff, ih, List.infix_cons_iff, not_or,
      ← List.isPrefixOf_iff_prefix]
    simp

/-- More text in front or behind takes no occurrence away. -/
theorem occurrences_le (front text back : List Char) :
    occurrences pattern text ≤ occurrences pattern (front ++ text ++ back) := by
  have behind : occurrences pattern text ≤ occurrences pattern (text ++ back) := by
    induction text with
    | nil =>
      by_cases empty : pattern = []
      · rw [empty]
        cases back <;> simp [occurrences]
      · simp [occurrences, empty]
    | cons c rest ih =>
      have start : (if pattern.isPrefixOf (c :: rest) then 1 else 0) ≤
          if pattern.isPrefixOf (c :: (rest ++ back)) then 1 else 0 := by
        by_cases starts : pattern <+: c :: rest
        · have longer : pattern <+: c :: (rest ++ back) :=
            starts.trans (List.prefix_append (c :: rest) back)
          rw [if_pos (List.isPrefixOf_iff_prefix.2 longer)]
          split_ifs <;> decide
        · rw [if_neg (mt List.isPrefixOf_iff_prefix.1 starts)]
          exact Nat.zero_le _
      rw [List.cons_append, occurrences, occurrences]
      exact Nat.add_le_add start ih
  rw [List.append_assoc]
  induction front with
  | nil => exact behind
  | cons c front ih =>
    rw [List.cons_append, occurrences]
    omega

section Separators

variable {c : Char} {front back : List Char}

/-- A pattern without some character that starts in front of this character ends there too. -/
theorem isPrefixOf_separated (front : List Char) (free : c ∉ pattern) :
    pattern.isPrefixOf (front ++ c :: back) = pattern.isPrefixOf front := by
  induction front generalizing pattern with
  | nil =>
    cases pattern with
    | nil => rfl
    | cons d pattern =>
      have apart : d ≠ c := fun same => free (same ▸ List.mem_cons_self)
      simp [List.isPrefixOf, apart]
  | cons e front ih =>
    cases pattern with
    | nil => rfl
    | cons d pattern =>
      rw [List.cons_append, List.isPrefixOf, List.isPrefixOf,
        ih fun inside => free (List.mem_cons_of_mem d inside)]

/-- The occurrences of a pattern are those in front of a character that it lacks and those behind
it. -/
theorem occurrences_separated (front : List Char) (full : pattern ≠ []) (free : c ∉ pattern) :
    occurrences pattern (front ++ c :: back) =
      occurrences pattern front + occurrences pattern back := by
  induction front with
  | nil =>
    have start : pattern.isPrefixOf (c :: back) = pattern.isPrefixOf [] :=
      isPrefixOf_separated [] free
    have none : pattern.isPrefixOf [] = false := by
      cases pattern with
      | nil => contradiction
      | cons d pattern => rfl
    simp [occurrences, start, none, full]
  | cons e front ih =>
    have start : pattern.isPrefixOf (e :: (front ++ c :: back)) = pattern.isPrefixOf (e :: front) :=
      isPrefixOf_separated (e :: front) free
    rw [List.cons_append, occurrences, occurrences, start, ih, Nat.add_assoc]

/-- A pattern does not start where its first character is missing. -/
theorem occurrences_of_not_mem (free : c ∉ front) :
    occurrences (c :: pattern) (front ++ back) = occurrences (c :: pattern) back := by
  induction front with
  | nil => rfl
  | cons d front ih =>
    rw [List.mem_cons, not_or] at free
    rw [List.cons_append, occurrences, ih free.2]
    simp [List.isPrefixOf, free.1]

/-- A pattern whose first character does not come again occurs once more in a text that it is put
in front of. -/
theorem occurrences_itself (once : c ∉ pattern) :
    occurrences (c :: pattern) (c :: pattern ++ back) = occurrences (c :: pattern) back + 1 := by
  have start : (c :: pattern).isPrefixOf (c :: (pattern ++ back)) = true :=
    List.isPrefixOf_iff_prefix.2 (List.prefix_append (c :: pattern) back)
  rw [List.cons_append, occurrences, start, occurrences_of_not_mem once]
  simp [Nat.add_comm]

end Separators

end SarifDigest.Text
