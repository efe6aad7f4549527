import Mathlib.Data.List.TakeWhile
import SarifDigest.Json.Fault
import SarifDigest.Text.Search

/-!
# Texts of one line

A text is one line when it has no line feed. Numbers are, and so is every quoted text. Texts that
are each ended by a line feed are found again by cutting there exactly when each of them is one
line.
-/
namespace SarifDigest.Text

/-- A text without a line feed. -/
def OneLine (text : String) : Prop :=
  '\n' ∉ text.toList

instance (text : String) : Decidable (OneLine text) :=
  inferInstanceAs (Decidable ('\n' ∉ text.toList))

/-- Two texts in a row are one line when both are. -/
@[simp] theorem oneLine_append {front back : String} :
    OneLine (front ++ back) ↔ OneLine front ∧ OneLine back := by
  simp [OneLine]

/-- A text is one line when its characters have no line feed. -/
@[simp] theorem oneLine_ofList {chars : List Char} :
    OneLine (String.ofList chars) ↔ '\n' ∉ chars := by
  rw [OneLine, String.toList_ofList]

section Numbers

/-- The digits of a number have no line feed among them. -/
theorem not_mem_toDigits {base : Nat} (proper : 1 < base) (value : Nat) :
    '\n' ∉ Nat.toDigits base value := by
  induction value using Nat.strongRecOn with
  | ind value ih =>
    rw [Nat.toDigits_eq_if proper]
    split
    · simp
    · rename_i large
      have less : value / base < value := Nat.div_lt_self (by omega) proper
      simp [ih _ less]

/-- A natural number is written in digits. -/
theorem isDigit_of_mem_natural {value : Nat} {c : Char} (inside : c ∈ (toString value).toList) :
    c.isDigit = true := by
  have chars : (toString value).toList = Nat.toDigits 10 value := String.toList_ofList
  rw [chars] at inside
  exact Nat.isDigit_of_mem_toDigits (by decide) (by decide) inside

/-- A natural number is one line. -/
@[simp] theorem oneLine_natural (value : Nat) : OneLine (toString value) := by
  intro inside
  have digit : Char.isDigit '\n' = true := isDigit_of_mem_natural inside
  contradiction

/-- An integer is one line. -/
@[simp] theorem oneLine_integer (value : Int) : OneLine (toString value) := by
  cases value with
  | ofNat value => exact oneLine_natural value
  | negSucc value =>
    have minus : toString (Int.negSucc value) = "-" ++ toString (value + 1) := rfl
    rw [minus, oneLine_append]
    exact ⟨by decide, oneLine_natural _⟩

/-- A decimal number is one line in every layout whose sign is. -/
theorem oneLine_layout {layout : Binary64.Layout} (sign : OneLine layout.plusSign)
    (value : Binary64.Decimal) : OneLine (layout.text value) := by
  have digits : '\n' ∉ Nat.toDigits 10 value.digits := not_mem_toDigits (by decide) _
  have front : ∀ count, '\n' ∉ (Nat.toDigits 10 value.digits).take count :=
    fun count inside => digits (List.mem_of_mem_take inside)
  have back : ∀ count, '\n' ∉ (Nat.toDigits 10 value.digits).drop count :=
    fun count inside => digits (List.mem_of_mem_drop inside)
  unfold Binary64.Layout.text
  dsimp only
  split
  · split
    · rw [oneLine_ofList]
      simp [digits]
    · split
      · rw [oneLine_ofList]
        simp [front, back]
      · rw [oneLine_ofList]
        simp [digits]
  · have point : '\n' ∉ if ((Nat.toDigits 10 value.digits).drop 1).isEmpty then []
        else '.' :: (Nat.toDigits 10 value.digits).drop 1 := by
      split
      · simp
      · simpa using back 1
    have power : OneLine (if value.exponent + (Nat.toDigits 10 value.digits).length - 1 < 0
        then "-" else layout.plusSign) := by
      split
      · decide
      · exact sign
    rw [oneLine_append, oneLine_append, oneLine_append, oneLine_ofList, List.mem_append, not_or]
    exact ⟨⟨⟨⟨front 1, point⟩, by decide⟩, power⟩, oneLine_natural _⟩

/-- A real number is one line. -/
theorem oneLine_real (negative : Bool) (size : Binary64) :
    OneLine (Json.realText negative size) := by
  have plus : OneLine Json.realLayout.plusSign := by decide
  have sign : OneLine (if negative then "-" else "") := by
    cases negative with
    | true => decide
    | false => decide
  exact oneLine_append.2 ⟨sign, oneLine_layout plus size.shortest⟩

end Numbers

/-- A quoted character is no line feed. -/
theorem not_mem_quoteChar (c : Char) : '\n' ∉ quoteChar c := by
  have digits : '\n' ∉ hexDigits c.toNat := by
    exact not_mem_toDigits (by decide) _
  unfold quoteChar
  split_ifs with quote backslash nul tab back feed visible
  · decide
  · decide
  · decide
  · decide
  · decide
  · decide
  · simpa using Ne.symm feed
  · simp [digits]

/-- A quoted text is one line. -/
theorem oneLine_quoted (text : String) : OneLine (quoted text) := by
  unfold quoted
  rw [oneLine_ofList]
  simp only [List.cons_append, List.mem_cons, List.mem_append, List.mem_flatMap, not_or]
  refine ⟨by decide, ?_, by decide⟩
  intro inside
  obtain ⟨c, _, among⟩ := inside
  exact not_mem_quoteChar c among

/-- A piece between separators has no separator. -/
theorem not_mem_of_mem_splitOn {c : Char} {text piece : List Char}
    (inside : piece ∈ text.splitOn c) : c ∉ piece := by
  unfold List.splitOn at inside
  induction text generalizing piece with
  | nil =>
    rw [List.splitOnP_nil, List.mem_singleton] at inside
    rw [inside]
    exact List.not_mem_nil
  | cons other rest ih =>
    rw [List.splitOnP_cons_eq_if_modifyHead] at inside
    split at inside
    · cases List.mem_cons.1 inside with
      | inl empty =>
        rw [empty]
        exact List.not_mem_nil
      | inr further => exact ih further
    · rename_i plain
      cases pieces : List.splitOnP (· == c) rest with
      | nil => simp [pieces] at inside
      | cons first others =>
        rw [pieces, List.modifyHead_cons] at inside
        cases List.mem_cons.1 inside with
        | inl extended =>
          have free : c ∉ first := ih (by rw [pieces]; exact List.mem_cons_self)
          rw [extended, List.mem_cons, not_or]
          exact ⟨fun same => plain (by simp [same]), free⟩
        | inr further => exact ih (by rw [pieces]; exact List.mem_cons_of_mem _ further)

/-- Cutting a text at its line feeds gives lines that were each ended by one, and nothing behind
the last, exactly when none of the lines has a line feed. -/
theorem splitOn_lines_iff {lines : List (List Char)} :
    (lines.flatMap (· ++ ['\n'])).splitOn '\n' = lines ++ [[]] ↔ ∀ line ∈ lines, '\n' ∉ line := by
  constructor
  · intro cut line inside
    apply not_mem_of_mem_splitOn
    rw [cut]
    exact List.mem_append_left _ inside
  · intro free
    induction lines with
    | nil => rfl
    | cons line others ih =>
      rw [List.flatMap_cons, List.append_assoc, List.singleton_append, List.splitOn,
        List.splitOnP_append_cons _ _ (by decide)]
      have whole : line.splitOnP (· == '\n') = [line] := by
        apply List.splitOnP_eq_singleton
        intro c inside
        have other : c ≠ '\n' := fun same => free line List.mem_cons_self (same ▸ inside)
        simpa using other
      have rest := ih fun line inside => free line (List.mem_cons_of_mem _ inside)
      rw [List.splitOn] at rest
      rw [whole, rest]
      rfl

end SarifDigest.Text
