import SarifDigest.Proofs.Text.OneLine
import SarifDigest.Proofs.Text.Trimming

/-!
# The first line of a text

A text that has a line feed is cut in front of the first one, and in front of a carriage return
right before it; any other text is one line as a whole. The carriage return that is cut off is white
space, so whether a first line shows anything is decided by the characters in front of the first
line feed.
-/
namespace SarifDigest.Text

/-- The first line of a text: the whole of a text of one line, and otherwise what stands in front of
the first line feed, less one carriage return right before it. -/
inductive FirstLine : String → String → Prop
  | whole {text : String} (single : OneLine text) : FirstLine text text
  | returned {line rest : String} (single : OneLine line) :
      FirstLine (line ++ "\r\n" ++ rest) line
  | fed {line rest : String} (single : OneLine line) (bare : line.toList.getLast? ≠ some '\r') :
      FirstLine (line ++ "\n" ++ rest) line

section Characters

variable {front back : List Char}

/-- Characters without a line feed all pass the test for one. -/
theorem forall_bne_lineFeed (single : '\n' ∉ front) : ∀ c ∈ front, (c != '\n') = true := by
  intro c inside
  have other : c ≠ '\n' := fun same => single (same ▸ inside)
  simpa using other

/-- Characters without a line feed are their own headline. -/
theorem headlineChars_single (single : '\n' ∉ front) : headlineChars front = front := by
  have whole : front.takeWhile (· != '\n') = front :=
    List.takeWhile_eq_self_iff.2 (forall_bne_lineFeed single)
  unfold headlineChars
  rw [whole]
  exact if_pos rfl

/-- Other characters are cut at the first line feed, and at a carriage return before it. -/
theorem headlineChars_cut (single : '\n' ∉ front) :
    headlineChars (front ++ '\n' :: back) =
      if front.getLast? = some '\r' then front.dropLast else front := by
  have cut : (front ++ '\n' :: back).takeWhile (· != '\n') = front := by
    rw [List.takeWhile_append_of_pos (forall_bne_lineFeed single),
      List.takeWhile_cons_of_neg (by decide), List.append_nil]
  have shorter : front.length ≠ (front ++ '\n' :: back).length := by
    rw [List.length_append, List.length_cons]
    omega
  unfold headlineChars
  rw [cut]
  exact if_neg shorter

end Characters

section Headline

variable {text line : String}

/-- The headline of a text is its first line. -/
theorem FirstLine.headline_eq (first : FirstLine text line) : headline text = line := by
  have chars : headlineChars text.toList = line.toList := by
    cases first with
    | whole single => exact headlineChars_single single
    | @returned _ rest single =>
      have split : (line ++ "\r\n" ++ rest).toList =
          line.toList ++ ['\r'] ++ '\n' :: rest.toList := by simp
      have free : '\n' ∉ line.toList ++ ['\r'] :=
        List.not_mem_append single (by decide)
      rw [split, headlineChars_cut free, if_pos List.getLast?_concat, List.dropLast_concat]
    | @fed _ rest single bare =>
      have split : (line ++ "\n" ++ rest).toList = line.toList ++ '\n' :: rest.toList := by simp
      rw [split, headlineChars_cut single, if_neg bare]
  rw [headline, chars, String.ofList_toList]

/-- Every text has a first line. -/
theorem exists_firstLine (text : String) : ∃ line, FirstLine text line := by
  by_cases single : OneLine text
  · exact ⟨text, .whole single⟩
  · obtain ⟨front, back, chars, free⟩ := List.eq_append_cons_of_mem (Decidable.not_not.1 single)
    by_cases returned : front.getLast? = some '\r'
    · obtain ⟨line, ends⟩ := List.getLast?_eq_some_iff.1 returned
      rw [ends] at chars free
      have whole : text = String.ofList line ++ "\r\n" ++ String.ofList back := by
        apply String.toList_injective
        simp [chars]
      have single : OneLine (String.ofList line) :=
        oneLine_ofList.2 fun inside => free (List.mem_append_left _ inside)
      rw [whole]
      exact ⟨_, .returned single⟩
    · have whole : text = String.ofList front ++ "\n" ++ String.ofList back := by
        apply String.toList_injective
        simp [chars]
      have bare : (String.ofList front).toList.getLast? ≠ some '\r' := by
        rwa [String.toList_ofList]
      rw [whole]
      exact ⟨_, .fed (oneLine_ofList.2 free) bare⟩

/-- The first line of a text is its headline. -/
theorem firstLine_iff : FirstLine text line ↔ headline text = line := by
  constructor
  · exact FirstLine.headline_eq
  · rintro rfl
    obtain ⟨line, first⟩ := exists_firstLine text
    rwa [first.headline_eq]

/-- A text starts with its first line. -/
theorem FirstLine.starts (first : FirstLine text line) : line.toList <+: text.toList := by
  cases first with
  | whole => exact List.prefix_refl _
  | returned =>
    rw [String.append_assoc, String.toList_append]
    exact List.prefix_append _ _
  | fed =>
    rw [String.append_assoc, String.toList_append]
    exact List.prefix_append _ _

/-- The first line of a text is one line. -/
theorem FirstLine.oneLine (first : FirstLine text line) : OneLine line := by
  cases first with
  | whole single => exact single
  | returned single => exact single
  | fed single => exact single

/-- A text starts with its headline. -/
theorem headline_starts (text : String) : (headline text).toList <+: text.toList :=
  (firstLine_iff.2 rfl).starts

/-- The headline of a text is one line. -/
theorem oneLine_headline (text : String) : OneLine (headline text) :=
  (firstLine_iff.2 rfl).oneLine

end Headline

/-- The characters of a text in front of its first line feed. -/
def opening (text : String) : List Char :=
  text.toList.takeWhile (· != '\n')

section Opening

variable {text line front back : String}

/-- A text of one line is in front of every line feed. -/
theorem opening_of_oneLine (single : OneLine text) : opening text = text.toList :=
  List.takeWhile_eq_self_iff.2 (forall_bne_lineFeed single)

/-- There is nothing in front of a line feed at the start. -/
theorem opening_of_lineFeed (starts : text.toList.head? = some '\n') : opening text = [] := by
  obtain ⟨rest, chars⟩ := List.head?_eq_some_iff.1 starts
  rw [opening, chars]
  rfl

/-- Behind a text of one line the characters go on, and behind any other they do not. -/
theorem opening_append :
    opening (front ++ back) = if OneLine front then front.toList ++ opening back
      else opening front := by
  rw [opening, String.toList_append]
  split
  · rename_i single
    rw [List.takeWhile_append_of_pos (forall_bne_lineFeed single), opening]
  · rename_i broken
    obtain ⟨start, rest, chars, free⟩ :=
      List.eq_append_cons_of_mem (Decidable.not_not.1 broken)
    have stops (rest : List Char) : (start ++ '\n' :: rest).takeWhile (· != '\n') = start := by
      rw [List.takeWhile_append_of_pos (forall_bne_lineFeed free),
        List.takeWhile_cons_of_neg (by decide), List.append_nil]
    rw [opening, chars, List.append_assoc, List.cons_append, stops, stops]

/-- Nothing visible stands in front of the first line feed of two texts in a row exactly when
nothing does in the first, nor in the second if the first is one line. -/
theorem blank_opening_append_iff :
    Blank (opening (front ++ back)) ↔
      Blank (opening front) ∧ (OneLine front → Blank (opening back)) := by
  rw [opening_append]
  split
  · rename_i single
    rw [opening_of_oneLine single, Blank, List.forall_mem_append]
    exact and_congr_right fun _ => (imp_iff_right single).symm
  · rename_i broken
    exact (and_iff_left fun single => absurd single broken).symm

/-- A text with nothing in front of its first line feed adds nothing visible there to another. -/
theorem blank_opening_append_iff_of_nil (nothing : opening back = []) :
    Blank (opening (front ++ back)) ↔ Blank (opening front) := by
  rw [blank_opening_append_iff, nothing]
  exact and_iff_left fun _ => List.forall_mem_nil _

/-- The first line is blank exactly when nothing visible stands in front of the first line feed: the
carriage return that is cut off is white space. -/
theorem FirstLine.isBlankText_iff (first : FirstLine text line) :
    isBlankText line = true ↔ Blank (opening text) := by
  rw [Text.isBlankText_iff]
  cases first with
  | whole single => rw [opening_of_oneLine single]
  | @returned _ rest single =>
    have cut : opening (line ++ "\r\n" ++ rest) = line.toList ++ ['\r'] := by
      have bare : OneLine "\r" := by decide
      have split : "\r\n" ++ rest = "\r" ++ ("\n" ++ rest) := by
        rw [← String.append_assoc]
        rfl
      rw [String.append_assoc, opening_append, if_pos single, split, opening_append, if_pos bare,
        opening_of_lineFeed (by simp), List.append_nil]
      rfl
    have bare : isBlank '\r' = true := by decide
    rw [cut, Blank, Blank, List.forall_mem_append, List.forall_mem_singleton, bare]
    exact (and_iff_left rfl).symm
  | @fed _ rest single _ =>
    have cut : opening (line ++ "\n" ++ rest) = line.toList := by
      rw [String.append_assoc, opening_append, if_pos single, opening_of_lineFeed (by simp),
        List.append_nil]
    rw [cut]

/-- The first line shows something exactly when something visible stands in front of the first line
feed. -/
theorem FirstLine.visible_iff (first : FirstLine text line) :
    isBlankText line = false ↔ ¬ Blank (opening text) := by
  rw [← first.isBlankText_iff, Bool.not_eq_true]

/-- A text has a first line that shows something exactly when something visible stands in front of
its first line feed. -/
theorem exists_visible_firstLine_iff :
    (∃ line, FirstLine text line ∧ isBlankText line = false) ↔ ¬ Blank (opening text) := by
  constructor
  · rintro ⟨line, first, visible⟩
    exact first.visible_iff.1 visible
  · intro visible
    obtain ⟨line, first⟩ := exists_firstLine text
    exact ⟨line, first, first.visible_iff.2 visible⟩

end Opening

end SarifDigest.Text
