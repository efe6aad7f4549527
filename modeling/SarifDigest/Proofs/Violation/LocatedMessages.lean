import SarifDigest.Proofs.Text.Occurrences
import SarifDigest.Proofs.Text.Trimming

/-!
# The parts of a located message

What was found, what the region adds and the help of the rule are put one behind the other and then
trimmed as a whole. Which white space is cut off depends on which parts are blank, but no part
loses a visible character: each stands in the message in its place, with nothing but white space
around it. The label in front of the help is added once, and no piece of another part can be taken
for it.
-/
namespace SarifDigest

namespace Text

/-- Characters that are the given texts in their order, with nothing but white space before,
between and behind them. -/
def SpacedOut : List String → List Char → Prop
  | [], text => Blank text
  | part :: parts, text =>
    ∃ gap rest, Blank gap ∧ SpacedOut parts rest ∧ text = gap ++ (part.toList ++ rest)

/-- The text without the blanks at its end. -/
def trimEnd (text : String) : String :=
  String.ofList (dropEndBlanks text.toList)

section Spacing

variable {parts others : List String} {text front back : List Char}

/-- Characters in a row are white space when both are. -/
theorem Blank.append (first : Blank front) (second : Blank back) : Blank (front ++ back) := by
  intro c inside
  rcases List.mem_append.1 inside with left | right
  · exact first c left
  · exact second c right

/-- White space in front of texts makes a wider gap. -/
theorem SpacedOut.indent (blank : Blank front) (spaced : SpacedOut parts text) :
    SpacedOut parts (front ++ text) := by
  cases parts with
  | nil => exact blank.append spaced
  | cons part parts =>
    obtain ⟨gap, rest, before, onward, rfl⟩ := spaced
    exact ⟨front ++ gap, rest, blank.append before, onward, (List.append_assoc ..).symm⟩

/-- Texts that are spaced out are so in front of others. -/
theorem SpacedOut.append (first : SpacedOut parts front) (second : SpacedOut others back) :
    SpacedOut (parts ++ others) (front ++ back) := by
  induction parts generalizing front with
  | nil => exact second.indent first
  | cons part parts ih =>
    obtain ⟨gap, rest, before, onward, rfl⟩ := first
    exact ⟨gap, rest ++ back, before, ih onward, by simp⟩

/-- A text is what trimming leaves of it, spaced out. -/
theorem spacedOut_trim (text : String) : SpacedOut [trim text] text.toList := by
  obtain ⟨_, front, back, blankFront, blankBack, whole⟩ := trim_eq_iff.1 (Eq.refl (trim text))
  exact ⟨front, back, blankFront, blankBack, by rw [whole, List.append_assoc]⟩

/-- White space is dropped from the front of characters up to a visible one. -/
theorem dropWhile_append_visible {c : Char} (visible : isBlank c = false) :
    (front ++ c :: back).dropWhile isBlank = front.dropWhile isBlank ++ c :: back := by
  have stops : (c :: back).dropWhile isBlank = c :: back :=
    List.dropWhile_cons_of_neg (by simp [visible])
  rw [List.dropWhile_append, stops]
  split
  · rename_i blank
    rw [List.isEmpty_iff.1 blank, List.nil_append]
  · rfl

/-- White space at the end of characters goes on to those in front when nothing is left behind
them. -/
theorem rdropWhile_append :
    (front ++ back).rdropWhile isBlank =
      if back.rdropWhile isBlank = [] then front.rdropWhile isBlank
      else front ++ back.rdropWhile isBlank := by
  have none : back.rdropWhile isBlank = [] ↔
      (back.reverse.dropWhile isBlank).isEmpty = true := by
    rw [List.rdropWhile, List.reverse_eq_nil_iff, List.isEmpty_iff]
  simp only [none]
  rw [List.rdropWhile, List.reverse_append, List.dropWhile_append, List.rdropWhile,
    List.rdropWhile]
  split
  · rfl
  · rw [List.reverse_append, List.reverse_reverse]

/-- White space is dropped from the end of characters down to a visible one. -/
theorem rdropWhile_append_visible {c : Char} (visible : isBlank c = false) :
    (front ++ [c] ++ back).rdropWhile isBlank = front ++ [c] ++ back.rdropWhile isBlank := by
  have stops : (front ++ [c]).rdropWhile isBlank = front ++ [c] :=
    List.rdropWhile_concat_neg isBlank front c (by simp [visible])
  rw [rdropWhile_append, stops]
  split
  · rename_i blank
    rw [blank, List.append_nil]
  · rfl

/-- Dropping white space from the front cuts no text that starts with a visible character. -/
theorem SpacedOut.dropWhile (trimmed : ∀ part ∈ parts, Trimmed part)
    (spaced : SpacedOut parts text) : SpacedOut parts (text.dropWhile isBlank) := by
  induction parts generalizing text with
  | nil =>
    intro c inside
    exact spaced c ((List.dropWhile_sublist isBlank).subset inside)
  | cons part parts ih =>
    obtain ⟨gap, rest, before, onward, rfl⟩ := spaced
    rw [List.forall_mem_cons] at trimmed
    rw [List.dropWhile_append_of_pos before]
    cases start : part.toList with
    | nil => exact ⟨[], _, by simp [Blank], ih trimmed.2 onward, by rw [start]; rfl⟩
    | cons c others =>
      have visible : ¬ isBlank c = true := by simp [trimmed.1.front c (by rw [start]; rfl)]
      rw [List.cons_append, List.dropWhile_cons_of_neg visible]
      exact ⟨[], rest, by simp [Blank], onward, by rw [start]; rfl⟩

/-- Dropping white space from the end cuts no text that ends with a visible character. -/
theorem SpacedOut.rdropWhile (trimmed : ∀ part ∈ parts, Trimmed part)
    (spaced : SpacedOut parts text) : SpacedOut parts (text.rdropWhile isBlank) := by
  induction parts generalizing text with
  | nil =>
    intro c inside
    exact spaced c ((List.rdropWhile_prefix isBlank text).subset inside)
  | cons part parts ih =>
    obtain ⟨gap, rest, before, onward, rfl⟩ := spaced
    rw [List.forall_mem_cons] at trimmed
    have kept := ih trimmed.2 onward
    rw [← List.append_assoc, rdropWhile_append]
    split
    · rename_i none
      rw [none] at kept
      -- Nothing is left behind the part, so it is the last text, or has no characters either.
      rcases List.eq_nil_or_concat part.toList with empty | ⟨others, c, last⟩
      · have gone : gap.rdropWhile isBlank = [] := List.rdropWhile_eq_nil_iff.2 before
        rw [empty, List.append_nil, gone]
        exact ⟨[], [], by simp [Blank], kept, by simp [empty]⟩
      · rw [List.concat_eq_append] at last
        have visible : ¬ isBlank c = true := by simp [trimmed.1.back c (by simp [last])]
        rw [last, ← List.append_assoc, List.rdropWhile_concat_neg isBlank _ c visible]
        exact ⟨gap, [], before, kept, by simp [last]⟩
    · exact ⟨gap, _, before, kept, by simp⟩

end Spacing

end Text

open Text

section Parts

variable {finding : String} {region help : Option String}

/-- What was found and what the region adds stand in a text one behind the other. -/
theorem spacedOut_lead (finding : String) (region : Option String) :
    SpacedOut (trim finding :: (region.map trim).toList)
      (finding.toList ++ (furtherPart region).toList) := by
  have found := spacedOut_trim finding
  cases region with
  | none =>
    have nothing : (furtherPart none).toList = [] := rfl
    rw [nothing, List.append_nil]
    exact found
  | some addition =>
    have separator : Blank partSeparator.toList := isBlankText_iff.1 (by decide)
    rw [furtherPart, String.toList_append]
    exact found.append ((spacedOut_trim addition).indent separator)

/-- The message without help is what trimming leaves of the other two parts. -/
theorem toList_locatedMessage_none :
    (locatedMessage finding region none).toList =
      ((finding.toList ++ (furtherPart region).toList).dropWhile isBlank).rdropWhile isBlank := by
  have nothing : furtherPart (none.map (helpLabel ++ ·)) = "" := rfl
  rw [locatedMessage, nothing, String.append_empty, toList_trim, String.toList_append]

/-- The message with help keeps the label but for its blank, which stays when some help follows. -/
theorem toList_locatedMessage_some (finding : String) (region : Option String) (help : String) :
    (locatedMessage finding region (some help)).toList =
      (finding.toList ++ (furtherPart region).toList ++ partSeparator.toList).dropWhile isBlank ++
        ("For additional help see:".toList ++ (' ' :: help.toList).rdropWhile isBlank) := by
  have label : helpLabel.toList = "For additional help see:".toList ++ [' '] := by decide
  have solid : "For additional help see:".toList =
      'F' :: ("or additional help see".toList ++ [':']) := by decide
  have whole : (finding ++ furtherPart region ++ furtherPart (some (helpLabel ++ help))).toList =
      finding.toList ++ (furtherPart region).toList ++ partSeparator.toList ++
        'F' :: ("or additional help see".toList ++ [':'] ++ ' ' :: help.toList) := by
    simp only [furtherPart, String.toList_append, label, solid, List.append_assoc,
      List.cons_append, List.nil_append]
  rw [locatedMessage, Option.map_some, toList_trim, whole,
    dropWhile_append_visible (by decide), ← List.cons_append, ← List.cons_append,
    ← List.append_assoc, ← List.append_assoc, rdropWhile_append_visible (by decide), solid]
  simp only [List.append_assoc, List.cons_append]

/-- The parts of a message at a place, as they can be found in it: each is trimmed, but the help
only at its end, because the label in front of it is not blank. -/
def messageParts (finding : String) (region help : Option String) : List String :=
  trim finding :: (region.map trim).toList ++
    match help with
    | some help => ["For additional help see:", trimEnd help]
    | none => []

/-- What was found and what the region adds have no white space at their ends once trimmed. -/
theorem trimmed_lead {part : String} (inside : part ∈ trim finding :: (region.map trim).toList) :
    Trimmed part := by
  rcases List.mem_cons.1 inside with rfl | added
  · exact trimmed_trim finding
  · obtain ⟨addition, _, rfl⟩ := Option.map_eq_some_iff.1 (Option.mem_toList.1 added)
    exact trimmed_trim addition

/-- The parts of a message at a place stand in it in their order. -/
theorem spacedOut_locatedMessage (finding : String) (region help : Option String) :
    SpacedOut (messageParts finding region help) (locatedMessage finding region help).toList := by
  have lead := spacedOut_lead finding region
  cases help with
  | none =>
    rw [toList_locatedMessage_none, messageParts, List.append_nil]
    exact (lead.dropWhile fun _ => trimmed_lead).rdropWhile fun _ => trimmed_lead
  | some help =>
    have separator : SpacedOut [] partSeparator.toList := isBlankText_iff.1 (by decide)
    have before := lead.append separator
    rw [List.append_nil] at before
    -- The blank of the label is a gap before the help, or is cut off with it.
    have behind : SpacedOut [trimEnd help] ((' ' :: help.toList).rdropWhile isBlank) := by
      have ending : (trimEnd help).toList = help.toList.rdropWhile isBlank := String.toList_ofList
      rw [show ' ' :: help.toList = [' '] ++ help.toList from rfl, rdropWhile_append]
      split
      · rename_i none
        exact ⟨[], [], by simp [Blank], by simp [SpacedOut, Blank], by rw [ending, none]; decide⟩
      · exact ⟨[' '], [], by simp [Blank, isBlank], by simp [SpacedOut, Blank], by simp [ending]⟩
    have label : SpacedOut ["For additional help see:", trimEnd help]
        ("For additional help see:".toList ++ (' ' :: help.toList).rdropWhile isBlank) :=
      ⟨[], _, by simp [Blank], behind, rfl⟩
    rw [toList_locatedMessage_some, messageParts]
    exact (before.dropWhile fun _ => trimmed_lead).append label

end Parts

section Labels

/-- The label is a letter that does not come again in it, and others. -/
theorem helpLabel_start : helpLabel.toList = 'F' :: "or additional help see: ".toList := by decide

/-- The occurrences of the label in a text with a further part are those in the text and those in
the part: the label has no line feed. -/
theorem occurrences_furtherPart (front : List Char) (part : Option String) :
    occurrences helpLabel.toList (front ++ (furtherPart part).toList) =
      occurrences helpLabel.toList front + occurrences helpLabel.toList (part.getD "").toList := by
  have full : helpLabel.toList ≠ [] := by decide
  have free : '\n' ∉ helpLabel.toList := by decide
  cases part with
  | none =>
    have nothing : (furtherPart none).toList = [] := rfl
    have nowhere : occurrences helpLabel.toList [] = 0 := by decide
    rw [nothing, List.append_nil, Option.getD_none, String.toList_empty, nowhere]
    rfl
  | some given =>
    have separated : (furtherPart (some given)).toList = '\n' :: '\n' :: given.toList := by
      rw [furtherPart, String.toList_append]
      rfl
    have again : occurrences helpLabel.toList ('\n' :: given.toList) =
        occurrences helpLabel.toList [] + occurrences helpLabel.toList given.toList :=
      occurrences_separated [] full free
    have nowhere : occurrences helpLabel.toList [] = 0 := by decide
    rw [separated, occurrences_separated _ full free, again, nowhere, Nat.zero_add,
      Option.getD_some]

/-- The label in front of a help occurs once more than in the help: it does not overlap itself. -/
theorem occurrences_labelled (help : String) :
    occurrences helpLabel.toList (helpLabel ++ help).toList =
      occurrences helpLabel.toList help.toList + 1 := by
  rw [String.toList_append, helpLabel_start]
  exact occurrences_itself (by decide)

/-- Before the parts of a message are trimmed the label occurs in it as often as in the parts, and
once more when there is help. -/
theorem occurrences_untrimmed (finding : String) (region help : Option String) :
    occurrences helpLabel.toList
        (finding ++ furtherPart region ++ furtherPart (help.map (helpLabel ++ ·))).toList =
      occurrences helpLabel.toList finding.toList +
        occurrences helpLabel.toList (region.getD "").toList +
        occurrences helpLabel.toList ((help.map (helpLabel ++ ·)).getD "").toList := by
  rw [String.toList_append, occurrences_furtherPart, String.toList_append,
    occurrences_furtherPart]

/-- Trimming takes no occurrence of the label in, so a message has no more than its parts had. -/
theorem occurrences_trim_le (text : String) :
    occurrences helpLabel.toList (trim text).toList ≤ occurrences helpLabel.toList text.toList := by
  obtain ⟨_, front, back, _, _, whole⟩ := trim_eq_iff.1 (Eq.refl (trim text))
  rw [whole]
  exact occurrences_le front (trim text).toList back

/-- The whole label stands in a message whose help is not blank. -/
theorem helpLabel_infix_locatedMessage {finding : String} {region : Option String} {help : String}
    (visible : isBlankText help = false) :
    helpLabel.toList <:+: (locatedMessage finding region (some help)).toList := by
  have left : help.toList.rdropWhile isBlank ≠ [] := by
    rw [Ne, List.rdropWhile_eq_nil_iff]
    intro blank
    rw [isBlankText_iff.2 blank] at visible
    contradiction
  have kept : (' ' :: help.toList).rdropWhile isBlank =
      ' ' :: help.toList.rdropWhile isBlank := by
    rw [show ' ' :: help.toList = [' '] ++ help.toList from rfl, rdropWhile_append, if_neg left]
    rfl
  have label : helpLabel.toList = "For additional help see:".toList ++ [' '] := by decide
  rw [toList_locatedMessage_some, kept, label]
  exact ⟨_, help.toList.rdropWhile isBlank, by simp only [List.append_assoc]; rfl⟩

end Labels

/-- A message at a place is trimmed and has all its parts in their order, with nothing but white
space around each, and is what comes of putting it together again without others. When no part has
the label of the help in it, the message has the label once if the help is not blank, and not at
all if there is none. -/
theorem locatedMessage_keeps_parts (finding : String) (region help : Option String) :
    Trimmed (locatedMessage finding region help) ∧
    SpacedOut (messageParts finding region help) (locatedMessage finding region help).toList ∧
    locatedMessage (locatedMessage finding region help) none none =
      locatedMessage finding region help ∧
    ((∀ part ∈ finding :: (region.toList ++ help.toList),
        contains part helpLabel = false) →
      (∀ given, help = some given → isBlankText given = false →
        occurrences helpLabel.toList (locatedMessage finding region help).toList = 1) ∧
      (help = none →
        occurrences helpLabel.toList (locatedMessage finding region help).toList = 0)) := by
  have trimmed : Trimmed (locatedMessage finding region help) := trimmed_trim _
  refine ⟨trimmed, spacedOut_locatedMessage finding region help, ?again, ?labels⟩
  case again =>
    have alone : locatedMessage (locatedMessage finding region help) none none =
        trim (locatedMessage finding region help) := by
      simp [locatedMessage, furtherPart]
    rw [alone, trim_eq_iff]
    exact ⟨trimmed, [], [], by simp [Blank], by simp [Blank], by simp⟩
  case labels =>
    intro free
    have lacks {part : String} (inside : part ∈ finding :: (region.toList ++ help.toList)) :
        occurrences helpLabel.toList part.toList = 0 := by
      rw [occurrences_eq_zero_iff, ← contains_iff, free part inside]
      decide
    have atMost : occurrences helpLabel.toList (locatedMessage finding region help).toList ≤ _ :=
      occurrences_trim_le _
    rw [occurrences_untrimmed, lacks List.mem_cons_self] at atMost
    have ofRegion : occurrences helpLabel.toList (region.getD "").toList = 0 := by
      cases region with
      | none => decide
      | some addition => exact lacks (by simp)
    rw [ofRegion] at atMost
    constructor
    · rintro given rfl visible
      have ofHelp : occurrences helpLabel.toList given.toList = 0 := lacks (by simp)
      rw [Option.map_some, Option.getD_some, occurrences_labelled, ofHelp] at atMost
      have present : ¬ occurrences helpLabel.toList
          (locatedMessage finding region (some given)).toList = 0 := by
        rw [occurrences_eq_zero_iff, not_not]
        exact helpLabel_infix_locatedMessage visible
      omega
    · rintro rfl
      have nowhere : occurrences helpLabel.toList
          (((none : Option String).map (helpLabel ++ ·)).getD "").toList = 0 := by decide
      rw [nowhere] at atMost
      exact Nat.le_zero.1 atMost

/-- A message whose first part is blank, whose last part has white space at both ends, and whose
region adds the beginning of the label. -/
theorem locatedMessage_keeps_parts_blank :
    locatedMessage " \n" (some "see:\tFor additional help ") (some "  docs ") =
      "see:\tFor additional help \n\nFor additional help see:   docs" ∧
    occurrences helpLabel.toList
      (locatedMessage " \n" (some "see:\tFor additional help ") (some "  docs ")).toList = 1 := by
  obtain ⟨_, _, _, labels⟩ :=
    locatedMessage_keeps_parts " \n" (some "see:\tFor additional help ") (some "  docs ")
  exact ⟨by decide +kernel, (labels (by decide +kernel)).1 _ rfl (by decide +kernel)⟩

end SarifDigest
