import SarifDigest.Proofs.Text.Trimming

/-!
# Accepted words

The output mode and the threshold are each read from a table of words. A text is accepted as a value
when it spells one of the words for it, with white space around it and letters of either case. Every
other text is refused, and the refusal names the setting and the text as it is.
-/
namespace SarifDigest

section Words

variable {α : Type}

/-- A text is accepted as a value when it spells one of the words for it. -/
def Accepts (words : List (String × α)) (text : String) (value : α) : Prop :=
  ∃ word, (word, value) ∈ words ∧ Text.Spells text word

/-- The values of a setting are read from the plain words of a table, and every other text is
refused as it is. -/
structure ReadsWords (read : String → Except UnknownWord α) (words : List (String × α))
    (setting : String) : Prop where
  /-- The word of a value is in the table. -/
  known : ∀ text value, read text = .ok value ↔ (plainWord text, value) ∈ words
  /-- What is refused is the text for the setting. -/
  refused : ∀ text unknown, read text = .error unknown → unknown = ⟨setting, text⟩
  /-- The words of the table have no white space at their ends. -/
  trimmed : ∀ entry ∈ words, Text.Trimmed entry.1

variable {read : String → Except UnknownWord α} {words : List (String × α)} {setting : String}
  (reads : ReadsWords read words setting) {text : String}

include reads

/-- A text has the value that it is accepted as. -/
theorem ReadsWords.ok_iff {value : α} : read text = .ok value ↔ Accepts words text value := by
  rw [reads.known, Accepts]
  constructor
  · intro listed
    exact ⟨_, listed, (Text.plainWord_eq_iff (reads.trimmed _ listed)).1 rfl⟩
  · rintro ⟨word, listed, spells⟩
    rw [(Text.plainWord_eq_iff (reads.trimmed _ listed)).2 spells]
    exact listed

/-- A text is refused when it is not accepted as anything. -/
theorem ReadsWords.error_iff {unknown : UnknownWord} :
    read text = .error unknown ↔
      (∀ value, ¬ Accepts words text value) ∧ unknown = ⟨setting, text⟩ := by
  simp only [← reads.ok_iff]
  constructor
  · intro refused
    refine ⟨?_, reads.refused text unknown refused⟩
    intro value accepted
    rw [refused] at accepted
    contradiction
  · rintro ⟨unaccepted, rfl⟩
    cases outcome : read text with
    | ok value => exact absurd outcome (unaccepted value)
    | error unknown => rw [reads.refused text unknown outcome]

end Words

/-- The words for output modes. -/
def OutputMode.words : List (String × OutputMode) :=
  [("human", .human), ("json", .json)]

/-- The words for thresholds. -/
def Threshold.words : List (String × Threshold) :=
  [("error", .error), ("warn", .warn), ("warning", .warn), ("info", .info), ("never", .never),
    ("none", .never)]

/-- A word is trimmed when its first and its last character are not white space. -/
theorem Text.trimmed_of_ends {word : String}
    (ends : word.toList.head?.any isBlank = false ∧ word.toList.getLast?.any isBlank = false) :
    Trimmed word where
  front := fun c first => by simpa [first] using ends.1
  back := fun c last => by simpa [last] using ends.2

/-- Output modes are read from their words. -/
theorem OutputMode.readsWords : ReadsWords OutputMode.ofText OutputMode.words "output" where
  known := by
    intro text mode
    unfold ofText words
    generalize plainWord text = word
    dsimp only
    split_ifs with human json
    · simp [human, eq_comm]
    · simp [json, eq_comm]
    · simp [human, json]
  refused := by
    intro text unknown
    unfold ofText
    dsimp only
    split_ifs <;> simp_all [eq_comm]
  trimmed := by
    intro entry listed
    apply Text.trimmed_of_ends
    revert entry
    decide

/-- Thresholds are read from their words. -/
theorem Threshold.readsWords : ReadsWords Threshold.ofText Threshold.words "fail_on" where
  known := by
    intro text threshold
    unfold ofText words
    generalize plainWord text = word
    dsimp only
    split_ifs with error warn info never
    · simp [error, eq_comm]
    · rcases warn with warn | warning
      · simp [warn, eq_comm]
      · simp [warning, eq_comm]
    · simp [info, eq_comm]
    · rcases never with never | none
      · simp [never, eq_comm]
      · simp [none, eq_comm]
    · rw [not_or] at warn never
      simp [error, warn, info, never]
  refused := by
    intro text unknown
    unfold ofText
    dsimp only
    split_ifs <;> simp_all [eq_comm]
  trimmed := by
    intro entry listed
    apply Text.trimmed_of_ends
    revert entry
    decide

end SarifDigest
