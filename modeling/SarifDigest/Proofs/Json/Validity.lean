import SarifDigest.Proofs.Json.Records

/-!
# Validity of what is decoded

Whatever is decoded could be passed over as well: a text of a relation between values and texts
that readers are exact for is a value in the sense of the grammar without limits. The converse does
not hold. Numbers may be out of range, escapes may be half a pair, and nesting may be too deep, and
the value is passed over all the same.
-/
namespace SarifDigest.Json

/-- The texts of a relation can all be passed over. -/
def Valid {α : Type} (Form : α → List Char → Prop) : Prop :=
  ∀ value text, Form value text → Passed text

section Lists

variable {text behind : List Char}

/-- A value without parts is passed over. -/
theorem PassedScalar.passed (scalar : PassedScalar text) : Passed text :=
  ⟨0, .scalar scalar⟩

/-- A sequence is passed over when its items are. -/
theorem passed_sequence {items : List (List Char)} (each : ∀ item ∈ items, Passed item)
    (listed : Listed ']' true items behind) : Passed ('[' :: behind) := by
  let parts : List (Unit × List Char) := items.map fun item => ((), item)
  have texts : parts.map (·.2) = items := by simp [parts, Function.comp_def]
  -- Every item is shorter than the sequence, whose length is therefore a depth for all of them.
  have written : ∀ part ∈ parts, passing.Writes behind.length part.1 part.2 := by
    intro part inside
    obtain ⟨item, given, rfl⟩ := List.mem_map.1 inside
    obtain ⟨depth, layers⟩ := each item given
    exact layers.of_length (Nat.le_of_lt (listed.length_lt given))
  rw [← texts] at listed
  exact ⟨behind.length + 1, .sequence written listed⟩

/-- A member that is well formed and whose value can be passed over. -/
def Entry.Whole (entry : Entry String) : Prop :=
  entry.Formed QuotedText ∧ Passed entry.value

/-- A member without its name. -/
def Entry.unnamed (entry : Entry String) : Entry Unit :=
  ⟨(), entry.key, entry.before, entry.after, entry.value⟩

/-- An escape that is decoded is one or two that are passed over. -/
theorem EscapeText.passed {c : Char} {escape : List Char} (written : EscapeText c escape)
    (others : PassedCharacters text) : PassedCharacters ('\\' :: (escape ++ text)) := by
  cases written with
  | short listed => exact .escaped (.short listed) others
  | unit digits => exact .escaped (.unit digits) others
  | pair high low _ _ _ =>
    have second := PassedCharacters.escaped (.unit low) others
    have first := PassedCharacters.escaped (.unit high) second
    simpa using first

/-- Characters that are decoded are passed over. -/
theorem CharactersText.passed {characters raw : List Char}
    (written : CharactersText characters raw) : PassedCharacters raw := by
  induction written with
  | nil => exact .nil
  | raw quote backslash control _ ih => exact .raw quote backslash control ih
  | escaped escape _ ih => exact escape.passed ih

/-- A text that is decoded is passed over. -/
theorem QuotedText.passed {value : String} (written : QuotedText value text) :
    PassedText text := by
  obtain ⟨raw, characters, rfl⟩ := written
  exact ⟨raw, characters.passed, rfl⟩

/-- An object is passed over when its members are well formed and their values are passed over. -/
theorem passed_object {entries : List (Entry String)} (each : ∀ entry ∈ entries, entry.Whole)
    (listed : Listed '\x7d' true (entries.map (·.text)) behind) : Passed ('\x7b' :: behind) := by
  let parts : List (Entry Unit × Unit) := entries.map fun entry => (entry.unnamed, ())
  have texts : parts.map (·.1.text) = entries.map (·.text) := by
    simp [parts, Function.comp_def, Entry.unnamed, Entry.text]
  have written : ∀ part ∈ parts, part.1.Formed passing.Key ∧
      passing.Writes behind.length part.2 part.1.value := by
    intro part inside
    obtain ⟨entry, given, rfl⟩ := List.mem_map.1 inside
    obtain ⟨⟨key, before, after⟩, depth, layers⟩ := each entry given
    have shorter := listed.length_lt (List.mem_map_of_mem given)
    have fits : entry.value.length ≤ behind.length := by
      simp only [Entry.text, List.length_append, List.length_cons] at shorter
      omega
    exact ⟨⟨key.passed, before, after⟩, layers.of_length fits⟩
  rw [← texts] at listed
  exact ⟨behind.length + 1, .object written listed⟩

end Lists

section Values

/-- Texts are valid. -/
theorem quotedText_valid : Valid QuotedText :=
  fun _ _ written => PassedScalar.passed (.text written.passed)

/-- Integers are valid. -/
theorem integerText_valid : Valid IntegerText := by
  intro value text written
  obtain ⟨numeral, _, form, _⟩ := written.exists_number ""
  exact PassedScalar.passed (.number form)

/-- A decoded value without parts is passed over. -/
theorem ScalarText.passed {value : Value} {text : List Char} (written : ScalarText value text) :
    PassedScalar text := by
  cases written with
  | null => exact .null
  | yes => exact .yes
  | no => exact .no
  | number numeral _ => exact .number numeral
  | text quoted => exact .text quoted.passed

/-- Decoded values of any kind are valid. -/
theorem decoding_valid (depth : Nat) : Valid (decoding.Writes depth) := by
  induction depth with
  | zero =>
    intro value text written
    cases written with
    | scalar scalar => exact scalar.passed.passed
  | succ depth ih =>
    intro value text written
    cases written with
    | scalar scalar => exact scalar.passed.passed
    | sequence each listed =>
      refine passed_sequence ?_ listed
      intro item inside
      obtain ⟨part, given, rfl⟩ := List.mem_map.1 inside
      exact ih _ _ (each part given)
    | @object _ parts _ each listed =>
      have texts : parts.map (·.1.text) = (parts.map (·.1)).map (·.text) := by simp
      rw [texts] at listed
      refine passed_object ?_ listed
      intro entry inside
      obtain ⟨part, given, rfl⟩ := List.mem_map.1 inside
      exact ⟨(each part given).1, ih _ _ (each part given).2⟩

end Values

section Records

variable {α σ : Type} {Form : α → List Char → Prop}

/-- Values that may be absent are valid when those that are there are. -/
theorem Valid.optional (valid : Valid Form) : Valid (OptionalText Form) := by
  intro value text written
  cases value with
  | none =>
    have null : text = ['n', 'u', 'l', 'l'] := written
    rw [null]
    exact PassedScalar.passed .null
  | some value => exact valid value text written

/-- Sequences are valid when their items are. -/
theorem Valid.sequence (valid : Valid Form) : Valid (SequenceText Form) := by
  rintro values text ⟨parts, behind, each, listed, rfl, rfl⟩
  refine passed_sequence ?_ listed
  intro item inside
  obtain ⟨part, given, rfl⟩ := List.mem_map.1 inside
  exact valid _ _ (each part given)

/-- The values written at slots are valid. -/
def ValidSlots (slots : List (Slot σ)) : Prop :=
  ∀ slot ∈ slots, ∀ {record text}, slot.Written record text → Passed text

variable {slots : List (Slot σ)} {record : σ}

/-- The members of an object can be passed over when the values of its slots are valid. -/
theorem ObjectForm.whole {entries : List (Entry String)} (valid : ValidSlots slots)
    (form : ObjectForm slots record entries) {entry : Entry String} (inside : entry ∈ entries) :
    entry.Whole := by
  refine ⟨form.formed entry inside, ?_⟩
  by_cases known : entry.name ∈ slots.map (·.name)
  · obtain ⟨slot, placed, named⟩ := List.mem_map.1 known
    exact valid slot placed (form.written entry inside slot placed named)
  · exact form.passed entry inside known

/-- The values of a sequence of members are valid when those of its slots are. -/
theorem SequenceForm.valid {values : List (List Char)} (valid : ValidSlots slots)
    (form : SequenceForm slots record values) {value : List Char} (inside : value ∈ values) :
    Passed value := by
  obtain ⟨position, bound, rfl⟩ := List.mem_iff_getElem.1 inside
  have there : position < (slots.zip values).length := by
    rw [List.length_zip]
    exact Nat.lt_min.2 ⟨Nat.lt_of_lt_of_le bound form.fits, bound⟩
  have pair := List.getElem_mem there
  rw [List.getElem_zip] at pair
  exact valid _ (List.getElem_mem _) (form.written _ pair)

/-- Records are valid when the values of their slots are. -/
theorem recordText_valid (valid : ValidSlots slots) : Valid (RecordText slots) := by
  intro record text written
  cases written with
  | object form listed => exact passed_object (fun _ inside => form.whole valid inside) listed
  | sequence form listed => exact passed_sequence (fun _ inside => form.valid valid inside) listed

/-- Slots are valid when the values of their fillings are. -/
theorem validSlots_of_fillings {fillings : List (Filling σ)}
    (valid : ∀ filling ∈ fillings, Valid filling.Form) :
    ValidSlots (fillings.map (·.slot)) := by
  intro slot placed record text written
  obtain ⟨filling, given, rfl⟩ := List.mem_map.1 placed
  exact valid filling given _ _ written

end Records

end SarifDigest.Json
