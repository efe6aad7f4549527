import SarifDigest.Proofs.Json.Changes

/-!
# What can be changed

Whatever is read from a document can be changed in it. An item of a sequence can be changed where
it stands, and so can a member of a record, in either of the forms of records. A member can be set
to any value, also where the record has none: an object is given the member, and a sequence is made
long enough for it.
-/
namespace SarifDigest.Json

variable {position : Nat} {Change : List Char → List Char → Prop} {text behind : List Char}

/-- An element splits a list into what is in front of its position and what is behind. -/
theorem append_cons_of_getElem? {α : Type} {list : List α} {element : α}
    (there : list[position]? = some element) :
    ∃ before after, list = before ++ element :: after ∧ before.length = position := by
  obtain ⟨bound, rfl⟩ := List.getElem?_eq_some_iff.1 there
  refine ⟨list.take position, list.drop (position + 1), ?_, ?_⟩
  · rw [List.getElem_cons_drop, List.take_append_drop]
  · exact List.length_take_of_le (Nat.le_of_lt bound)

/-- An item of a sequence can be changed. -/
theorem exists_itemChange {items : List (List Char)} {old new : List Char}
    (each : ∀ item ∈ items, Passed item) (listed : Listed ']' true items behind)
    (there : items[position]? = some old) (change : Change old new) :
    ∃ text', ItemChange position Change ('[' :: behind) text' := by
  obtain ⟨before, after, rfl, place⟩ := append_cons_of_getElem? there
  obtain ⟨behind', listed'⟩ := exists_listed ']' true (before ++ new :: after)
  exact ⟨_, .item place each change listed listed'⟩

/-- A sequence that is read can be changed at the position of each of its values. -/
theorem SequenceText.exists_change {α : Type} {Form : α → List Char → Prop} {values : List α}
    {value : α} (valid : Valid Form) (written : SequenceText Form values text)
    (there : values[position]? = some value)
    (changes : ∀ old, Form value old → ∃ new, Change old new) :
    ∃ text', ItemChange position Change text text' := by
  obtain ⟨parts, behind, each, listed, rfl, rfl⟩ := written
  rw [List.getElem?_map, Option.map_eq_some_iff] at there
  obtain ⟨part, found, rfl⟩ := there
  obtain ⟨new, change⟩ := changes _ (each part (List.mem_of_getElem? found))
  have passed : ∀ item ∈ parts.map (·.2), Passed item := by
    intro item inside
    obtain ⟨other, given, rfl⟩ := List.mem_map.1 inside
    exact valid _ _ (each other given)
  have place : (parts.map (·.2))[position]? = some part.2 := by
    rw [List.getElem?_map, found, Option.map_some]
  exact exists_itemChange passed listed place change

section Names

/-- A name that needs no escapes. -/
def PlainName (name : String) : Prop :=
  ∀ c ∈ name.toList, c ≠ '"' ∧ c ≠ '\\' ∧ 0x20 ≤ c.toNat

instance (name : String) : Decidable (PlainName name) :=
  List.decidableBAll _ name.toList

/-- A name in quotes. -/
def quoted (name : String) : List Char :=
  '"' :: (name.toList ++ ['"'])

/-- Characters that need no escapes spell themselves. -/
theorem charactersText_self {characters : List Char}
    (plain : ∀ c ∈ characters, c ≠ '"' ∧ c ≠ '\\' ∧ 0x20 ≤ c.toNat) :
    CharactersText characters characters := by
  induction characters with
  | nil => exact .nil
  | cons c characters ih =>
    obtain ⟨⟨quote, backslash, control⟩, others⟩ := List.forall_mem_cons.1 plain
    exact .raw quote backslash control (ih others)

/-- Such a name is spelled by the quotes around it. -/
theorem PlainName.quotedText {name : String} (plain : PlainName name) :
    QuotedText name (quoted name) :=
  ⟨name.toList, charactersText_self plain, rfl⟩

end Names

section Members

variable {σ : Type} {slots : List (Slot σ)} {slot : Slot σ} {record : σ}
  (valid : ValidSlots slots) (there : slots[position]? = some slot)

include valid there

/-- An object that has a member can be changed there. -/
theorem ObjectForm.exists_change {entries : List (Entry String)}
    (form : ObjectForm slots record entries)
    (listed : Listed '\x7d' true (entries.map (·.text)) behind)
    (given : slot.name ∈ entries.map (·.name))
    (changes : ∀ old, slot.Written record old → ∃ new, Change old new) :
    ∃ text', MemberChange slot.name position Change ('\x7b' :: behind) text' := by
  obtain ⟨entry, inside, named⟩ := List.mem_map.1 given
  obtain ⟨before, after, rfl⟩ := List.append_of_mem inside
  have written := form.written entry inside slot (List.mem_of_getElem? there) named.symm
  obtain ⟨new, change⟩ := changes _ written
  let entry' : Entry String := { entry with value := new }
  have formed' : entry'.Formed QuotedText := by
    obtain ⟨key, before, after⟩ := form.formed entry inside
    exact ⟨key, before, after⟩
  obtain ⟨behind', listed'⟩ :=
    exists_listed '\x7d' true ((before ++ entry' :: after).map (·.text))
  exact ⟨_, .object (fun _ among => form.whole valid among) formed' named named change listed
    listed'⟩

/-- A sequence that is long enough for a member can be changed there. -/
theorem SequenceForm.exists_change {values : List (List Char)}
    (form : SequenceForm slots record values) (listed : Listed ']' true values behind)
    (long : position < values.length)
    (changes : ∀ old, slot.Written record old → ∃ new, Change old new) :
    ∃ text', MemberChange slot.name position Change ('[' :: behind) text' := by
  have place : values[position]? = some values[position] := List.getElem?_eq_getElem long
  have pair : (slots.zip values)[position]? = some (slot, values[position]) :=
    List.getElem?_zip_eq_some.2 ⟨there, place⟩
  obtain ⟨new, change⟩ := changes _ (form.written _ (List.mem_of_getElem? pair))
  obtain ⟨text', changed⟩ :=
    exists_itemChange (fun _ among => form.valid valid among) listed place change
  exact ⟨text', .sequence changed⟩

/-- A record that has a value for a member can be changed there. -/
theorem RecordText.exists_change (written : RecordText slots record text)
    (present : ¬ slot.Absent record)
    (changes : ∀ old, slot.Written record old → ∃ new, Change old new) :
    ∃ text', MemberChange slot.name position Change text text' := by
  cases written with
  | @object entries behind form listed =>
    apply form.exists_change valid there listed _ changes
    by_contra missing
    exact present (form.absent slot (List.mem_of_getElem? there) missing)
  | @sequence values behind form listed =>
    apply form.exists_change valid there listed _ changes
    by_contra short
    apply present
    apply form.absent
    apply List.mem_of_getElem? (i := position - values.length)
    rw [List.getElem?_drop, Nat.add_sub_cancel' (Nat.not_lt.1 short), there]

/-- A member of a record can be set to any value. -/
theorem RecordText.exists_set (plain : PlainName slot.name) (value : List Char)
    (written : RecordText slots record text) :
    ∃ text', MemberSet slot.name position value text text' := by
  have any : ∀ old, slot.Written record old → ∃ new, new = value := fun _ _ => ⟨value, rfl⟩
  cases written with
  | @object entries behind form listed =>
    by_cases given : slot.name ∈ entries.map (·.name)
    · obtain ⟨text', change⟩ := form.exists_change valid there listed given any
      exact ⟨text', .inl change⟩
    · -- The member is put behind all others.
      let entry : Entry String := ⟨slot.name, quoted slot.name, [], [], value⟩
      have formed : entry.Formed QuotedText := ⟨plain.quotedText, Spaces.nil, Spaces.nil⟩
      have others : ∀ other ∈ entries ++ [], other.Whole ∧ other.name ≠ slot.name := by
        intro other among
        rw [List.append_nil] at among
        exact ⟨form.whole valid among, fun same => given (List.mem_map.2 ⟨other, among, same⟩)⟩
      obtain ⟨behind', listed'⟩ := exists_listed '\x7d' true ((entries ++ [entry]).map (·.text))
      rw [← List.append_nil entries] at listed
      exact ⟨_, .inr (.object others formed rfl rfl listed listed')⟩
  | @sequence values behind form listed =>
    by_cases long : position < values.length
    · obtain ⟨text', change⟩ := form.exists_change valid there listed long any
      exact ⟨text', .inl change⟩
    · obtain ⟨behind', listed'⟩ := exists_listed ']' true (padded position values ++ [value])
      exact ⟨_, .inr (.sequence (fun _ among => form.valid valid among) (Nat.not_lt.1 long) listed
        listed')⟩

end Members

/-- A record with a sequence as one of its members can be changed at the items of the sequence. -/
theorem RecordText.exists_itemChange {σ α : Type} {fillings : List (Filling σ)} {record : σ}
    {reader : Reader α} {Form : α → List Char → Prop} {name : String}
    {put : Option (List α) → σ → σ} {get : σ → Option (List α)}
    {get_put : ∀ values record, get (put values record) = values} {index : Nat} {values : List α}
    {value : α} (exact : reader.Exact Form)
    (there : fillings[position]? = some (.optional name (Reader.sequence_exact exact)
      Reader.sequence_neverNull put get get_put))
    (valid : ∀ filling ∈ fillings, Valid filling.Form) (items : Valid Form)
    (written : RecordText (fillings.map (·.slot)) record text) (given : get record = some values)
    (inside : values[index]? = some value)
    (changes : ∀ old, Form value old → ∃ new, Change old new) :
    ∃ text', MemberChange name position (ItemChange index Change) text text' := by
  have place := congrArg (Option.map Filling.slot) there
  rw [← List.getElem?_map, Option.map_some] at place
  refine written.exists_change (validSlots_of_fillings valid) place ?present ?changes
  case present =>
    intro absent
    have none : get record = none := absent
    rw [none] at given
    contradiction
  case changes =>
    intro old form
    have form : OptionalText (SequenceText Form) (get record) old := form
    rw [given] at form
    exact SequenceText.exists_change items form inside changes

end SarifDigest.Json
