import SarifDigest.Proofs.Json.Splitting

/-!
# Changes inside documents

A value may be changed where it stands: an item of a sequence, or a member of a record in either of
its forms. A member that an object lacks may be added to it. Whatever else the text says it says as
before, so the values that the changed text is written for are those it was written for, with the
new part in place of the old one.
-/
namespace SarifDigest.Json

section Relations

/-- Sequences with the same values but for the one at a position, which is changed. The space
between the values may be another. -/
inductive ItemChange (position : Nat) (Change : List Char → List Char → Prop) :
    List Char → List Char → Prop
  | item {before after : List (List Char)} {item item' behind behind' : List Char} :
      before.length = position → (∀ other ∈ before ++ item :: after, Passed other) →
      Change item item' → Listed ']' true (before ++ item :: after) behind →
      Listed ']' true (before ++ item' :: after) behind' →
      ItemChange position Change ('[' :: behind) ('[' :: behind')

/-- Records with the same members but for one, whose value is changed. In an object it is known by
its name, which may be spelled anew, and in a sequence by its position. -/
inductive MemberChange (name : String) (position : Nat) (Change : List Char → List Char → Prop) :
    List Char → List Char → Prop
  | object {before after : List (Entry String)} {entry entry' : Entry String}
      {behind behind' : List Char} :
      (∀ other ∈ before ++ entry :: after, other.Whole) → entry'.Formed QuotedText →
      entry.name = name → entry'.name = name → Change entry.value entry'.value →
      Listed '\x7d' true ((before ++ entry :: after).map (·.text)) behind →
      Listed '\x7d' true ((before ++ entry' :: after).map (·.text)) behind' →
      MemberChange name position Change ('\x7b' :: behind) ('\x7b' :: behind')
  | sequence {text text' : List Char} :
      ItemChange position Change text text' → MemberChange name position Change text text'

/-- The text of a value that is absent. -/
def nullText : List Char :=
  ['n', 'u', 'l', 'l']

/-- The texts of a sequence, and behind them as many nulls as there are missing up to a length. -/
def padded (length : Nat) (items : List (List Char)) : List (List Char) :=
  items ++ List.replicate (length - items.length) nullText

/-- Records with the same members, and one more. In an object no other member has its name. A
sequence ends in front of its position, and the members that are missing up to there are null. -/
inductive MemberAdded (name : String) (position : Nat) (value : List Char) :
    List Char → List Char → Prop
  | object {before after : List (Entry String)} {entry : Entry String}
      {behind behind' : List Char} :
      (∀ other ∈ before ++ after, other.Whole ∧ other.name ≠ name) → entry.Formed QuotedText →
      entry.name = name → entry.value = value →
      Listed '\x7d' true ((before ++ after).map (·.text)) behind →
      Listed '\x7d' true ((before ++ entry :: after).map (·.text)) behind' →
      MemberAdded name position value ('\x7b' :: behind) ('\x7b' :: behind')
  | sequence {items : List (List Char)} {behind behind' : List Char} :
      (∀ item ∈ items, Passed item) → items.length ≤ position → Listed ']' true items behind →
      Listed ']' true (padded position items ++ [value]) behind' →
      MemberAdded name position value ('[' :: behind) ('[' :: behind')

/-- Records with the same members, except that one is given a value which it may have had no value
in place of. -/
def MemberSet (name : String) (position : Nat) (value text text' : List Char) : Prop :=
  MemberChange name position (fun _ new => new = value) text text' ∨
    MemberAdded name position value text text'

/-- Documents whose value is changed. The space around it may be another. -/
def DocumentChange (Change : List Char → List Char → Prop) (document document' : String) : Prop :=
  ∃ before text behind before' text' behind', Spaces before ∧ Spaces behind ∧ Spaces before' ∧
    Spaces behind' ∧ Change text text' ∧ document.toList = before ++ (text ++ behind) ∧
    document'.toList = before' ++ (text' ++ behind')

/-- What is changed can be passed over afterwards. -/
def Passes (Change : List Char → List Char → Prop) : Prop :=
  ∀ old new, Change old new → Passed new

end Relations

section Places

variable {α : Type*} {P : α → Prop} {before after : List α} {item new : α}

/-- The members of a list are one of them and the others. -/
theorem mem_append_cons_iff {other : α} :
    other ∈ before ++ item :: after ↔ other = item ∨ other ∈ before ++ after :=
  List.perm_middle.mem_iff.trans List.mem_cons

/-- What holds of all items holds of all but one. -/
theorem forall_others (each : ∀ other ∈ before ++ item :: after, P other) :
    ∀ other ∈ before ++ after, P other :=
  fun other inside => each other (mem_append_cons_iff.2 (.inr inside))

/-- What holds of an item and all others holds of all. -/
theorem forall_inserted (each : ∀ other ∈ before ++ after, P other) (given : P new) :
    ∀ other ∈ before ++ new :: after, P other := by
  intro other inside
  rcases mem_append_cons_iff.1 inside with rfl | inside
  · exact given
  · exact each other inside

/-- What holds of all items still holds when one gives way to another of which it holds. -/
theorem forall_replaced (each : ∀ other ∈ before ++ item :: after, P other) (given : P new) :
    ∀ other ∈ before ++ new :: after, P other :=
  forall_inserted (forall_others each) given

end Places

section Validity

variable {name : String} {position : Nat} {value text text' : List Char}
  {Change : List Char → List Char → Prop} (passes : Passes Change)

/-- A null can be passed over. -/
theorem passed_nullText : Passed nullText :=
  PassedScalar.passed .null

/-- A padded sequence has the length up to which it is padded. -/
theorem length_padded {length : Nat} {items : List (List Char)} (short : items.length ≤ length) :
    (padded length items).length = length := by
  simp only [padded, List.length_append, List.length_replicate]
  omega

/-- A sequence can be padded up to a position and further. -/
theorem padded_succ {length : Nat} {items : List (List Char)} (short : items.length ≤ length) :
    padded (length + 1) items = padded length items ++ [nullText] := by
  rw [padded, padded, Nat.succ_sub short, List.replicate_succ', List.append_assoc]

/-- The texts of a padded sequence can be passed over. -/
theorem passed_padded {length : Nat} {items : List (List Char)}
    (each : ∀ item ∈ items, Passed item) : ∀ item ∈ padded length items, Passed item := by
  intro item inside
  rcases List.mem_append.1 inside with inside | inside
  · exact each item inside
  · rw [List.eq_of_mem_replicate inside]
    exact passed_nullText

/-- A record whose members can be changed can be passed over. -/
theorem MemberChange.passed_before (change : MemberChange name position Change text text') :
    Passed text := by
  cases change with
  | object whole _ _ _ _ listed _ => exact passed_object whole listed
  | sequence change =>
    cases change with
    | item _ valid _ listed _ => exact passed_sequence valid listed

include passes in
/-- A sequence with a changed item can be passed over when the new item can. -/
theorem ItemChange.passed (change : ItemChange position Change text text') : Passed text' := by
  cases change with
  | item _ valid changed _ listed' =>
    exact passed_sequence (forall_replaced valid (passes _ _ changed)) listed'

include passes in
/-- A record with a changed member can be passed over when the new value can. -/
theorem MemberChange.passed (change : MemberChange name position Change text text') :
    Passed text' := by
  cases change with
  | object whole formed _ _ changed _ listed' =>
    exact passed_object (forall_replaced whole ⟨formed, passes _ _ changed⟩) listed'
  | sequence change => exact change.passed passes

/-- A record with a member set can be passed over when its value can. -/
theorem MemberSet.passed (valid : Passed value) (set : MemberSet name position value text text') :
    Passed text' := by
  rcases set with change | added
  · refine change.passed ?_
    rintro _ new rfl
    exact valid
  · cases added with
    | object others formed _ given _ listed' =>
      have whole : ∀ other ∈ _ ++ _, Entry.Whole other :=
        fun other inside => (others other inside).1
      exact passed_object (forall_inserted whole ⟨formed, given ▸ valid⟩) listed'
    | sequence each _ _ listed' =>
      refine passed_sequence ?_ listed'
      exact List.forall_mem_append.2 ⟨passed_padded each, List.forall_mem_singleton.2 valid⟩

end Validity

section Items

variable {α β : Type} {R : α → β → Prop}

/-- Lists are related when they are at a place, in front of it and behind it. -/
theorem forall₂_append_cons_iff {values : List α} {before after : List β} {item : β} :
    List.Forall₂ R values (before ++ item :: after) ↔
      ∃ front value back, values = front ++ value :: back ∧ List.Forall₂ R front before ∧
        R value item ∧ List.Forall₂ R back after := by
  induction before generalizing values with
  | nil =>
    rw [List.nil_append, List.forall₂_cons_right_iff]
    constructor
    · rintro ⟨value, back, related, rest, rfl⟩
      exact ⟨[], value, back, rfl, .nil, related, rest⟩
    · rintro ⟨front, value, back, rfl, none, related, rest⟩
      cases none
      exact ⟨value, back, related, rest, rfl⟩
  | cons first before ih =>
    rw [List.cons_append, List.forall₂_cons_right_iff]
    constructor
    · rintro ⟨value, others, related, rest, rfl⟩
      obtain ⟨front, value', back, rfl, inFront, at_, behind⟩ := ih.1 rest
      exact ⟨value :: front, value', back, rfl, .cons related inFront, at_, behind⟩
    · rintro ⟨front, value, back, rfl, inFront, at_, behind⟩
      cases inFront with
      | cons related inFront =>
        exact ⟨_, _, related, ih.2 ⟨_, _, _, rfl, inFront, at_, behind⟩, rfl⟩

variable {Form : α → List Char → Prop} {reader : Reader α} {position : Nat}
  {Change : List Char → List Char → Prop} {text text' : List Char} {values : List α}

/-- A text is written for one list of values when each of its items is written for one value. -/
theorem forall₂_unique (exact : reader.Exact Form) {others : List α} {items : List (List Char)}
    (written : List.Forall₂ Form values items) (written' : List.Forall₂ Form others items) :
    values = others := by
  induction written generalizing others with
  | nil => exact (List.forall₂_nil_right_iff.1 written').symm
  | cons form _ ih =>
    obtain ⟨value, rest, form', onward, rfl⟩ := List.forall₂_cons_right_iff.1 written'
    rw [(exact.unique form form' .nil .nil rfl).1, ih onward]

/-- A text that starts with a bracket is not written for a value that is missing. -/
theorem optionalText_iff_of_bracket {given : Option α} (starts : text.head? = some '[') :
    OptionalText Form given text ↔ ∃ value, given = some value ∧ Form value text := by
  cases given with
  | none =>
    have null : text ≠ ['n', 'u', 'l', 'l'] := by
      rintro rfl
      contradiction
    simpa [OptionalText] using null
  | some value => simp [OptionalText]

/-- A sequence with a changed item is written for the values that it was written for, with one that
the new item is written for in place of the old one. -/
theorem ItemChange.sequenceText_iff (exact : reader.Exact Form) (valid : Valid Form)
    (passes : Passes Change)
    (change : ItemChange position Change text text') (written : SequenceText Form values text) :
    ∃ value old new, values[position]? = some value ∧ Form value old ∧ Change old new ∧
      ∀ values', SequenceText Form values' text' ↔
        ∃ value', Form value' new ∧ values' = values.set position value' := by
  cases change with
  | @item before after old new behind behind' there whole changed listed listed' =>
    have whole' := forall_replaced whole (passes _ _ changed)
    rw [Json.sequenceText_iff valid whole listed, forall₂_append_cons_iff] at written
    obtain ⟨front, value, back, rfl, inFront, form, inBack⟩ := written
    have place : front.length = position := inFront.length_eq.trans there
    refine ⟨value, old, new, by simp [← place], form, changed, fun values' => ?_⟩
    rw [Json.sequenceText_iff valid whole' listed', forall₂_append_cons_iff]
    constructor
    · rintro ⟨front', value', back', rfl, inFront', form', inBack'⟩
      rw [forall₂_unique exact inFront' inFront, forall₂_unique exact inBack' inBack]
      exact ⟨value', form', by simp [← place]⟩
    · rintro ⟨value', form', rfl⟩
      exact ⟨front, value', back, by simp [← place], inFront, form', inBack⟩

end Items

section Members

variable {σ : Type} {fillings : List (Filling σ)} {filling : Filling σ} {blank record : σ}

/-- Objects are written for the records that the values of their members put together. -/
theorem objectForm_iff_assigned (complete : Complete blank fillings)
    {entries : List (Entry String)} :
    ObjectForm (fillings.map (·.slot)) record entries ↔
      (∀ entry ∈ entries, entry.Formed QuotedText) ∧
      (∀ entry ∈ entries, entry.name ∉ fillings.map (·.name) → Passed entry.value) ∧
      ((assignments fillings entries).map (·.1.name)).Nodup ∧
      Assigned (assignments fillings entries) blank record := by
  rw [objectForm_iff complete, chain_fills_iff]
  simp

/-- A record has what texts say for all fillings but one: the values that are written, and those of
the blank record where none is. -/
structure Elsewhere (fillings : List (Filling σ)) (blank : σ) (filling : Filling σ)
    (pairs : List (Filling σ × List Char)) (record : σ) : Prop where
  written : ∀ pair ∈ pairs, pair.1.Form (pair.1.get record) pair.2
  blank : ∀ other ∈ fillings, other.name ≠ filling.name → other.name ∉ pairs.map (·.1.name) →
    other.get record = other.get blank

section Elsewhere

variable {pairs before after : List (Filling σ × List Char)} {text : List Char}
  (complete : Complete blank fillings) (inside : filling ∈ fillings)

include complete inside

/-- Such a record is still one when the value of that filling is put into it. -/
theorem Elsewhere.put (known : ∀ pair ∈ pairs, pair.1 ∈ fillings)
    (apart : filling.name ∉ pairs.map (·.1.name)) (value : filling.Value)
    (elsewhere : Elsewhere fillings blank filling pairs record) :
    Elsewhere fillings blank filling pairs (filling.put value record) where
  written := by
    intro pair given
    have different : pair.1.name ≠ filling.name :=
      fun same => apart (List.mem_map.2 ⟨pair, given, same⟩)
    rw [complete.frame filling inside pair.1 (known pair given) different]
    exact elsewhere.written pair given
  blank := by
    intro other member different missing
    rw [complete.frame filling inside other member different]
    exact elsewhere.blank other member different missing

/-- Two such records differ in the value of that filling at most. -/
theorem Elsewhere.eq_put (known : ∀ pair ∈ pairs, pair.1 ∈ fillings) {other : σ}
    (elsewhere : Elsewhere fillings blank filling pairs record)
    (elsewhere' : Elsewhere fillings blank filling pairs other) :
    other = filling.put (filling.get other) record := by
  apply complete.determined
  intro part member
  by_cases same : part.name = filling.name
  · rw [complete.eq_of_name member inside same, filling.get_put]
  · rw [complete.frame filling inside part member same]
    by_cases given : part.name ∈ pairs.map (·.1.name)
    · obtain ⟨pair, listed, named⟩ := List.mem_map.1 given
      have form := elsewhere.written pair listed
      have form' := elsewhere'.written pair listed
      rw [complete.eq_of_name (known pair listed) member named] at form form'
      exact (part.exact.unique form' form .nil .nil rfl).1
    · rw [elsewhere.blank part member same given, elsewhere'.blank part member same given]

/-- Values are put together to a record when it has the value of one filling and what is said for
all others. -/
theorem assigned_iff_elsewhere (known : ∀ pair ∈ before ++ after, pair.1 ∈ fillings)
    (once : ((before ++ (filling, text) :: after).map (·.1.name)).Nodup) :
    Assigned (before ++ (filling, text) :: after) blank record ↔
      filling.Form (filling.get record) text ∧
        Elsewhere fillings blank filling (before ++ after) record := by
  have names {name : String} :
      name ∈ (before ++ (filling, text) :: after).map (·.1.name) ↔
        name = filling.name ∨ name ∈ (before ++ after).map (·.1.name) := by
    simp only [List.map_append, List.map_cons, List.mem_append, List.mem_cons]
    tauto
  have all : ∀ pair ∈ before ++ (filling, text) :: after, pair.1 ∈ fillings :=
    forall_inserted known inside
  rw [assigned_iff complete all once]
  simp only [mem_append_cons_iff, names, not_or, and_imp, forall_eq_or_imp]
  constructor
  · rintro ⟨⟨form, written⟩, rest⟩
    exact ⟨form, written, rest⟩
  · rintro ⟨form, written, rest⟩
    exact ⟨⟨form, written⟩, rest⟩

end Elsewhere

/-- With another value for one filling a text is written for the record that this value is put into,
and no other. -/
theorem Elsewhere.assigned_iff (complete : Complete blank fillings) (inside : filling ∈ fillings)
    {before after : List (Filling σ × List Char)} {new : List Char}
    (known : ∀ pair ∈ before ++ after, pair.1 ∈ fillings)
    (once : ((before ++ (filling, new) :: after).map (·.1.name)).Nodup)
    (elsewhere : Elsewhere fillings blank filling (before ++ after) record) {record' : σ} :
    Assigned (before ++ (filling, new) :: after) blank record' ↔
      ∃ value, filling.Form value new ∧ record' = filling.put value record := by
  rw [assigned_iff_elsewhere complete inside known once]
  constructor
  · rintro ⟨form, elsewhere'⟩
    exact ⟨_, form, elsewhere.eq_put complete inside known elsewhere'⟩
  · rintro ⟨value, form, rfl⟩
    have apart : filling.name ∉ (before ++ after).map (·.1.name) := by
      rw [List.map_append, List.map_cons, List.nodup_middle, List.nodup_cons,
        ← List.map_append] at once
      exact once.1
    refine ⟨?_, elsewhere.put complete inside known apart value⟩
    rw [filling.get_put]
    exact form

section Objects

variable {before after : List (Entry String)} {entry : Entry String}

/-- Only fillings are assigned the values of members. -/
theorem known_of_assignments (complete : Complete blank fillings)
    (before after : List (Entry String)) :
    ∀ pair ∈ assignments fillings before ++ assignments fillings after, pair.1 ∈ fillings := by
  intro pair given
  rcases List.mem_append.1 given with given | given
  · exact ((mem_assignments complete).1 given).1
  · exact ((mem_assignments complete).1 given).1

variable (complete : Complete blank fillings) (inside : filling ∈ fillings)

include complete inside

/-- A member of the name of a filling is assigned to it, between what the others are assigned to. -/
theorem assignments_append_cons (named : entry.name = filling.name) :
    assignments fillings (before ++ entry :: after) =
      assignments fillings before ++ (filling, entry.value) :: assignments fillings after := by
  have found := complete.find?_eq_some_iff.2 ⟨inside, named.symm⟩
  simp [assignments, found]

/-- An object with a member of the name of a filling is written for the record that its value is put
into, if it says the same of the record elsewhere. -/
theorem Elsewhere.objectForm_iff (whole : ∀ other ∈ before ++ after, other.Whole)
    (formed : entry.Formed QuotedText) (named : entry.name = filling.name)
    (once : ((assignments fillings (before ++ entry :: after)).map (·.1.name)).Nodup)
    (elsewhere : Elsewhere fillings blank filling
      (assignments fillings before ++ assignments fillings after) record) {record' : σ} :
    ObjectForm (fillings.map (·.slot)) record' (before ++ entry :: after) ↔
      ∃ value, filling.Form value entry.value ∧ record' = filling.put value record := by
  have known := known_of_assignments complete before after
  have formedAll : ∀ other ∈ before ++ entry :: after, other.Formed QuotedText :=
    forall_inserted (fun other given => (whole other given).1) formed
  have passedAll : ∀ other ∈ before ++ entry :: after,
      other.name ∉ fillings.map (·.name) → Passed other.value := by
    refine forall_inserted (fun other given _ => (whole other given).2) fun unknown => ?_
    rw [named] at unknown
    exact absurd (List.mem_map_of_mem inside) unknown
  rw [objectForm_iff_assigned complete, and_iff_right formedAll, and_iff_right passedAll,
    and_iff_right once]
  rw [assignments_append_cons complete inside named] at once ⊢
  exact elsewhere.assigned_iff complete inside known once

end Objects

section Sequences

variable {before after : List (List Char)} {text : List Char}

/-- The value at the position of a filling is assigned to it, between what the others are assigned
to. -/
theorem zip_append_cons (there : fillings[before.length]? = some filling) :
    fillings.zip (before ++ text :: after) =
      (fillings.take before.length).zip before ++
        (filling, text) :: (fillings.drop (before.length + 1)).zip after := by
  obtain ⟨bound, same⟩ := List.getElem?_eq_some_iff.1 there
  have split : fillings =
      fillings.take before.length ++ filling :: fillings.drop (before.length + 1) := by
    rw [← same, List.getElem_cons_drop, List.take_append_drop]
  have lengths : (fillings.take before.length).length = before.length :=
    List.length_take_of_le (Nat.le_of_lt bound)
  conv_lhs => rw [split]
  rw [List.zip_append lengths, List.zip_cons_cons]

/-- Only fillings are assigned the values of a sequence. -/
theorem known_of_zip {position : Nat} :
    ∀ pair ∈ (fillings.take position).zip before ++ (fillings.drop (position + 1)).zip after,
      pair.1 ∈ fillings := by
  intro pair given
  rcases List.mem_append.1 given with given | given
  · exact List.mem_of_mem_take (List.of_mem_zip given).1
  · exact List.mem_of_mem_drop (List.of_mem_zip given).1

/-- No filling is assigned two values of a sequence. -/
theorem nodup_zip_names (complete : Complete blank fillings) (values : List (List Char)) :
    ((fillings.zip values).map (·.1.name)).Nodup := by
  rw [zip_names, List.map_take]
  exact complete.distinct.sublist (List.take_sublist _ _)

end Sequences

section Records

variable {position : Nat} {value text text' : List Char} {Change : List Char → List Char → Prop}

/-- A record with a changed member is written for the records that it was written for, with a value
that the new text is written for put in place of the old one. -/
theorem MemberChange.recordText_iff (complete : Complete blank fillings)
    (there : fillings[position]? = some filling)
    (valid : ∀ filling ∈ fillings, Valid filling.Form)
    (passes : Passes Change)
    (change : MemberChange filling.name position Change text text')
    (written : RecordText (fillings.map (·.slot)) record text) :
    ∃ old new, filling.Form (filling.get record) old ∧ Change old new ∧
      ∀ record', RecordText (fillings.map (·.slot)) record' text' ↔
        ∃ value, filling.Form value new ∧ record' = filling.put value record := by
  have inside : filling ∈ fillings := List.mem_of_getElem? there
  have slots := validSlots_of_fillings valid
  cases change with
  | @object before after entry entry' behind behind' whole formed named named' changed listed
      listed' =>
    have whole' : ∀ other ∈ before ++ entry' :: after, other.Whole :=
      forall_replaced whole ⟨formed, passes _ _ changed⟩
    rw [recordText_object_iff slots whole listed, objectForm_iff_assigned complete] at written
    obtain ⟨_, _, once, assigned⟩ := written
    have known := known_of_assignments complete before after
    rw [assignments_append_cons complete inside named] at once assigned
    obtain ⟨form, elsewhere⟩ := (assigned_iff_elsewhere complete inside known once).1 assigned
    refine ⟨_, _, form, changed, fun record' => ?_⟩
    rw [recordText_object_iff slots whole' listed']
    apply elsewhere.objectForm_iff complete inside (forall_others whole) formed named'
    rw [assignments_append_cons complete inside named']
    simpa using once
  | sequence change =>
    cases change with
    | @item before after old new behind behind' place whole changed listed listed' =>
      subst place
      have whole' := forall_replaced whole (passes _ _ changed)
      have once := nodup_zip_names complete (before ++ old :: after)
      have once' := nodup_zip_names complete (before ++ new :: after)
      rw [recordText_sequence_iff slots whole listed, sequenceForm_iff complete] at written
      obtain ⟨fits, assigned⟩ := written
      have fits' : (before ++ new :: after).length ≤ fillings.length := by simpa using fits
      rw [zip_append_cons there] at once once' assigned
      obtain ⟨form, elsewhere⟩ :=
        (assigned_iff_elsewhere complete inside known_of_zip once).1 assigned
      refine ⟨old, new, form, changed, fun record' => ?_⟩
      rw [recordText_sequence_iff slots whole' listed', sequenceForm_iff complete,
        and_iff_right fits', zip_append_cons there]
      exact elsewhere.assigned_iff complete inside known_of_zip once'

/-- A sequence of members is written for the same record when it is padded, if nulls write values
that are absent. -/
theorem SequenceForm.padded {slots : List (Slot σ)} {values : List (List Char)} {length : Nat}
    (nulls : ∀ slot ∈ slots.take length, slot.Absent record → slot.Written record nullText)
    (bound : length ≤ slots.length) (form : SequenceForm slots record values) :
    SequenceForm slots record (padded length values) where
  fits := by
    have fits := form.fits
    simp only [Json.padded, List.length_append, List.length_replicate]
    omega
  written := by
    rintro ⟨slot, value⟩ inside
    obtain ⟨place, there⟩ := List.mem_iff_getElem?.1 inside
    obtain ⟨slotThere, valueThere⟩ := List.getElem?_zip_eq_some.1 there
    by_cases early : place < values.length
    · rw [Json.padded, List.getElem?_append_left early] at valueThere
      have pair := List.getElem?_zip_eq_some.2 ⟨slotThere, valueThere⟩
      exact form.written _ (List.mem_of_getElem? pair)
    · rw [Json.padded, List.getElem?_append_right (Nat.not_lt.1 early), List.getElem?_replicate,
        Option.ite_none_right_eq_some] at valueThere
      obtain ⟨late, same⟩ := valueThere
      cases same
      have among : slot ∈ slots.take length := by
        apply List.mem_of_getElem? (i := place)
        rw [List.getElem?_take_of_lt (by omega), slotThere]
      have missing : slot ∈ slots.drop values.length := by
        apply List.mem_of_getElem? (i := place - values.length)
        rw [List.getElem?_drop, Nat.add_sub_cancel' (Nat.not_lt.1 early), slotThere]
      exact nulls slot among (form.absent slot missing)
  absent := by
    intro slot inside
    have later : values.length ≤ (Json.padded length values).length := by
      simp [Json.padded]
    exact form.absent slot (List.drop_subset_drop_left slots later inside)

/-- A record with an added member is written for the record that its value is put into. -/
theorem MemberAdded.recordText_iff (complete : Complete blank fillings)
    (there : fillings[position]? = some filling)
    (valid : ∀ filling ∈ fillings, Valid filling.Form)
    (nulls : ∀ filling ∈ fillings.take (position + 1), filling.Form filling.absent nullText)
    (passed : Passed value) (added : MemberAdded filling.name position value text text')
    (written : RecordText (fillings.map (·.slot)) record text) {record' : σ} :
    RecordText (fillings.map (·.slot)) record' text' ↔
      ∃ given, filling.Form given value ∧ record' = filling.put given record := by
  have slots := validSlots_of_fillings valid
  have inside : filling ∈ fillings := List.mem_of_getElem? there
  cases added with
  | @object before after entry behind behind' others formed named given listed listed' =>
    have whole : ∀ other ∈ before ++ after, other.Whole := fun other given => (others other given).1
    have whole' : ∀ other ∈ before ++ entry :: after, other.Whole :=
      forall_inserted whole ⟨formed, given ▸ passed⟩
    rw [recordText_object_iff slots whole listed, objectForm_iff_assigned complete] at written
    obtain ⟨_, _, once, assigned⟩ := written
    have known := known_of_assignments complete before after
    have split : assignments fillings (before ++ after) =
        assignments fillings before ++ assignments fillings after := List.filterMap_append
    have apart : filling.name ∉
        (assignments fillings before ++ assignments fillings after).map (·.1.name) := by
      rw [← split, assignments_names]
      intro listed
      obtain ⟨other, given, same⟩ := List.mem_map.1 (List.mem_filter.1 listed).1
      exact (others other given).2 same
    rw [split] at once assigned
    obtain ⟨forms, rest⟩ := (assigned_iff complete known once).1 assigned
    have elsewhere : Elsewhere fillings blank filling
        (assignments fillings before ++ assignments fillings after) record :=
      ⟨forms, fun other member _ missing => rest other member missing⟩
    rw [recordText_object_iff slots whole' listed', ← given]
    apply elsewhere.objectForm_iff complete inside whole formed named
    rw [assignments_append_cons complete inside named, List.map_append, List.map_cons,
      List.nodup_middle, ← List.map_append, List.nodup_cons]
    exact ⟨apart, once⟩
  | @sequence items behind behind' each short listed listed' =>
    -- The sequence is padded with one more null first, which gives way to the value then.
    have bound : position + 1 ≤ (fillings.map (·.slot)).length := by
      rw [List.length_map]
      exact (List.getElem?_eq_some_iff.1 there).1
    have absent : ∀ slot ∈ (fillings.map (·.slot)).take (position + 1),
        slot.Absent record → slot.Written record nullText := by
      intro slot among missing
      rw [← List.map_take] at among
      obtain ⟨other, given, rfl⟩ := List.mem_map.1 among
      have none : other.get record = other.absent := missing
      have form := nulls other given
      rwa [← none] at form
    rw [recordText_sequence_iff slots each listed] at written
    have longer := written.padded absent bound
    rw [padded_succ short] at longer
    obtain ⟨between, middle⟩ := exists_listed ']' true (padded position items ++ [nullText])
    have whole : ∀ item ∈ padded position items ++ [nullText], Passed item :=
      List.forall_mem_append.2 ⟨passed_padded each, List.forall_mem_singleton.2 passed_nullText⟩
    have change : MemberChange filling.name position (fun _ new => new = value)
        ('[' :: between) ('[' :: behind') :=
      .sequence (.item (length_padded short) whole rfl middle listed')
    have passes : Passes fun _ new => new = value := by
      rintro _ new rfl
      exact passed
    obtain ⟨_, _, _, rfl, records⟩ :=
      change.recordText_iff complete there valid passes (.sequence longer middle)
    exact records record'

/-- A record with a member set is written for the record that its value is put into. -/
theorem MemberSet.recordText_iff (complete : Complete blank fillings)
    (there : fillings[position]? = some filling)
    (valid : ∀ filling ∈ fillings, Valid filling.Form)
    (nulls : ∀ filling ∈ fillings.take (position + 1), filling.Form filling.absent nullText)
    (passed : Passed value) (set : MemberSet filling.name position value text text')
    (written : RecordText (fillings.map (·.slot)) record text) {record' : σ} :
    RecordText (fillings.map (·.slot)) record' text' ↔
      ∃ given, filling.Form given value ∧ record' = filling.put given record := by
  rcases set with change | added
  · have passes : Passes fun _ new => new = value := by
      rintro _ new rfl
      exact passed
    obtain ⟨old, new, _, rfl, changed⟩ :=
      change.recordText_iff complete there valid passes written
    exact changed record'
  · exact added.recordText_iff complete there valid nulls passed written

/-- A record with a changed item in the sequence that one of its members is, is written for the
records that it was written for, with a value that the new item is written for in the place of the
old one. -/
theorem MemberChange.items_iff {α : Type} {reader : Reader α} {Form : α → List Char → Prop}
    {name : String} {put : Option (List α) → σ → σ} {get : σ → Option (List α)}
    {get_put : ∀ values record, get (put values record) = values} {index : Nat}
    (exact : reader.Exact Form) (complete : Complete blank fillings)
    (there : fillings[position]? = some (.optional name (Reader.sequence_exact exact)
      Reader.sequence_neverNull put get get_put))
    (valid : ∀ filling ∈ fillings, Valid filling.Form) (items : Valid Form)
    (passes : Passes Change)
    (change : MemberChange name position (ItemChange index Change) text text')
    (written : RecordText (fillings.map (·.slot)) record text) :
    ∃ values value old new, get record = some values ∧ values[index]? = some value ∧
      Form value old ∧ Change old new ∧
      ∀ record', RecordText (fillings.map (·.slot)) record' text' ↔
        ∃ value', Form value' new ∧ record' = put (some (values.set index value')) record := by
  obtain ⟨old, new, form, changed, records⟩ := MemberChange.recordText_iff complete there valid
    (fun _ _ changed => changed.passed passes) change written
  have form : OptionalText (SequenceText Form) (get record) old := form
  have records : ∀ record', RecordText (fillings.map (·.slot)) record' text' ↔
      ∃ values, OptionalText (SequenceText Form) values new ∧ record' = put values record := records
  -- Neither the old sequence nor the new one is null.
  have brackets : old.head? = some '[' ∧ new.head? = some '[' := by
    cases changed
    exact ⟨rfl, rfl⟩
  obtain ⟨values, same, given⟩ := (optionalText_iff_of_bracket brackets.1).1 form
  obtain ⟨value, item, item', there, itemForm, itemChanged, sequences⟩ :=
    changed.sequenceText_iff exact items passes given
  refine ⟨values, value, item, item', same, there, itemForm, itemChanged, fun record' => ?_⟩
  simp only [records, optionalText_iff_of_bracket brackets.2, sequences]
  constructor
  · rintro ⟨_, ⟨_, rfl, value', form', rfl⟩, rfl⟩
    exact ⟨value', form', rfl⟩
  · rintro ⟨value', form', rfl⟩
    exact ⟨_, ⟨_, rfl, value', form', rfl⟩, rfl⟩

end Records

section Documents

variable {α : Type} {Form : α → List Char → Prop} {value : α} {document : String}
  {before text behind : List Char}

/-- A document with nothing but space around a value is written for what this value is written
for. -/
theorem documentText_iff (valid : Valid Form) (passed : Passed text) (blank : Spaces before)
    (blank' : Spaces behind) (whole : document.toList = before ++ (text ++ behind)) :
    DocumentText Form value document ↔ Form value text := by
  have ended {space : List Char} (blank : Spaces space) : Ended space := by
    have stops := Ended.append blank Ended.nil
    rwa [List.append_nil] at stops
  constructor
  · rintro ⟨space, inner, space', left, written, right, same⟩
    rw [whole] at same
    have passed' := valid _ _ written
    obtain ⟨c, others, rfl, solid, _⟩ := splits_passed.opens passed
    obtain ⟨d, others', rfl, solid', _⟩ := splits_passed.opens passed'
    obtain ⟨_, fronts⟩ := Spaces.unique blank left solid solid' same
    obtain ⟨texts, _⟩ := splits_passed.ends passed passed' (ended blank') (ended right) fronts
    rw [texts]
    exact written
  · intro written
    exact ⟨before, text, behind, blank, written, blank', whole⟩

end Documents

end Members

end SarifDigest.Json
