import Mathlib.Data.List.Forall2
import SarifDigest.Proofs.Json.Validity

/-!
# Splitting lists

The text of a sequence or an object can be split into values in one way only. So when it is known
how a text is split, it is known which values it is written for: those that the items are written
for one by one.
-/
namespace SarifDigest.Json

section Readers

variable {α κ : Type} {text text' rest behind : List Char}

/-- A text in front of a rest that does not go on as a number shows where it ends, and is written
for one value. -/
theorem Reader.Exact.unique {reader : Reader α} {Form : α → List Char → Prop}
    (exact : reader.Exact Form) {value value' : α} (form : Form value text)
    (form' : Form value' text') (stop : Ended rest) (stop' : Ended behind)
    (same : text ++ rest = text' ++ behind) : value = value' ∧ text = text' ∧ rest = behind := by
  have read : reader.run (text ++ rest) = .ok (value, rest) := exact.accepts .nil form stop
  have read' : reader.run (text' ++ behind) = .ok (value', behind) :=
    exact.accepts .nil form' stop'
  rw [same, read'] at read
  cases read
  exact ⟨rfl, List.append_cancel_right same, rfl⟩

/-- A key shows where it ends, and is written for one name. -/
theorem Reader.ExactKey.unique {reader : Reader κ} {Key : κ → List Char → Prop}
    (exact : reader.ExactKey Key) {name name' : κ} (key : Key name ('"' :: text))
    (key' : Key name' ('"' :: text')) (same : text ++ rest = text' ++ behind) :
    name = name' ∧ text = text' ∧ rest = behind := by
  have read : reader.run (text ++ rest) = .ok (name, rest) := exact.accepts key
  have read' : reader.run (text' ++ behind) = .ok (name', behind) := exact.accepts key'
  rw [same, read'] at read
  cases read
  exact ⟨rfl, List.append_cancel_right same, rfl⟩

end Readers

section Splitting

variable {first : Bool} {close c d : Char} {space other text rest behind : List Char}

/-- A text shows how far the space at its front goes. -/
theorem Spaces.unique (blank : Spaces space) (blank' : Spaces other) (solid : isSpace c = false)
    (solid' : isSpace d = false) (same : space ++ c :: rest = other ++ d :: behind) :
    space = other ∧ c :: rest = d :: behind := by
  have stops := congrArg skipSpace same
  rw [skipSpace_append blank, skipSpace_append blank', skipSpace_cons solid,
    skipSpace_cons solid'] at stops
  rw [stops] at same
  exact ⟨List.append_cancel_right same, stops⟩

/-- A text shows what stands behind the separator at its front. -/
theorem Separator.unique {separator separator' : List Char} (separates : Separator first separator)
    (separates' : Separator first separator') (solid : isSpace c = false)
    (solid' : isSpace d = false) (same : separator ++ c :: rest = separator' ++ d :: behind) :
    c :: rest = d :: behind := by
  cases first with
  | true => exact (Spaces.unique separates separates' solid solid' same).2
  | false =>
    obtain ⟨before, after, left, right, rfl⟩ := separates
    obtain ⟨before', after', left', right', rfl⟩ := separates'
    simp only [List.append_assoc, List.cons_append] at same
    obtain ⟨_, commas⟩ := Spaces.unique left left' (by decide) (by decide) same
    exact (Spaces.unique right right' solid solid' (List.cons.inj commas).2).2

/-- Behind a separator there is an item or the closing mark behind space, never both. -/
theorem Separator.not_closed {separator : List Char} (separates : Separator first separator)
    (solid : isSpace c = false) (apart : c ≠ close) (comma : ',' ≠ close)
    (visible : isSpace close = false) (blank : Spaces space) :
    separator ++ c :: rest ≠ space ++ [close] := by
  intro same
  cases first with
  | true =>
    obtain ⟨_, heads⟩ := Spaces.unique separates blank solid visible same
    exact apart (List.cons.inj heads).1
  | false =>
    obtain ⟨before, after, left, right, rfl⟩ := separates
    simp only [List.append_assoc, List.cons_append] at same
    obtain ⟨_, heads⟩ := Spaces.unique left blank (by decide) visible same
    exact comma (List.cons.inj heads).1

/-- Items that can be split from what follows them: they start with a character that is neither
space nor the closing mark, and in front of a rest that does not go on as a number a text shows
where they end. -/
structure Splits (close : Char) (Item : List Char → Prop) : Prop where
  opens : ∀ {item}, Item item → ∃ c others, item = c :: others ∧ isSpace c = false ∧ c ≠ close
  ends : ∀ {item other rest behind}, Item item → Item other → Ended rest → Ended behind →
    item ++ rest = other ++ behind → item = other ∧ rest = behind

/-- What follows an item up to the end does not go on as a number. -/
theorem Listed.stops {others : List (List Char)} (closes : Ended [close])
    (listed : Listed close false others text) : Ended text := by
  have stop : Ended (text ++ []) := listed.ended closes
  rwa [List.append_nil] at stop

/-- A list is split into such items in one way only. -/
theorem Listed.unique {Item : List Char → Prop} (splits : Splits close Item)
    (closes : Ended [close]) (comma : ',' ≠ close) (visible : isSpace close = false)
    {items others : List (List Char)} (each : ∀ item ∈ items, Item item)
    (each' : ∀ item ∈ others, Item item) (listed : Listed close first items text)
    (listed' : Listed close first others text) : items = others := by
  induction items generalizing first others text with
  | nil =>
    obtain ⟨space, blank, closed⟩ := listed
    cases others with
    | nil => rfl
    | cons item others =>
      obtain ⟨separator, rest, separates, _, started⟩ := listed'
      obtain ⟨c, inner, rfl, solid, apart⟩ := splits.opens (each' item List.mem_cons_self)
      exact absurd (started.symm.trans closed)
        (separates.not_closed solid apart comma visible blank)
  | cons item items ih =>
    obtain ⟨separator, rest, separates, tail, started⟩ := listed
    have form := each item List.mem_cons_self
    obtain ⟨c, inner, same, solid, apart⟩ := splits.opens form
    cases others with
    | nil =>
      obtain ⟨space, blank, closed⟩ := listed'
      rw [same] at started
      exact absurd (started.symm.trans closed)
        (separates.not_closed solid apart comma visible blank)
    | cons other others =>
      obtain ⟨separator', rest', separates', tail', started'⟩ := listed'
      have form' := each' other List.mem_cons_self
      obtain ⟨d, inner', same', solid', _⟩ := splits.opens form'
      have fronts : item ++ rest = other ++ rest' := by
        have texts := started.symm.trans started'
        rw [same, same', List.cons_append, List.cons_append] at texts ⊢
        exact separates.unique separates' solid solid' texts
      obtain ⟨rfl, rfl⟩ := splits.ends form form' (tail.stops closes) (tail'.stops closes) fronts
      rw [ih (fun item inside => each item (List.mem_cons_of_mem _ inside))
        (fun item inside => each' item (List.mem_cons_of_mem _ inside)) tail tail']

/-- Any items can be listed. -/
theorem exists_listed (close : Char) (first : Bool) (items : List (List Char)) :
    ∃ text, Listed close first items text := by
  induction items generalizing first with
  | nil => exact ⟨[close], [], Spaces.nil, rfl⟩
  | cons item items ih =>
    obtain ⟨rest, listed⟩ := ih false
    cases first with
    | true => exact ⟨_, [], rest, Spaces.nil, listed, rfl⟩
    | false => exact ⟨_, [','], rest, ⟨[], [], Spaces.nil, Spaces.nil, rfl⟩, listed, rfl⟩

end Splitting

section Items

variable {α : Type} {Form : α → List Char → Prop} {behind : List Char}

/-- Values can be split from what follows them. -/
theorem splits_passed : Splits ']' Passed where
  opens := by
    rintro item ⟨depth, written⟩
    exact (passedWithin_exact depth).opens written
  ends := by
    intro item other rest behind form form' stop stop' same
    have ends : () = () ∧ item = other ∧ rest = behind :=
      passed_exact.unique form form' stop stop' same
    exact ends.2

/-- A sequence that is split into values is written for those that the values are written for, one
by one. -/
theorem sequenceText_iff (valid : Valid Form) {items : List (List Char)}
    (each : ∀ item ∈ items, Passed item) (listed : Listed ']' true items behind)
    {values : List α} :
    SequenceText Form values ('[' :: behind) ↔ List.Forall₂ Form values items := by
  constructor
  · rintro ⟨parts, behind', written, listed', rfl, same⟩
    cases same
    have passed : ∀ item ∈ parts.map (·.2), Passed item := by
      intro item inside
      obtain ⟨part, given, rfl⟩ := List.mem_map.1 inside
      exact valid _ _ (written part given)
    rw [listed.unique splits_passed ended_bracket (by decide) (by decide) each passed listed',
      List.forall₂_map_left_iff, List.forall₂_map_right_iff, List.forall₂_same]
    exact written
  · intro written
    obtain ⟨lengths, pairs⟩ := List.forall₂_iff_zip.1 written
    refine ⟨values.zip items, behind, fun part inside => pairs inside, ?_, ?_, rfl⟩
    · rwa [List.map_snd_zip (Nat.le_of_eq lengths.symm)]
    · rw [List.map_fst_zip (Nat.le_of_eq lengths)]

end Items

section Members

variable {behind : List Char}

/-- In front of a rest that does not go on as a number a text shows the member at its front. -/
theorem Entry.Whole.unique {entry other : Entry String} {rest behind : List Char}
    (whole : entry.Whole) (whole' : other.Whole) (stop : Ended rest) (stop' : Ended behind)
    (same : entry.text ++ rest = other.text ++ behind) : entry = other ∧ rest = behind := by
  obtain ⟨name, keyText, space, space', value⟩ := entry
  obtain ⟨otherName, otherKey, other, other', otherValue⟩ := other
  obtain ⟨⟨key, before, after⟩, passed⟩ := whole
  obtain ⟨⟨key', before', after'⟩, passed'⟩ := whole'
  simp only at key before after passed key' before' after' passed'
  obtain ⟨inner, rfl⟩ := decodedKey_exact.opens key
  obtain ⟨inner', rfl⟩ := decodedKey_exact.opens key'
  simp only [Entry.text, List.cons_append, List.append_assoc, List.cons.injEq, true_and] at same
  -- The key ends at its quote, the space behind it at the colon, and the next at the value.
  obtain ⟨rfl, rfl, colons⟩ := decodedKey_exact.unique key key' same
  obtain ⟨rfl, marks⟩ := Spaces.unique before before' (by decide) (by decide) colons
  have values := (List.cons.inj marks).2
  obtain ⟨c, others, rfl, solid, _⟩ := splits_passed.opens passed
  obtain ⟨d, others', rfl, solid', _⟩ := splits_passed.opens passed'
  obtain ⟨rfl, ends⟩ := Spaces.unique after after' solid solid' values
  obtain ⟨sameValue, rfl⟩ := splits_passed.ends passed passed' stop stop' ends
  exact ⟨by rw [sameValue], rfl⟩

/-- Members can be split from what follows them. -/
theorem splits_whole : Splits '\x7d' fun text => ∃ entry : Entry String,
    entry.Whole ∧ entry.text = text where
  opens := by
    rintro text ⟨entry, whole, rfl⟩
    obtain ⟨inner, quoted⟩ := decodedKey_exact.opens whole.1.key
    rw [Entry.text, quoted]
    exact ⟨'"', _, rfl, by decide⟩
  ends := by
    rintro text text' rest behind ⟨entry, whole, rfl⟩ ⟨other, whole', rfl⟩ stop stop' same
    obtain ⟨rfl, rfl⟩ := whole.unique whole' stop stop' same
    exact ⟨rfl, rfl⟩

/-- An object is split into members in one way only. -/
theorem Listed.members_unique {entries others : List (Entry String)}
    (each : ∀ entry ∈ entries, entry.Whole) (each' : ∀ entry ∈ others, entry.Whole)
    (listed : Listed '\x7d' true (entries.map (·.text)) behind)
    (listed' : Listed '\x7d' true (others.map (·.text)) behind) : entries = others := by
  have texts : entries.map (·.text) = others.map (·.text) := by
    refine listed.unique splits_whole ended_brace (by decide) (by decide) ?_ ?_ listed'
    · intro text inside
      obtain ⟨entry, given, rfl⟩ := List.mem_map.1 inside
      exact ⟨entry, each entry given, rfl⟩
    · intro text inside
      obtain ⟨entry, given, rfl⟩ := List.mem_map.1 inside
      exact ⟨entry, each' entry given, rfl⟩
  clear listed listed'
  induction entries generalizing others with
  | nil => exact (List.map_eq_nil_iff.1 texts.symm).symm
  | cons entry entries ih =>
    cases others with
    | nil => contradiction
    | cons other others =>
      rw [List.forall_mem_cons] at each each'
      simp only [List.map_cons, List.cons.injEq] at texts
      have same : entry.text ++ [] = other.text ++ [] := by rw [texts.1]
      rw [(each.1.unique each'.1 .nil .nil same).1, ih each.2 each'.2 texts.2]

variable {σ : Type} {slots : List (Slot σ)} {record : σ}

/-- An object that is split into members is written for the records that the members make up. -/
theorem recordText_object_iff (valid : ValidSlots slots) {entries : List (Entry String)}
    (each : ∀ entry ∈ entries, entry.Whole)
    (listed : Listed '\x7d' true (entries.map (·.text)) behind) :
    RecordText slots record ('\x7b' :: behind) ↔ ObjectForm slots record entries := by
  constructor
  · intro written
    cases written with
    | object form listed' =>
      have each' : ∀ entry ∈ _, Entry.Whole entry := fun entry inside => form.whole valid inside
      rwa [listed.members_unique each each' listed']
  · intro form
    exact .object form listed

/-- A sequence that is split into values is written for the records that the values make up. -/
theorem recordText_sequence_iff (valid : ValidSlots slots) {values : List (List Char)}
    (each : ∀ value ∈ values, Passed value) (listed : Listed ']' true values behind) :
    RecordText slots record ('[' :: behind) ↔ SequenceForm slots record values := by
  constructor
  · intro written
    cases written with
    | sequence form listed' =>
      have each' : ∀ value ∈ _, Passed value := fun value inside => form.valid valid inside
      rwa [listed.unique splits_passed ended_bracket (by decide) (by decide) each each' listed']
  · intro form
    exact .sequence form listed

end Members

end SarifDigest.Json
