import Mathlib.Data.List.Nodup
import SarifDigest.Proofs.Json.Values

/-!
# Reading known values

The readers of the values that a schema names are exact for their forms. A record is read by
putting the values of its members into a blank one, in the order of the document or of the
declaration. When every member has its own part of the record (`Complete`), the order does not
matter: what is read is the one record with the values written, and blank elsewhere.
-/
namespace SarifDigest.Json

/-- No text of a relation starts as null does. -/
def NeverNull {α : Type} (Form : α → List Char → Prop) : Prop :=
  ∀ {value text}, Form value text → text.head? ≠ some 'n'

namespace Reader

variable {α : Type}

/-- The reader of texts is exact. -/
theorem text_exact : text.Exact QuotedText := by
  apply spaced_exact
  · rintro value text ⟨raw, -, rfl⟩
    exact ⟨_, _, rfl, by decide⟩
  · rintro value text rest ⟨raw, written, rfl⟩ -
    simp [changing, decodeText_append written, Except.map]
  · intro value text rest read
    split at read
    · obtain ⟨chars, found, rfl⟩ := changing_eq_ok_iff.mp read
      obtain ⟨raw, written, rfl⟩ := decodeText_returns found
      exact ⟨[], _, .nil, ⟨raw, by simpa using written, rfl⟩, by simp⟩
    · simp at read

/-- Texts start with a quote. -/
theorem text_neverNull : NeverNull QuotedText := by
  rintro value text ⟨raw, -, rfl⟩
  simp

/-- The reader of integers is exact. -/
theorem integer_exact (wanted : String) : (integer wanted).Exact IntegerText := by
  apply spaced_exact
  · intro value text written
    obtain ⟨c, others, same, opens⟩ := written.cons
    exact ⟨c, others, same, (number_opens opens).1, (number_opens opens).2.1⟩
  · intro value text rest written ended
    obtain ⟨numeral, number, form, found, signed⟩ := written.exists_number wanted
    have read := readNumber_append form found ended
    obtain ⟨c, others, rfl, opens⟩ := written.cons
    have start : (decide (c = '-') || isDigit c) = true := by simpa using opens
    simp only [List.cons_append] at read ⊢
    simp only [start, if_true, read, signed]
  · intro value text rest read
    split at read
    · simp [refuseAt] at read
    · split at read
      · split at read
        · simp at read
        · rename_i found
          split at read
          · rename_i signed
            simp only [Except.ok.injEq, Prod.mk.injEq] at read
            obtain ⟨rfl, rfl⟩ := read
            obtain ⟨numeral, form, written, number, front⟩ := readNumber_returns found
            exact ⟨[], form, .nil, integerText_of_signedValue written number signed, front⟩
          · simp [refuseAt] at read
      · simp at read

/-- Integers start with a minus or a digit. -/
theorem integer_neverNull : NeverNull IntegerText := by
  intro value text written
  obtain ⟨c, others, rfl, opens⟩ := written.cons
  simpa using (number_opens opens).2.2.1

/-- A value that may be absent is read exactly when the value is and never looks like null. -/
theorem optional_exact {reader : Reader α} {Form : α → List Char → Prop}
    (exact : reader.Exact Form) (never : NeverNull Form) :
    reader.optional.Exact (OptionalText Form) := by
  apply spaced_exact
  · intro value text written
    cases value with
    | none => exact ⟨'n', _, written, by decide⟩
    | some value => exact exact.opens written
  · intro value text rest written ended
    cases value with
    | none =>
      have null : text = ['n', 'u', 'l', 'l'] := written
      simp [null, giving, readWord, Except.map]
    | some value =>
      have read := exact.accepts .nil written ended
      rw [List.nil_append] at read
      have plain := never written
      obtain ⟨c, others, rfl, -⟩ := exact.opens written
      have other : c ≠ 'n' := by simpa using plain
      simp only [List.cons_append] at read ⊢
      split
      · rename_i same
        exact absurd (List.cons.inj same).1 other
      · rw [read]
        rfl
  · intro value text rest read
    split at read
    · obtain ⟨rfl, rfl⟩ := giving_readWord read
      exact ⟨[], _, .nil, rfl, rfl⟩
    · obtain ⟨found, inner, rfl⟩ := changing_eq_ok_iff.mp read
      exact exact.returns inner

/-- A sequence is read exactly when its items are. -/
theorem sequence_exact {item : Reader α} {Form : α → List Char → Prop}
    (exact : item.Exact Form) : item.sequence.Exact (SequenceText Form) := by
  apply spaced_exact
  · rintro values text ⟨parts, behind, -, -, -, rfl⟩
    exact ⟨_, _, rfl, by decide⟩
  · rintro values text rest ⟨parts, behind, each, listed, rfl, rfl⟩ -
    simp only [List.cons_append]
    exact readItems_append exact each listed
  · intro values text rest read
    split at read
    · obtain ⟨parts, form, each, listed, rfl, rfl⟩ := readItems_returns exact read
      exact ⟨[], _, .nil, ⟨parts, form, each, listed, rfl, rfl⟩, rfl⟩
    · simp at read

/-- Sequences start with a bracket. -/
theorem sequence_neverNull {Form : α → List Char → Prop} : NeverNull (SequenceText Form) := by
  rintro values text ⟨parts, behind, -, -, -, rfl⟩
  simp

/-- Records start with a brace or a bracket. -/
theorem record_neverNull {slots : List (Slot α)} : NeverNull (RecordText slots) := by
  intro record text written
  cases written <;> simp

end Reader

/-- A member of the records of a type with all that its laws need: the exact reader of its
value, how the value is put into a record and taken from it, and the value of a record without
it. -/
structure Filling (σ : Type) where
  Value : Type
  name : String
  reader : Reader Value
  Form : Value → List Char → Prop
  exact : reader.Exact Form
  put : Value → σ → σ
  get : σ → Value
  get_put : ∀ value record, get (put value record) = value
  absent : Value

namespace Filling

variable {σ α : Type}

/-- The member that is read. -/
def member (filling : Filling σ) : Member σ :=
  .of filling.name filling.reader filling.put

/-- The slot that is written. -/
def slot (filling : Filling σ) : Slot σ where
  name := filling.name
  Written record text := filling.Form (filling.get record) text
  Absent record := filling.get record = filling.absent

/-- The filling of a value that may be absent. -/
def optional (name : String) {reader : Reader α} {Form : α → List Char → Prop}
    (exact : reader.Exact Form) (never : NeverNull Form) (put : Option α → σ → σ)
    (get : σ → Option α) (get_put : ∀ value record, get (put value record) = value) :
    Filling σ where
  Value := Option α
  name := name
  reader := reader.optional
  Form := OptionalText Form
  exact := Reader.optional_exact exact never
  put := put
  get := get
  get_put := get_put
  absent := none

/-- The reader of the change of a member is exact for the values that make it. -/
theorem member_exact (filling : Filling σ) :
    filling.member.reader.Exact fun change text =>
      ∃ value, filling.Form value text ∧ filling.put value = change :=
  filling.exact.map filling.put

end Filling

section Assignments

variable {σ : Type} {fillings : List (Filling σ)} {blank start final : σ}

/-- Fillings are complete for a type of records and its blank record when each has its own name
and its own part of a record, is absent from the blank one, and all together determine it. -/
structure Complete (blank : σ) (fillings : List (Filling σ)) : Prop where
  distinct : (fillings.map (·.name)).Nodup
  frame : ∀ changed ∈ fillings, ∀ other ∈ fillings, other.name ≠ changed.name →
    ∀ value record, other.get (changed.put value record) = other.get record
  absent : ∀ filling ∈ fillings, filling.get blank = filling.absent
  determined : ∀ left right, (∀ filling ∈ fillings, filling.get left = filling.get right) →
    left = right

/-- Fillings of one name are one. -/
theorem Complete.eq_of_name (complete : Complete blank fillings) {left right : Filling σ}
    (first : left ∈ fillings) (second : right ∈ fillings) (same : left.name = right.name) :
    left = right :=
  List.inj_on_of_nodup_map complete.distinct first second same

/-- The filling of a name is found by it. -/
theorem Complete.find?_eq_some_iff (complete : Complete blank fillings) {filling : Filling σ}
    {name : String} :
    fillings.find? (·.name = name) = some filling ↔ filling ∈ fillings ∧ filling.name = name := by
  constructor
  · intro found
    exact ⟨List.mem_of_find?_eq_some found, by simpa using List.find?_some found⟩
  · rintro ⟨inside, named⟩
    cases found : fillings.find? (·.name = name) with
    | none =>
      rw [List.find?_eq_none] at found
      exact absurd named (by simpa using found filling inside)
    | some other =>
      have member := List.mem_of_find?_eq_some found
      have called : other.name = name := by simpa using List.find?_some found
      rw [complete.eq_of_name member inside (called.trans named.symm)]

/-- Putting values into a record one after the other, each as its text writes it. -/
def Assigned : List (Filling σ × List Char) → σ → σ → Prop
  | [], start, final => final = start
  | (filling, text) :: others, start, final =>
    ∃ value, filling.Form value text ∧ Assigned others (filling.put value start) final

/-- Values put into a record at most once each are those of the outcome, which has all others
from the start. This does not depend on the order. -/
theorem assigned_iff (complete : Complete blank fillings) {pairs : List (Filling σ × List Char)}
    (known : ∀ pair ∈ pairs, pair.1 ∈ fillings) (once : (pairs.map (·.1.name)).Nodup) :
    Assigned pairs start final ↔
      (∀ pair ∈ pairs, pair.1.Form (pair.1.get final) pair.2) ∧
        ∀ filling ∈ fillings, filling.name ∉ pairs.map (·.1.name) →
          filling.get final = filling.get start := by
  induction pairs generalizing start with
  | nil =>
    simp only [Assigned, List.not_mem_nil, false_implies, implies_true, true_and, List.map_nil,
      not_false_eq_true, true_implies]
    constructor
    · rintro rfl filling -
      rfl
    · exact complete.determined final start
  | cons pair others ih =>
    obtain ⟨filling, text⟩ := pair
    simp only [List.mem_cons, forall_eq_or_imp] at known
    simp only [List.map_cons, List.nodup_cons] at once
    have kept : ∀ value other, other ∈ fillings → other.name ≠ filling.name →
        other.get (filling.put value start) = other.get start := fun value other member apart =>
      complete.frame filling known.1 other member apart value start
    have step (value : filling.Value) :
        Assigned others (filling.put value start) final ↔ _ := ih known.2 once.2
    simp only [Assigned, List.mem_cons, forall_eq_or_imp, List.map_cons, not_or]
    constructor
    · rintro ⟨value, form, rest⟩
      obtain ⟨formed, same⟩ := (step value).mp rest
      -- No later pair has this name, so the value put here is still there at the end.
      have own : filling.get final = value := by
        rw [same filling known.1 once.1, filling.get_put]
      refine ⟨⟨by rw [own]; exact form, formed⟩, ?_⟩
      rintro other member ⟨apart, further⟩
      rw [same other member further, kept value other member apart]
    · rintro ⟨⟨form, formed⟩, same⟩
      -- The value to put is the one of the outcome.
      refine ⟨filling.get final, form, (step _).mpr ⟨formed, ?_⟩⟩
      intro other member further
      by_cases named : other.name = filling.name
      · rw [complete.eq_of_name member known.1 named, filling.get_put]
      · rw [same other member ⟨named, further⟩, kept _ other member named]

end Assignments

section Objects

variable {σ : Type} {fillings : List (Filling σ)} {blank start final : σ}
  {entries : List (Entry String)} {names : List String}

/-- The values that the members of an object put into a record. -/
def assignments (fillings : List (Filling σ)) (entries : List (Entry String)) :
    List (Filling σ × List Char) :=
  entries.filterMap fun entry =>
    (fillings.find? (·.name = entry.name)).map fun filling => (filling, entry.value)

/-- A step of an object that is a record: the value of a known member that was not read before
is put into it, and that of an unknown one is passed over. -/
def Fills (fillings : List (Filling σ)) (state : σ × List String) (name : String)
    (next : σ × List String) (text : List Char) : Prop :=
  match fillings.find? (·.name = name) with
  | none => Passed text ∧ state = next
  | some filling =>
    name ∉ state.2 ∧
      ∃ value, filling.Form value text ∧ (filling.put value state.1, name :: state.2) = next

/-- The choice of readers for the members of a record follows these steps. -/
theorem chooses_fills (fillings : List (Filling σ)) :
    Chooses (Member.choose (fillings.map (·.member))) (Fills fillings) := by
  intro state name
  have found : (fillings.map (·.member)).find? (·.name = name) =
      (fillings.find? (·.name = name)).map (·.member) :=
    List.find?_map
  unfold Member.choose Fills
  rw [found]
  cases fillings.find? (·.name = name) with
  | none =>
    refine (passed_exact.map fun _ => state).congr fun next text => ?_
    simp
  | some filling =>
    simp only [Option.map_some]
    by_cases repeated : name ∈ state.2
    · simp [repeated]
    · simp only [repeated, if_false, not_false_eq_true, true_and]
      refine (filling.member_exact.map _).congr fun next text => ?_
      simp

/-- The names that are assigned are the known ones of the members. -/
theorem assignments_names :
    (assignments fillings entries).map (·.1.name) =
      (entries.map (·.name)).filter (· ∈ fillings.map (·.name)) := by
  induction entries with
  | nil => rfl
  | cons entry others ih =>
    unfold assignments at ih ⊢
    rw [List.filterMap_cons, List.map_cons, List.filter_cons]
    cases found : fillings.find? (·.name = entry.name) with
    | none =>
      have unknown : entry.name ∉ fillings.map (·.name) := by
        simpa using found
      simpa [unknown] using ih
    | some filling =>
      have named : filling.name = entry.name := by simpa using List.find?_some found
      have known : entry.name ∈ fillings.map (·.name) :=
        List.mem_map.mpr ⟨filling, List.mem_of_find?_eq_some found, named⟩
      simpa [known, named] using ih

/-- A filling is assigned the text of every member of its name. -/
theorem mem_assignments (complete : Complete blank fillings) {filling : Filling σ}
    {text : List Char} :
    (filling, text) ∈ assignments fillings entries ↔
      filling ∈ fillings ∧ ∃ entry ∈ entries, filling.name = entry.name ∧ entry.value = text := by
  simp only [assignments, List.mem_filterMap, Option.map_eq_some_iff, Prod.mk.injEq,
    complete.find?_eq_some_iff]
  constructor
  · rintro ⟨entry, inside, other, ⟨member, named⟩, rfl, rfl⟩
    exact ⟨member, entry, inside, named, rfl⟩
  · rintro ⟨member, entry, inside, named, rfl⟩
    exact ⟨entry, inside, filling, ⟨member, named⟩, rfl, rfl⟩

/-- The steps of an object put the values of its known members into the record, if no name comes
twice and the unknown members can be passed over. -/
theorem chain_fills_iff :
    (∃ seen, Chain (Fills fillings) (start, names) entries (final, seen)) ↔
      (∀ entry ∈ entries, entry.name ∉ fillings.map (·.name) → Passed entry.value) ∧
        ((assignments fillings entries).map (·.1.name)).Nodup ∧
          (∀ name ∈ (assignments fillings entries).map (·.1.name), name ∉ names) ∧
            Assigned (assignments fillings entries) start final := by
  induction entries generalizing start names with
  | nil =>
    simp [Chain, assignments, Assigned]
  | cons entry others ih =>
    cases found : fillings.find? (·.name = entry.name) with
    | none =>
      have unknown : entry.name ∉ fillings.map (·.name) := by
        simpa using found
      have same : assignments fillings (entry :: others) = assignments fillings others := by
        simp [assignments, found]
      rw [same]
      simp only [List.mem_cons, forall_eq_or_imp, unknown, not_false_eq_true, true_implies,
        Chain, Fills, found]
      constructor
      · rintro ⟨seen, _, ⟨passed, rfl⟩, chain⟩
        obtain ⟨unasked, rest⟩ := ih.mp ⟨seen, chain⟩
        exact ⟨⟨passed, unasked⟩, rest⟩
      · rintro ⟨⟨passed, unasked⟩, rest⟩
        obtain ⟨seen, chain⟩ := ih.mpr ⟨unasked, rest⟩
        exact ⟨seen, _, ⟨passed, rfl⟩, chain⟩
    | some filling =>
      have named : filling.name = entry.name := by simpa using List.find?_some found
      have known : entry.name ∈ fillings.map (·.name) :=
        List.mem_map.mpr ⟨filling, List.mem_of_find?_eq_some found, named⟩
      have same : assignments fillings (entry :: others) =
          (filling, entry.value) :: assignments fillings others := by
        simp [assignments, found]
      rw [same]
      simp only [List.mem_cons, forall_eq_or_imp, known, not_true_eq_false, false_implies,
        true_and, List.map_cons, List.nodup_cons, named, Chain, Fills, found, Assigned]
      constructor
      · rintro ⟨seen, _, ⟨fresh, value, form, rfl⟩, chain⟩
        obtain ⟨unasked, once, apart, assigned⟩ := ih.mp ⟨seen, chain⟩
        simp only [List.mem_cons, not_or] at apart
        exact ⟨unasked, ⟨fun again => (apart _ again).1 rfl, once⟩,
          ⟨fresh, fun name inside => (apart name inside).2⟩, value, form, assigned⟩
      · rintro ⟨unasked, ⟨alone, once⟩, ⟨fresh, apart⟩, value, form, assigned⟩
        -- The state remembers this name, so it must not come again.
        have further : ∀ name ∈ (assignments fillings others).map (·.1.name),
            name ∉ entry.name :: names := by
          intro name inside
          rw [List.mem_cons, not_or]
          refine ⟨?_, apart name inside⟩
          rintro rfl
          exact alone inside
        obtain ⟨seen, chain⟩ := ih.mpr ⟨unasked, once, further, assigned⟩
        exact ⟨seen, _, ⟨fresh, value, form, rfl⟩, chain⟩

/-- Well-formed members whose steps lead from the blank record to a record are an object that
is written as this record, and no others are. -/
theorem objectForm_iff (complete : Complete blank fillings) :
    ObjectForm (fillings.map (·.slot)) final entries ↔
      (∀ entry ∈ entries, entry.Formed QuotedText) ∧
        ∃ seen, Chain (Fills fillings) (blank, []) entries (final, seen) := by
  have names : (fillings.map (·.slot)).map (·.name) = fillings.map (·.name) := by
    simp [Filling.slot, Function.comp_def]
  have known : ∀ pair ∈ assignments fillings entries, pair.1 ∈ fillings :=
    fun pair inside => ((mem_assignments complete).mp inside).1
  have named : ∀ filling ∈ fillings,
      (filling.name ∈ (assignments fillings entries).map (·.1.name) ↔
        filling.name ∈ entries.map (·.name)) := by
    intro filling inside
    rw [assignments_names, List.mem_filter]
    simp only [decide_eq_true_eq, and_iff_left_iff_imp]
    exact fun _ => List.mem_map_of_mem inside
  rw [chain_fills_iff]
  constructor
  · intro form
    have once : ((assignments fillings entries).map (·.1.name)).Nodup := by
      rw [assignments_names, ← names]
      exact form.once
    refine ⟨form.formed, ?_, once, by simp, (assigned_iff complete known once).mpr ⟨?_, ?_⟩⟩
    · intro entry inside unknown
      exact form.passed entry inside (by rw [names]; exact unknown)
    · rintro ⟨filling, text⟩ inside
      obtain ⟨member, entry, listed, same, rfl⟩ := (mem_assignments complete).mp inside
      exact form.written entry listed filling.slot (List.mem_map_of_mem member) same
    · intro filling member missing
      rw [complete.absent filling member]
      rw [named filling member] at missing
      exact form.absent filling.slot (List.mem_map_of_mem member) missing
  · rintro ⟨formed, unasked, once, -, assigned⟩
    obtain ⟨written, rest⟩ := (assigned_iff complete known once).mp assigned
    refine ⟨formed, ?_, ?_, ?_, ?_⟩
    · rw [names, ← assignments_names]
      exact once
    · intro entry inside slot placed same
      obtain ⟨filling, member, rfl⟩ := List.mem_map.mp placed
      exact written _ ((mem_assignments complete).mpr ⟨member, entry, inside, same, rfl⟩)
    · intro slot placed missing
      obtain ⟨filling, member, rfl⟩ := List.mem_map.mp placed
      have same := rest filling member (by rw [named filling member]; exact missing)
      rw [complete.absent filling member] at same
      exact same
    · intro entry inside unknown
      exact unasked entry inside (by rw [← names]; exact unknown)

end Objects

section Sequences

variable {σ : Type} {fillings : List (Filling σ)} {blank start final : σ} {first : Bool}
  {text rest : List Char}

/-- Behind the last member a bracket behind space closes a record. -/
theorem closeSequence_append {space : List Char} (closed : Spaces space) :
    Member.closeSequence start (space ++ ']' :: rest) = .ok (start, rest) := by
  unfold Member.closeSequence
  rw [skipSpace_append closed, skipSpace_cons (by decide)]
  rfl

/-- Behind the last member a record is closed by a bracket behind space only. -/
theorem closeSequence_returns (read : Member.closeSequence start text = .ok (final, rest)) :
    final = start ∧ ∃ space, Spaces space ∧ text = space ++ ']' :: rest := by
  obtain ⟨space, closed, front⟩ := skipSpace_split text
  unfold Member.closeSequence at read
  split at read
  · simp [refuseAt] at read
  · rename_i last same
    simp only [Except.ok.injEq, Prod.mk.injEq] at read
    obtain ⟨rfl, rfl⟩ := read
    rw [same] at front
    exact ⟨rfl, space, closed, front⟩
  · split at read <;> simp [refuseAfter] at read
  · simp [refuseAfter] at read

/-- A record written as a sequence is read by putting its values in their order. -/
theorem readSequence_append {values : List (List Char)} (fits : values.length ≤ fillings.length)
    (assigned : Assigned (fillings.zip values) start final)
    (listed : Listed ']' first values text) :
    Member.readSequence first start (fillings.map (·.member)) (text ++ rest) =
      .ok (final, rest) := by
  induction fillings generalizing values start first text with
  | nil =>
    cases values with
    | nil =>
      obtain ⟨space, closed, rfl⟩ := listed
      have same : final = start := assigned
      simpa [Member.readSequence, same] using closeSequence_append closed
    | cons value others => simp at fits
  | cons filling others ih =>
    cases values with
    | nil =>
      obtain ⟨space, closed, rfl⟩ := listed
      have same : final = start := assigned
      have stop : nextItem .decoding first (space ++ ']' :: rest) = .ok (.closed rest) :=
        nextItem_close closed
      simp [Member.readSequence, same, stop]
    | cons item items =>
      obtain ⟨separator, behind, separates, tail, rfl⟩ := listed
      obtain ⟨value, form, further⟩ := assigned
      obtain ⟨c, inner, same, solid, other⟩ := filling.exact.opens form
      have start' : nextItem .decoding first (separator ++ (item ++ behind) ++ rest) =
          .ok (.more (item ++ (behind ++ rest))) := by
        rw [same, List.append_assoc, List.append_assoc]
        exact nextItem_more separates solid other
      have stop : Ended (behind ++ rest) := tail.ended ended_bracket
      have read := filling.member_exact.accepts .nil ⟨value, form, rfl⟩ stop
      rw [List.nil_append] at read
      simp only [List.map_cons, Member.readSequence, start', read]
      exact ih (by simpa using fits) further tail

/-- What is read as a sequence of members is a list of values put in their order, with the rest
behind its bracket. -/
theorem readSequence_returns
    (read : Member.readSequence first start (fillings.map (·.member)) text = .ok (final, rest)) :
    ∃ (values : List (List Char)) (form : List Char), values.length ≤ fillings.length ∧
      Assigned (fillings.zip values) start final ∧ Listed ']' first values form ∧
        text = form ++ rest := by
  induction fillings generalizing start first text with
  | nil =>
    obtain ⟨rfl, space, closed, front⟩ := closeSequence_returns read
    exact ⟨[], space ++ [']'], by simp, rfl, ⟨space, closed, rfl⟩, by simp [front]⟩
  | cons filling others ih =>
    simp only [List.map_cons, Member.readSequence] at read
    cases begun : nextItem .decoding first text with
    | error fault => simp [begun] at read
    | ok next =>
      cases next with
      | closed last =>
        simp only [begun, Except.ok.injEq, Prod.mk.injEq] at read
        obtain ⟨rfl, rfl⟩ := read
        obtain ⟨space, closed, front⟩ := nextItem_closed begun
        exact ⟨[], space ++ [']'], by simp, rfl, ⟨space, closed, rfl⟩, by simp [front]⟩
      | more next =>
        simp only [begun] at read
        cases taken : filling.member.reader.run next with
        | error fault => simp [taken] at read
        | ok pair =>
          obtain ⟨change, middle⟩ := pair
          simp only [taken] at read
          obtain ⟨values, form, fits, assigned, listed, behind⟩ := ih read
          obtain ⟨separator, separates, front⟩ := nextItem_continues begun
          obtain ⟨space, inner, blank, ⟨value, written, rfl⟩, nextFront⟩ :=
            filling.member_exact.returns taken
          refine ⟨inner :: values, separator ++ space ++ (inner ++ form), ?_, ?_, ?_, ?_⟩
          · simpa using fits
          · exact ⟨value, written, assigned⟩
          · exact ⟨separator ++ space, form, separates.append blank, listed, rfl⟩
          · rw [front, nextFront, behind]
            simp

/-- The values of a sequence belong to the first members. -/
theorem zip_names {values : List (List Char)} :
    (fillings.zip values).map (·.1.name) = (fillings.take values.length).map (·.name) := by
  induction fillings generalizing values with
  | nil => simp
  | cons filling others ih =>
    cases values with
    | nil => simp
    | cons value rest => simp [ih]

/-- Values put into the blank record in the order of declaration are a sequence that is written
as the outcome, and no others are. -/
theorem sequenceForm_iff (complete : Complete blank fillings) {values : List (List Char)} :
    SequenceForm (fillings.map (·.slot)) final values ↔
      values.length ≤ fillings.length ∧ Assigned (fillings.zip values) blank final := by
  have known : ∀ pair ∈ fillings.zip values, pair.1 ∈ fillings :=
    fun pair inside => (List.of_mem_zip inside).1
  have split := List.take_append_drop values.length fillings
  have distinct := complete.distinct
  rw [← split, List.map_append, List.nodup_append] at distinct
  have once : ((fillings.zip values).map (·.1.name)).Nodup := by
    rw [zip_names]
    exact distinct.1
  have later {filling : Filling σ} :
      filling ∈ fillings ∧ filling.name ∉ (fillings.zip values).map (·.1.name) ↔
        filling ∈ fillings.drop values.length := by
    rw [zip_names]
    constructor
    · rintro ⟨member, missing⟩
      rw [← split, List.mem_append] at member
      exact member.resolve_left fun early => missing (List.mem_map_of_mem early)
    · intro late
      refine ⟨List.mem_of_mem_drop late, fun early => ?_⟩
      exact distinct.2.2 _ early _ (List.mem_map_of_mem late) rfl
  constructor
  · intro form
    have fits : values.length ≤ fillings.length := by simpa using form.fits
    refine ⟨fits, (assigned_iff complete known once).mpr ⟨?_, ?_⟩⟩
    · intro pair inside
      have placed : (pair.1.slot, pair.2) ∈ (fillings.map (·.slot)).zip values := by
        rw [List.zip_map_left]
        exact List.mem_map.mpr ⟨pair, inside, rfl⟩
      exact form.written _ placed
    · intro filling member missing
      have late := later.mp ⟨member, missing⟩
      rw [complete.absent filling member]
      refine form.absent filling.slot ?_
      rw [← List.map_drop]
      exact List.mem_map_of_mem late
  · rintro ⟨fits, assigned⟩
    obtain ⟨written, rest⟩ := (assigned_iff complete known once).mp assigned
    refine ⟨by simpa using fits, ?_, ?_⟩
    · intro pair inside
      rw [List.zip_map_left] at inside
      obtain ⟨original, member, rfl⟩ := List.mem_map.mp inside
      exact written original member
    · intro slot inside
      rw [← List.map_drop] at inside
      obtain ⟨filling, late, rfl⟩ := List.mem_map.mp inside
      obtain ⟨member, missing⟩ := later.mpr late
      have same := rest filling member missing
      rw [complete.absent filling member] at same
      exact same

end Sequences

/-- A record is read whatever follows it, since its closing brace or bracket ends it. -/
theorem Reader.record_closes {σ : Type} {blank : σ} {fillings : List (Filling σ)}
    (wanted : String) (complete : Complete blank fillings) {record : σ}
    {space text : List Char} (before : Spaces space)
    (written : RecordText (fillings.map (·.slot)) record text) (rest : List Char) :
    (Reader.record wanted blank (fillings.map (·.member))).run (space ++ (text ++ rest)) =
      .ok (record, rest) := by
  simp only [Reader.record, Reader.spaced, skipSpace_append before]
  cases written with
  | object form listed =>
    obtain ⟨formed, seen, chain⟩ := (objectForm_iff complete).mp form
    rw [List.cons_append, skipSpace_cons (by decide)]
    simp only [changing,
      readMembers_append decodedKey_exact (chooses_fills fillings) formed chain listed]
    rfl
  | sequence form listed =>
    obtain ⟨fits, assigned⟩ := (sequenceForm_iff complete).mp form
    rw [List.cons_append, skipSpace_cons (by decide)]
    exact readSequence_append fits assigned listed

/-- A record is read exactly when its members are complete. -/
theorem Reader.record_exact {σ : Type} {blank : σ} {fillings : List (Filling σ)}
    (wanted : String) (complete : Complete blank fillings) :
    (Reader.record wanted blank (fillings.map (·.member))).Exact
      (RecordText (fillings.map (·.slot))) := by
  have opens : ∀ {record text}, RecordText (fillings.map (·.slot)) record text →
      ∃ c others, text = c :: others ∧ isSpace c = false ∧ c ≠ ']' := by
    intro record text written
    cases written with
    | object => exact ⟨_, _, rfl, by decide⟩
    | sequence => exact ⟨_, _, rfl, by decide⟩
  apply spaced_exact opens
  · intro record text rest written _
    have read := record_closes wanted complete .nil written rest
    obtain ⟨c, others, rfl, solid, -⟩ := opens written
    simpa only [Reader.record, Reader.spaced, List.nil_append, List.cons_append,
      skipSpace_cons solid] using read
  · intro record text rest read
    split at read
    · obtain ⟨⟨found, seen⟩, inner, rfl⟩ := changing_eq_ok_iff.mp read
      obtain ⟨entries, form, formed, chain, listed, rfl⟩ :=
        readMembers_returns decodedKey_exact (chooses_fills fillings) inner
      exact ⟨[], _, .nil, .object ((objectForm_iff complete).mpr ⟨formed, seen, chain⟩) listed, rfl⟩
    · obtain ⟨values, form, fits, assigned, listed, rfl⟩ := readSequence_returns read
      exact ⟨[], _, .nil, .sequence ((sequenceForm_iff complete).mpr ⟨fits, assigned⟩) listed, rfl⟩
    · simp at read

/-- A document is read as a value when its text is, in front of nothing but space. -/
theorem Reader.document_eq_ok_iff_run {α : Type} {reader : Reader α} {document : String}
    {value : α} :
    reader.document document = .ok value ↔
      ∃ rest, reader.run document.toList = .ok (value, rest) ∧ Spaces rest := by
  unfold Reader.document
  cases inner : reader.run document.toList with
  | error fault => simp [inner]
  | ok pair =>
    obtain ⟨found, rest⟩ := pair
    simp only [inner, ← skipSpace_eq_nil_iff]
    cases left : skipSpace rest with
    | nil => simp [left]
    | cons c others => simp [left, refuseAfter]

/-- An exact reader reads a document as a value exactly when the document is a text of the value
with nothing but space around it. -/
theorem Reader.document_eq_ok_iff {α : Type} {reader : Reader α} {Form : α → List Char → Prop}
    (exact : reader.Exact Form) {document : String} {value : α} :
    reader.document document = .ok value ↔ DocumentText Form value document := by
  rw [document_eq_ok_iff_run]
  constructor
  · rintro ⟨behind, read, trailing⟩
    obtain ⟨before, text, blank, written, front⟩ := exact.returns read
    exact ⟨before, text, behind, blank, written, trailing, front⟩
  · rintro ⟨before, text, behind, blank, written, trailing, front⟩
    -- Behind a document there may be a number as its last token, which the end or space stops.
    have ended : Ended behind := by
      have none := Ended.append trailing Ended.nil
      rwa [List.append_nil] at none
    rw [front]
    exact ⟨behind, exact.accepts blank written ended, trailing⟩

end SarifDigest.Json
