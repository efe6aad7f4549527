import SarifDigest.Proofs.Json.Lists

/-!
# Reading values of any kind

The readers of values that are decoded and of values that are passed over accept exactly the
values of their regimes. Each is shown for one layer, given readers of the values inside it, and
then by induction for any depth. A value that is passed over may be nested as deeply as it likes:
the bound of its reader is the length of the text, and no value is nested deeper than its text
is long.
-/
namespace SarifDigest.Json

section Words

variable {α : Type} {word text rest : List Char}

/-- A word is read in front of the rest only. -/
theorem readWord_returns (read : readWord word text = .ok rest) : text = word ++ rest := by
  fun_induction readWord word text with
  | case1 => simp_all
  | case2 => simp [refuseAt] at read
  | case3 w word behind ih => rw [ih read]; rfl
  | case4 => simp [refuseAfter] at read

/-- A value for a word is given in front of the word only. -/
theorem giving_readWord {given value : α}
    (read : giving given (readWord word text) = .ok (value, rest)) :
    value = given ∧ text = word ++ rest := by
  cases inner : readWord word text with
  | error fault => simp [giving, inner, Except.map] at read
  | ok last =>
    simp only [giving, inner, Except.map, Except.ok.injEq, Prod.mk.injEq] at read
    obtain ⟨rfl, rfl⟩ := read
    exact ⟨rfl, readWord_returns inner⟩

/-- A changed result is that of a result. -/
theorem changing_eq_ok_iff {β : Type} {change : α → β} {result : Except Fault (α × List Char)}
    {value : β} : changing change result = .ok (value, rest) ↔
      ∃ found, result = .ok (found, rest) ∧ change found = value := by
  cases result with
  | error fault => simp [changing, Except.map]
  | ok pair =>
    obtain ⟨found, last⟩ := pair
    simp only [changing, Except.map, Except.ok.injEq, Prod.mk.injEq]
    constructor
    · rintro ⟨rfl, rfl⟩
      exact ⟨found, ⟨rfl, rfl⟩, rfl⟩
    · rintro ⟨_, ⟨rfl, rfl⟩, rfl⟩
      exact ⟨rfl, rfl⟩

end Words

section Decoded

variable {value : Value} {text rest : List Char}

/-- A minus or a digit opens no other value. -/
theorem number_opens {c : Char} (opens : c = '-' ∨ isDigit c = true) :
    isSpace c = false ∧ c ≠ ']' ∧ c ≠ 'n' ∧ c ≠ 't' ∧ c ≠ 'f' ∧ c ≠ '"' ∧ c ≠ '[' ∧
      c ≠ '\x7b' := by
  cases opens with
  | inl minus => simp [minus, isSpace]
  | inr digit =>
    refine ⟨?_, ?_, ?_, ?_, ?_, ?_, ?_, ?_⟩
    · by_cases blank : isSpace c = true
      · have ended : Ended [c] := .of_space blank
        exact absurd digit (by simp [(ended c rfl).1])
      · simpa using blank
    all_goals
      rintro rfl
      exact absurd digit (by decide)

/-- A decoded value without parts starts with neither space nor a bracket. -/
theorem ScalarText.opens (written : ScalarText value text) :
    ∃ c others, text = c :: others ∧ isSpace c = false ∧ c ≠ ']' := by
  cases written with
  | null => exact ⟨_, _, rfl, by decide⟩
  | yes => exact ⟨_, _, rfl, by decide⟩
  | no => exact ⟨_, _, rfl, by decide⟩
  | number numeral found =>
    obtain ⟨c, others, same, opens⟩ := numeral.cons
    exact ⟨c, others, same, (number_opens opens).1, (number_opens opens).2.1⟩
  | text quoted =>
    obtain ⟨raw, -, same⟩ := quoted
    exact ⟨_, _, same, by decide⟩

/-- A value without parts is read in front of a rest, whatever reads the values inside. -/
theorem Value.read_scalar {inside : Option (Reader Value)} (written : ScalarText value text)
    (ended : Ended rest) : Value.read inside (text ++ rest) = .ok (value, rest) := by
  cases written with
  | null => simp [Value.read, giving, readWord, Except.map]
  | yes => simp [Value.read, giving, readWord, Except.map]
  | no => simp [Value.read, giving, readWord, Except.map]
  | number numeral found =>
    have read := readNumber_append numeral found ended
    obtain ⟨c, others, rfl, opens⟩ := numeral.cons
    have number : (decide (c = '-') || isDigit c) = true := by simpa using opens
    obtain ⟨-, -, n, t, f, quote, bracket, brace⟩ := number_opens opens
    simp only [List.cons_append] at read ⊢
    simp [Value.read, read, number, changing, Except.map]
  | text quoted =>
    obtain ⟨raw, characters, rfl⟩ := quoted
    simp [Value.read, changing, decodeText_append characters, Except.map]

end Decoded

section Layers

variable {ν κ : Type} {regime : Regime ν κ} {Form : ν → List Char → Prop}

/-- The values of a regime open as its values without parts do, or with a bracket or brace. -/
theorem Regime.Layer.opens {Inner : Option (ν → List Char → Prop)} {value : ν} {text : List Char}
    (scalar : ∀ {value text}, regime.Scalar value text →
      ∃ c others, text = c :: others ∧ isSpace c = false ∧ c ≠ ']')
    (written : regime.Layer Inner value text) :
    ∃ c others, text = c :: others ∧ isSpace c = false ∧ c ≠ ']' := by
  cases written with
  | scalar form => exact scalar form
  | sequence => exact ⟨_, _, rfl, by decide⟩
  | object => exact ⟨_, _, rfl, by decide⟩

/-- A sequence is read behind its bracket exactly when its items are. -/
theorem Regime.readItems_iff {manner : Manner} {inner : Reader ν} (exact : inner.Exact Form)
    {value : ν} {text rest : List Char} :
    changing regime.sequence (readItems manner inner true text) = .ok (value, rest) ↔
      ∃ (parts : List (ν × List Char)) (behind : List Char),
        (∀ part ∈ parts, Form part.1 part.2) ∧ Listed ']' true (parts.map (·.2)) behind ∧
          regime.sequence (parts.map (·.1)) = value ∧ text = behind ++ rest := by
  rw [changing_eq_ok_iff]
  constructor
  · rintro ⟨values, read, rfl⟩
    obtain ⟨parts, behind, each, listed, rfl, rfl⟩ := readItems_returns exact read
    exact ⟨parts, behind, each, listed, rfl, rfl⟩
  · rintro ⟨parts, behind, each, listed, rfl, rfl⟩
    exact ⟨_, readItems_append exact each listed, rfl⟩

/-- An object is read behind its brace exactly when its members are, if what they lead to step by
step makes the object of their names and values. -/
theorem Regime.readMembers_iff {σ : Type} {manner : Manner} {key : Reader κ}
    {choose : σ → κ → Except Cause (Reader σ)} {Step : σ → κ → σ → List Char → Prop}
    {start : σ} {make : σ → ν} (exactKey : key.ExactKey regime.Key)
    (chooses : Chooses choose Step)
    (makes : ∀ {entries : List (Entry κ)} {value : ν},
      (∃ final, Chain Step start entries final ∧ make final = value) ↔
        ∃ parts : List (Entry κ × ν), entries = parts.map (·.1) ∧
          (∀ part ∈ parts, Form part.2 part.1.value) ∧
          regime.object (parts.map fun part => (part.1.name, part.2)) = value)
    {value : ν} {text rest : List Char} :
    (∃ final, readMembers manner key choose true start text = .ok (final, rest) ∧
      make final = value) ↔
      ∃ (parts : List (Entry κ × ν)) (behind : List Char),
        (∀ part ∈ parts, part.1.Formed regime.Key ∧ Form part.2 part.1.value) ∧
          Listed '\x7d' true (parts.map (·.1.text)) behind ∧
          regime.object (parts.map fun part => (part.1.name, part.2)) = value ∧
          text = behind ++ rest := by
  constructor
  · rintro ⟨final, read, made⟩
    obtain ⟨entries, behind, formed, chain, listed, rfl⟩ :=
      readMembers_returns exactKey chooses read
    obtain ⟨parts, rfl, each, same⟩ := makes.mp ⟨final, chain, made⟩
    rw [List.map_map] at listed
    exact ⟨parts, behind,
      fun part inside => ⟨formed _ (List.mem_map_of_mem inside), each part inside⟩, listed, same,
      rfl⟩
  · rintro ⟨parts, behind, each, listed, same, rfl⟩
    obtain ⟨final, chain, made⟩ :=
      makes.mpr ⟨parts, rfl, fun part inside => (each part inside).2, same⟩
    have formed : ∀ entry ∈ parts.map (·.1), entry.Formed regime.Key := by
      intro entry inside
      obtain ⟨part, member, rfl⟩ := List.mem_map.mp inside
      exact (each part member).1
    have listed : Listed '\x7d' true ((parts.map (·.1)).map (·.text)) behind := by
      rw [List.map_map]
      exact listed
    exact ⟨final, readMembers_append exactKey chooses formed chain listed, made⟩

/-- A step of an object whose members are kept in order. -/
def Keeps (Form : ν → List Char → Prop) (members : List (κ × ν)) (name : κ)
    (next : List (κ × ν)) (text : List Char) : Prop :=
  ∃ value, Form value text ∧ members ++ [(name, value)] = next

/-- Members that are kept are kept with values that their texts write. -/
theorem chain_keeps_iff {start final : List (κ × ν)} {entries : List (Entry κ)} :
    Chain (Keeps Form) start entries final ↔
      ∃ parts : List (Entry κ × ν), entries = parts.map (·.1) ∧
        (∀ part ∈ parts, Form part.2 part.1.value) ∧
        final = start ++ parts.map fun part => (part.1.name, part.2) := by
  induction entries generalizing start with
  | nil =>
    constructor
    · intro chain
      exact ⟨[], rfl, by simp, by simpa [Chain] using chain⟩
    · rintro ⟨parts, same, -, rfl⟩
      cases parts with
      | nil => simp [Chain]
      | cons part others => simp at same
  | cons entry others ih =>
    constructor
    · rintro ⟨next, ⟨value, form, rfl⟩, chain⟩
      obtain ⟨parts, rfl, each, rfl⟩ := ih.mp chain
      refine ⟨(entry, value) :: parts, rfl, ?_, by simp⟩
      simp only [List.mem_cons, forall_eq_or_imp]
      exact ⟨form, each⟩
    · rintro ⟨parts, same, each, rfl⟩
      cases parts with
      | nil => simp at same
      | cons part rest =>
        simp only [List.map_cons, List.cons.injEq] at same
        obtain ⟨rfl, rfl⟩ := same
        simp only [List.mem_cons, forall_eq_or_imp] at each
        exact ⟨_, ⟨part.2, each.1, rfl⟩, ih.mpr ⟨rest, rfl, each.2, by simp⟩⟩

end Layers

namespace Value

/-- The value of a member is read by the reader of the values inside, and kept. -/
theorem chooses_keeps {inner : Reader Value} {Form : Value → List Char → Prop}
    (exact : inner.Exact Form) :
    Chooses (fun members key => .ok (inner.map fun value => members ++ [(key, value)]))
      (Keeps (κ := String) Form) :=
  fun _ _ => exact.map _

/-- An object of the members that are kept. -/
theorem chain_keeps_object {Form : Value → List Char → Prop} {entries : List (Entry String)}
    {value : Value} :
    (∃ final, Chain (Keeps Form) [] entries final ∧ object final = value) ↔
      ∃ parts : List (Entry String × Value), entries = parts.map (·.1) ∧
        (∀ part ∈ parts, Form part.2 part.1.value) ∧
        object (parts.map fun part => (part.1.name, part.2)) = value := by
  constructor
  · rintro ⟨final, chain, made⟩
    obtain ⟨parts, same, each, rfl⟩ := chain_keeps_iff.mp chain
    exact ⟨parts, same, each, made⟩
  · rintro ⟨parts, same, each, made⟩
    exact ⟨_, chain_keeps_iff.mpr ⟨parts, same, each, rfl⟩, made⟩

/-- A value is read exactly when the values inside it are. -/
theorem read_exact {inside : Option (Reader Value)}
    {Inner : Option (Value → List Char → Prop)} (exact : Option.Rel Reader.Exact inside Inner) :
    (Reader.spaced (read inside) read_shorter).Exact (decoding.Layer Inner) := by
  apply Reader.spaced_exact
  · exact Regime.Layer.opens ScalarText.opens
  · intro value text rest written ended
    cases written with
    | scalar form => exact read_scalar form ended
    | sequence each listed =>
      cases exact with
      | some inner =>
        rw [List.cons_append, read]
        exact (decoding.readItems_iff inner).mpr ⟨_, _, each, listed, rfl, rfl⟩
    | object each listed =>
      cases exact with
      | some inner =>
        rw [List.cons_append, read]
        exact changing_eq_ok_iff.mpr ((decoding.readMembers_iff decodedKey_exact
          (chooses_keeps inner) chain_keeps_object).mpr ⟨_, _, each, listed, rfl, rfl⟩)
  · intro value text rest found
    unfold read at found
    split at found
    · simp [refuseAt] at found
    · obtain ⟨rfl, rfl⟩ := giving_readWord found
      exact ⟨[], _, .nil, .scalar .null, rfl⟩
    · obtain ⟨rfl, rfl⟩ := giving_readWord found
      exact ⟨[], _, .nil, .scalar .yes, rfl⟩
    · obtain ⟨rfl, rfl⟩ := giving_readWord found
      exact ⟨[], _, .nil, .scalar .no, rfl⟩
    · obtain ⟨chars, read, rfl⟩ := changing_eq_ok_iff.mp found
      obtain ⟨raw, written, rfl⟩ := decodeText_returns read
      exact ⟨[], _, .nil, .scalar (.text ⟨raw, by simpa using written, rfl⟩), by simp⟩
    · split at found
      · simp [refuseAfter] at found
      · cases exact with
        | some inner =>
          obtain ⟨parts, form, each, listed, rfl, rfl⟩ :=
            (decoding.readItems_iff inner).mp found
          exact ⟨[], _, .nil, .sequence each listed, rfl⟩
    · split at found
      · simp [refuseAfter] at found
      · cases exact with
        | some inner =>
          obtain ⟨parts, form, each, listed, rfl, rfl⟩ :=
            (decoding.readMembers_iff decodedKey_exact (chooses_keeps inner)
              chain_keeps_object).mp (changing_eq_ok_iff.mp found)
          exact ⟨[], _, .nil, .object each listed, rfl⟩
    · split at found
      · obtain ⟨number, read, rfl⟩ := changing_eq_ok_iff.mp found
        obtain ⟨numeral, form, written, value, front⟩ := readNumber_returns read
        exact ⟨[], form, .nil, .scalar (.number written value), front⟩
      · simp [refuseAfter] at found

/-- The reader of values within a depth accepts exactly the values within it. -/
theorem readerWithin_exact (depth : Nat) :
    (readerWithin depth).Exact (decoding.Writes depth) := by
  induction depth with
  | zero => exact read_exact .none
  | succ depth ih => exact read_exact (.some ih)

end Value

section Passed

variable {text rest : List Char}

/-- A value without parts that is passed over starts with neither space nor a bracket. -/
theorem PassedScalar.opens (written : PassedScalar text) :
    ∃ c others, text = c :: others ∧ isSpace c = false ∧ c ≠ ']' := by
  cases written with
  | null => exact ⟨_, _, rfl, by decide⟩
  | yes => exact ⟨_, _, rfl, by decide⟩
  | no => exact ⟨_, _, rfl, by decide⟩
  | number numeral =>
    obtain ⟨c, others, same, opens⟩ := numeral.cons
    exact ⟨c, others, same, (number_opens opens).1, (number_opens opens).2.1⟩
  | text quoted =>
    obtain ⟨raw, -, same⟩ := quoted
    exact ⟨_, _, same, by decide⟩

/-- A value without parts is passed over in front of a rest, whatever passes over the values
inside. -/
theorem passValue_scalar {inside : Option (Reader Unit)} (written : PassedScalar text)
    (ended : Ended rest) : passValue inside (text ++ rest) = .ok ((), rest) := by
  cases written with
  | null => simp [passValue, giving, readWord, Except.map]
  | yes => simp [passValue, giving, readWord, Except.map]
  | no => simp [passValue, giving, readWord, Except.map]
  | number numeral =>
    have read := readNumeral_append .badNumber numeral ended
    obtain ⟨c, others, rfl, opens⟩ := numeral.cons
    have number : (decide (c = '-') || isDigit c) = true := by simpa using opens
    obtain ⟨-, -, n, t, f, quote, bracket, brace⟩ := number_opens opens
    simp only [List.cons_append] at read ⊢
    simp [passValue, read, number, changing, Except.map]
  | text quoted =>
    obtain ⟨raw, characters, rfl⟩ := quoted
    simp [passValue, giving, passText_append characters, Except.map]

/-- Members that are passed over have values that are. -/
theorem chain_passes_iff {κ : Type} {Form : Unit → List Char → Prop} {entries : List (Entry κ)} :
    Chain (fun _ _ next text => Form next text) () entries () ↔
      ∀ entry ∈ entries, Form () entry.value := by
  induction entries with
  | nil => simp [Chain]
  | cons entry others ih =>
    simp only [List.mem_cons, forall_eq_or_imp, ← ih]
    constructor
    · rintro ⟨_, form, chain⟩
      exact ⟨form, chain⟩
    · rintro ⟨form, chain⟩
      exact ⟨(), form, chain⟩

/-- The value of a member that is passed over is read by the reader of the values inside. -/
theorem chooses_passes {inner : Reader Unit} {Form : Unit → List Char → Prop}
    (exact : inner.Exact Form) :
    Chooses (fun (_ : Unit) (_ : Unit) => .ok inner) fun _ _ next text => Form next text :=
  fun _ _ => exact

/-- Of an object whose members are passed over nothing is kept. -/
theorem chain_passes_object {Form : Unit → List Char → Prop} {entries : List (Entry Unit)}
    {value : Unit} :
    (∃ final, Chain (fun _ _ next text => Form next text) () entries final ∧ final = value) ↔
      ∃ parts : List (Entry Unit × Unit), entries = parts.map (·.1) ∧
        (∀ part ∈ parts, Form part.2 part.1.value) ∧
        passing.object (parts.map fun part => (part.1.name, part.2)) = value := by
  constructor
  · rintro ⟨final, chain, -⟩
    have each := chain_passes_iff.mp chain
    refine ⟨entries.map fun entry => (entry, ()), ?_, ?_, rfl⟩
    · rw [List.map_map]
      exact (List.map_id entries).symm
    · intro part inside
      obtain ⟨entry, member, rfl⟩ := List.mem_map.mp inside
      exact each entry member
  · rintro ⟨parts, rfl, each, -⟩
    refine ⟨(), chain_passes_iff.mpr ?_, rfl⟩
    intro entry inside
    obtain ⟨part, member, rfl⟩ := List.mem_map.mp inside
    exact each part member

/-- A value is passed over exactly when the values inside it are. -/
theorem passValue_exact {inside : Option (Reader Unit)}
    {Inner : Option (Unit → List Char → Prop)} (exact : Option.Rel Reader.Exact inside Inner) :
    (Reader.spaced (passValue inside) passValue_shorter).Exact (passing.Layer Inner) := by
  apply Reader.spaced_exact
  · exact Regime.Layer.opens PassedScalar.opens
  · intro value text rest written ended
    cases written with
    | scalar form => exact passValue_scalar form ended
    | sequence each listed =>
      cases exact with
      | some inner =>
        rw [List.cons_append, passValue]
        exact (passing.readItems_iff inner).mpr ⟨_, _, each, listed, rfl, rfl⟩
    | @object _ parts behind each listed =>
      cases exact with
      | @some reader _ inner =>
        obtain ⟨_, read, rfl⟩ : ∃ final, readMembers .passing passedKey (fun _ _ => .ok reader)
            true () (behind ++ rest) = .ok (final, rest) ∧ final = () :=
          (passing.readMembers_iff passedKey_exact (chooses_passes inner)
            chain_passes_object).mpr ⟨parts, behind, each, listed, rfl, rfl⟩
        rw [List.cons_append, passValue]
        exact read
  · intro value text rest found
    unfold passValue at found
    split at found
    · simp [refuseAt] at found
    · obtain ⟨-, rfl⟩ := giving_readWord found
      exact ⟨[], _, .nil, .scalar .null, rfl⟩
    · obtain ⟨-, rfl⟩ := giving_readWord found
      exact ⟨[], _, .nil, .scalar .yes, rfl⟩
    · obtain ⟨-, rfl⟩ := giving_readWord found
      exact ⟨[], _, .nil, .scalar .no, rfl⟩
    · rename_i others
      cases read : passText others with
      | error fault => simp [giving, read, Except.map] at found
      | ok last =>
        simp only [giving, read, Except.map, Except.ok.injEq, Prod.mk.injEq, true_and] at found
        subst found
        obtain ⟨raw, written, rfl⟩ := passText_returns read
        exact ⟨[], _, .nil, .scalar (.text ⟨raw, written, rfl⟩), by simp⟩
    · split at found
      · simp [refuseAfter] at found
      · cases exact with
        | some inner =>
          obtain ⟨parts, form, each, listed, -, rfl⟩ := (passing.readItems_iff inner).mp found
          exact ⟨[], _, .nil, .sequence each listed, rfl⟩
    · split at found
      · simp [refuseAfter] at found
      · cases exact with
        | some inner =>
          obtain ⟨parts, form, each, listed, -, rfl⟩ := (passing.readMembers_iff passedKey_exact
            (chooses_passes inner) chain_passes_object).mp ⟨value, found, rfl⟩
          exact ⟨[], _, .nil, .object each listed, rfl⟩
    · split at found
      · obtain ⟨numeral, read, -⟩ := changing_eq_ok_iff.mp found
        obtain ⟨form, written, front⟩ := readNumeral_returns read
        exact ⟨[], form, .nil, .scalar (.number written), front⟩
      · simp [refuseAfter] at found

/-- The reader that passes over values within a depth accepts exactly the values within it. -/
theorem passedWithin_exact (depth : Nat) :
    (passedWithin depth).Exact (passing.Writes depth) := by
  induction depth with
  | zero => exact passValue_exact .none
  | succ depth ih => exact passValue_exact (.some ih)

/-- The items of a list are shorter than the list. -/
theorem Listed.length_lt {close : Char} {first : Bool} {items : List (List Char)}
    (listed : Listed close first items text) {item : List Char} (inside : item ∈ items) :
    item.length < text.length := by
  have positive : ∀ {first items text}, Listed close first items text → 0 < text.length := by
    intro first items
    induction items generalizing first with
    | nil =>
      rintro text ⟨space, -, rfl⟩
      simp
    | cons other others ih =>
      rintro text ⟨separator, behind, -, tail, rfl⟩
      have := ih tail
      simp only [List.length_append]
      omega
  induction items generalizing first text with
  | nil => simp at inside
  | cons other others ih =>
    obtain ⟨separator, behind, -, tail, rfl⟩ := listed
    have := positive tail
    simp only [List.length_append]
    cases List.mem_cons.mp inside with
    | inl same =>
      rw [same]
      omega
    | inr further =>
      have := ih tail further
      omega

/-- A text opens no more sequences and objects than it has characters. -/
theorem Regime.Writes.of_length {ν κ : Type} {regime : Regime ν κ} {depth bound : Nat}
    {value : ν} (written : regime.Writes depth value text) (fits : text.length ≤ bound) :
    regime.Writes bound value text := by
  induction depth generalizing bound value text with
  | zero =>
    cases written with
    | scalar form => cases bound <;> exact .scalar form
  | succ depth ih =>
    cases written with
    | scalar form => cases bound <;> exact .scalar form
    | sequence each listed =>
      cases bound with
      | zero => simp at fits
      | succ bound =>
        -- An item is shorter than the sequence by more than the bracket.
        refine .sequence (fun part inside => ih (each part inside) ?_) listed
        have := listed.length_lt (List.mem_map_of_mem inside)
        simp only [List.length_cons] at fits
        omega
    | object each listed =>
      cases bound with
      | zero => simp at fits
      | succ bound =>
        refine .object (fun part inside => ⟨(each part inside).1, ih (each part inside).2 ?_⟩)
          listed
        have := listed.length_lt (List.mem_map_of_mem inside)
        simp only [List.length_cons, Entry.text, List.length_append] at fits this
        omega

/-- The reader that passes over a value accepts exactly the values of any depth. -/
theorem passed_exact : passed.Exact fun _ text => Passed text where
  opens := by
    rintro value text ⟨depth, written⟩
    exact (passedWithin_exact depth).opens written
  accepts := by
    rintro value space text rest blank ⟨depth, written⟩ ended
    -- The reader takes the length of all the text as its bound, which is enough for the value.
    refine (passedWithin_exact _).accepts blank (written.of_length ?_) ended
    simp only [List.length_append]
    omega
  returns := by
    intro value text rest read
    obtain ⟨space, form, blank, written, front⟩ := (passedWithin_exact _).returns read
    exact ⟨space, form, blank, ⟨_, written⟩, front⟩

end Passed

end SarifDigest.Json
