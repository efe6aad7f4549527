import SarifDigest.Json.Passed

/-!
# Readers of known values

Readers of the values that a schema names: texts, integers, sequences, and records given by
their members. A record may be written as an object, whose unknown members are passed over and
whose known ones may occur once, or as a sequence that holds the members in the order of their
declaration and may end early. A value that may be absent may also be written as null.
-/
namespace SarifDigest.Json

namespace Reader

/-- A text. -/
def text : Reader String :=
  .spaced
    (fun
      | '"' :: rest => changing String.ofList (decodeText rest)
      | other => .error (mismatch "a string" other))
    (by
      intro text value rest read
      split at read
      · exact changing_shorter read fun _ _ inner => Nat.lt_succ_of_lt (decodeText_shorter inner)
      · simp at read)

/-- The integer that a number is, within the words of 64 bits with a sign. -/
def signedValue (wanted : String) : Number → Except Cause Int
  | .natural value =>
    if value < Nat.pow 2 63 then .ok value else .error (.integerOutOfRange value wanted)
  | .negative size => .ok (-size)
  | .real negative size => .error (.wrongKind (.number (.real negative size)) wanted)

/-- An integer between `-2 ^ 63` and `2 ^ 63 - 1`, named as it is in refusals. -/
def integer (wanted : String) : Reader Int :=
  .spaced
    (fun text =>
      match text with
      | [] => refuseAt .endInValue []
      | c :: rest =>
        if c = '-' || isDigit c then
          match readNumber (c :: rest) with
          | .error fault => .error fault
          | .ok (number, last) =>
            match signedValue wanted number with
            | .ok value => .ok (value, last)
            | .error cause => refuseAt cause last
        else .error (mismatch wanted (c :: rest)))
    (by
      intro text value rest read
      split at read
      · simp [refuseAt] at read
      · split at read
        · split at read
          · simp at read
          · rename_i inner
            split at read
            · simp only [Except.ok.injEq, Prod.mk.injEq] at read
              rw [← read.2]
              exact readNumber_shorter inner
            · simp [refuseAt] at read
        · simp at read)

/-- A value, or null in its place. -/
def optional {α : Type} (reader : Reader α) : Reader (Option α) :=
  .spaced
    (fun
      | 'n' :: rest => giving none (readWord ['u', 'l', 'l'] rest)
      | other => changing some (reader.run other))
    (by
      intro text value rest read
      split at read
      · exact Nat.lt_succ_of_le (giving_length read fun _ inner => readWord_length inner)
      · exact changing_shorter read fun _ _ inner => reader.shorter inner)

/-- A sequence of values. -/
def sequence {α : Type} (item : Reader α) : Reader (List α) :=
  .spaced
    (fun
      | '[' :: rest => readItems .decoding item true rest
      | other => .error (mismatch "a sequence" other))
    (by
      intro text value rest read
      split at read
      · exact Nat.lt_succ_of_lt (readItems_shorter read)
      · simp at read)

end Reader

/-- A member of a record: its name, and the reader of its value, which changes the record. -/
structure Member (σ : Type) where
  name : String
  reader : Reader (σ → σ)

namespace Member

variable {σ α : Type}

/-- The member of a name whose value is put into the record. -/
def of (name : String) (reader : Reader α) (put : α → σ → σ) : Member σ where
  name := name
  reader := reader.map put

/-- The reader of the value behind a key: that of the member of this name, unless it was read
before, and otherwise one that passes over the value. The state is the record so far and the
names read. -/
def choose (members : List (Member σ)) (state : σ × List String) (name : String) :
    Except Cause (Reader (σ × List String)) :=
  match members.find? (·.name = name) with
  | none => .ok (passed.map fun _ => state)
  | some member =>
    if name ∈ state.2 then .error (.repeatedMember name)
    else .ok (member.reader.map fun change => (change state.1, name :: state.2))

/-- The end of a record written as a sequence, when every member has been read. -/
def closeSequence (record : σ) (text : List Char) : Except Fault (σ × List Char) :=
  match skipSpace text with
  | [] => refuseAt .endInSequence []
  | ']' :: rest => .ok (record, rest)
  | ',' :: rest =>
    match skipSpace rest with
    | ']' :: rest => refuseAfter .trailingComma (']' :: rest)
    | rest => refuseAfter .trailingCharacters rest
  | rest => refuseAfter .trailingCharacters rest

/-- A record written as a sequence, from behind its bracket or one of its values. -/
def readSequence (first : Bool) (record : σ) :
    List (Member σ) → List Char → Except Fault (σ × List Char)
  | [], text => closeSequence record text
  | member :: others, text =>
    match nextItem .decoding first text with
    | .error fault => .error fault
    | .ok (.closed rest) => .ok (record, rest)
    | .ok (.more next) =>
      match member.reader.run next with
      | .error fault => .error fault
      | .ok (change, rest) => readSequence false (change record) others rest

/-- The end of a sequence takes its bracket from the text. -/
theorem closeSequence_shorter {record final : σ} {text rest : List Char}
    (read : closeSequence record text = .ok (final, rest)) : rest.length < text.length := by
  have bound := skipSpace_length text
  unfold closeSequence at read
  split at read
  · simp [refuseAt] at read
  · rename_i last start
    simp only [Except.ok.injEq, Prod.mk.injEq] at read
    rw [start] at bound
    simp only [List.length_cons] at bound
    rw [← read.2]
    omega
  · split at read <;> simp [refuseAfter] at read
  · simp [refuseAfter] at read

/-- A record as a sequence takes at least the closing bracket from the text. -/
theorem readSequence_shorter {first : Bool} {record final : σ} {members : List (Member σ)}
    {text rest : List Char} (read : readSequence first record members text = .ok (final, rest)) :
    rest.length < text.length := by
  fun_induction readSequence first record members text with
  | case1 => exact closeSequence_shorter read
  | case2 => simp at read
  | case3 first record member others text last start =>
    simp only [Except.ok.injEq, Prod.mk.injEq] at read
    rw [← read.2]
    exact nextItem_length.1 last start
  | case4 => simp at read
  | case5 first record member others text next start change last found ih =>
    have := ih read
    have := member.reader.shorter found
    have := nextItem_length.2 next start
    omega

end Member

/-- A record that starts as given and whose members are read in either form. -/
def Reader.record {σ : Type} (wanted : String) (empty : σ) (members : List (Member σ)) :
    Reader σ :=
  .spaced
    (fun
      | '\x7b' :: rest =>
        changing (·.1)
          (readMembers .decoding decodedKey (Member.choose members) true (empty, []) rest)
      | '[' :: rest => Member.readSequence true empty members rest
      | other => .error (mismatch wanted other))
    (by
      intro text value rest read
      split at read
      · exact changing_shorter read fun _ _ inner => Nat.lt_succ_of_lt (readMembers_shorter inner)
      · exact Nat.lt_succ_of_lt (Member.readSequence_shorter read)
      · simp at read)

/-- Read a whole document, behind which only space may stand. -/
def Reader.document {α : Type} (reader : Reader α) (document : String) : Except Refusal α :=
  let text := document.toList
  let read : Except Fault α :=
    match reader.run text with
    | .error fault => .error fault
    | .ok (value, rest) =>
      match skipSpace rest with
      | [] => .ok value
      | other => refuseAfter .trailingCharacters other
  match read with
  | .ok value => .ok value
  | .error fault => .error ⟨fault.cause, fault.position text⟩

end SarifDigest.Json
