import SarifDigest.Json.Value
import SarifDigest.Proofs.Text.OneLine
import SarifDigest.Sarif.Document

/-!
# What a refusal names

The cause of a refusal names what was found in a document and what the format wanted there. What
was found is shown quoted or as a number, and what was wanted is a word that the reader was made
with. So the message of a refusal is one line, whatever the document holds, as long as the words
of the format are.
-/
namespace SarifDigest

namespace Json

open Text (OneLine)

/-- The words of the format that a cause names. -/
def Cause.words : Cause → List String
  | wrongKind _ wanted => [wanted]
  | integerOutOfRange _ wanted => [wanted]
  | repeatedMember name => [name]
  | _ => []

/-- What was found is described on one line. -/
theorem Found.oneLine_description (found : Found) : OneLine found.description := by
  cases found with
  | null => decide
  | sequence => decide
  | map => decide
  | boolean value => cases value <;> decide
  | text value => exact Text.oneLine_append.2 ⟨by decide, Text.oneLine_quoted value⟩
  | number value =>
    cases value with
    | natural value =>
      exact Text.oneLine_append.2 ⟨Text.oneLine_append.2 ⟨by decide, Text.oneLine_natural value⟩,
        by decide⟩
    | negative size =>
      exact Text.oneLine_append.2 ⟨Text.oneLine_append.2 ⟨by decide, Text.oneLine_natural size⟩,
        by decide⟩
    | real negative size =>
      exact Text.oneLine_append.2 ⟨Text.oneLine_append.2 ⟨by decide,
        Text.oneLine_real negative size⟩, by decide⟩

/-- A cause is worded on one line when the words of the format that it names are one line. -/
theorem Cause.oneLine_message {cause : Cause} (words : ∀ word ∈ cause.words, OneLine word) :
    OneLine cause.message := by
  cases cause with
  | wrongKind found wanted =>
    have word : OneLine wanted := words wanted List.mem_cons_self
    have label : OneLine "invalid type: " := by decide
    have middle : OneLine ", expected " := by decide
    change OneLine ("invalid type: " ++ found.description ++ ", expected " ++ wanted)
    simp only [Text.oneLine_append]
    exact ⟨⟨⟨label, found.oneLine_description⟩, middle⟩, word⟩
  | integerOutOfRange value wanted =>
    have word : OneLine wanted := words wanted List.mem_cons_self
    have label : OneLine "invalid value: integer `" := by decide
    have middle : OneLine "`, expected " := by decide
    change OneLine ("invalid value: integer `" ++ toString value ++ "`, expected " ++ wanted)
    simp only [Text.oneLine_append]
    exact ⟨⟨⟨label, Text.oneLine_natural value⟩, middle⟩, word⟩
  | repeatedMember name =>
    have word : OneLine name := words name List.mem_cons_self
    have label : OneLine "duplicate field `" := by decide
    have close : OneLine "`" := by decide
    change OneLine ("duplicate field `" ++ name ++ "`")
    simp only [Text.oneLine_append]
    exact ⟨⟨label, word⟩, close⟩
  | _ => decide +kernel

/-- A refusal is worded on one line when the words of the format that it names are one line. -/
theorem Refusal.oneLine_message {refusal : Refusal}
    (words : ∀ word ∈ refusal.cause.words, OneLine word) : OneLine refusal.message := by
  have cause := Cause.oneLine_message words
  have line : OneLine " at line " := by decide
  have column : OneLine " column " := by decide
  simp only [message, Text.oneLine_append]
  exact ⟨⟨⟨⟨cause, line⟩, Text.oneLine_natural _⟩, column⟩, Text.oneLine_natural _⟩

/-- A result that, when it is a refusal, names only words of some kind. -/
def Names {α : Type} (Fine : String → Prop) (result : Except Fault α) : Prop :=
  ∀ fault, result = .error fault → ∀ word ∈ fault.cause.words, Fine word

section Results

variable {Fine : String → Prop} {α β : Type}

/-- A result that is no refusal names nothing. -/
theorem Names.ok (value : α) : Names Fine (.ok value : Except Fault α) := by
  intro fault refused
  contradiction

/-- A refusal whose cause names no word. -/
theorem Names.plain {fault : Fault} (none : fault.cause.words = []) :
    Names Fine (.error fault : Except Fault α) := by
  intro other same word inside
  cases same
  rw [none] at inside
  contradiction

/-- A refusal that is passed on. -/
theorem Names.again {result : Except Fault β} (names : Names Fine result) {fault : Fault}
    (refused : result = .error fault) : Names Fine (.error fault : Except Fault α) := by
  intro other same
  cases same
  exact names fault refused

/-- A result whose value is changed is refused as before. -/
theorem Names.map {result : Except Fault α} (names : Names Fine result) (change : α → β) :
    Names Fine (result.map change) := by
  cases result with
  | ok value => exact .ok _
  | error fault => exact names.again rfl

/-- A result that is gone on from names what its parts name. -/
theorem Names.bind {result : Except Fault α} (names : Names Fine result)
    {further : α → Except Fault β} (rest : ∀ value, Names Fine (further value)) :
    Names Fine (result >>= further) := by
  cases result with
  | ok value => exact rest value
  | error fault => exact names.again rfl

end Results

section Texts

variable {Fine : String → Prop}

/-- Refusals of a text's unit name no word. -/
theorem names_hexUnit (text : List Char) : Names Fine (hexUnit text) := by
  have refused : ∀ text : List Char, Names Fine (refuseUnit (α := Nat × List Char) text) := by
    intro text
    unfold refuseUnit
    split
    · exact .plain rfl
    · exact .plain rfl
  unfold hexUnit
  split
  · split
    · exact .ok _
    · exact refused _
  · exact refused _

/-- Refusals of an escape name no word. -/
theorem names_escape (text : List Char) : Names Fine (escape text) := by
  unfold escape
  split
  · exact .plain rfl
  · unfold unitEscape
    refine (names_hexUnit _).bind ?_
    rintro ⟨unit, rest⟩
    dsimp only
    split
    · exact .plain rfl
    · split
      · exact .ok _
      · split
        · exact .plain rfl
        · exact .plain rfl
        · refine (names_hexUnit _).bind ?_
          rintro ⟨second, last⟩
          dsimp only
          split
          · exact .ok _
          · exact .plain rfl
        · exact .plain rfl
        · exact .plain rfl
  · split
    · exact .ok _
    · exact .plain rfl

/-- Refusals of a text that is decoded name no word. -/
theorem names_decodeText (text : List Char) : Names Fine (decodeText text) := by
  fun_induction decodeText text with
  | case1 => exact .plain rfl
  | case2 => exact .ok _
  | case3 rest fault refused => exact (names_escape rest).again refused
  | case4 rest decoded next read shorter ih => exact ih.map _
  | case5 => exact .plain rfl
  | case6 c rest noQuote noBackslash plain ih => exact ih.map _

/-- Refusals of a text that is passed over name no word. -/
theorem names_passText (text : List Char) : Names Fine (passText text) := by
  have escapes : ∀ text, Names Fine (passEscape text) := by
    intro text
    unfold passEscape
    split
    · exact .plain rfl
    · exact (names_hexUnit _).map _
    · split
      · exact .ok _
      · exact .plain rfl
  fun_induction passText text with
  | case1 => exact .plain rfl
  | case2 => exact .ok _
  | case3 rest fault refused => exact (escapes rest).again refused
  | case4 rest next read shorter ih => exact ih
  | case5 => exact .plain rfl
  | case6 c rest noQuote noBackslash plain ih => exact ih

/-- Refusals of a numeral name no word when that of an end does not. -/
theorem names_readNumeral {atEnd : Cause} (none : atEnd.words = []) (text : List Char) :
    Names Fine (readNumeral atEnd text) := by
  have whole : ∀ text, Names Fine (readWhole atEnd text) := by
    intro text
    unfold readWhole
    split
    · exact .plain none
    · split
      · exact .plain rfl
      · exact .ok _
    · split
      · exact .ok _
      · exact .plain rfl
  have fraction : ∀ text, Names Fine (readFraction atEnd text) := by
    intro text
    unfold readFraction
    split
    · exact .plain none
    · split
      · exact .ok _
      · exact .plain rfl
    · exact .ok _
  have exponent : ∀ text, Names Fine (readExponent atEnd text) := by
    intro text
    unfold readExponent
    split
    split
    · exact .plain none
    · split
      · exact .ok _
      · exact .plain rfl
  have power : ∀ text, Names Fine (readPower atEnd text) := by
    intro text
    unfold readPower
    split
    · exact (exponent _).map _
    · exact (exponent _).map _
    · exact .ok _
  unfold readNumeral
  split
  refine (whole _).bind ?_
  intro first
  refine (fraction _).bind ?_
  intro second
  refine (power _).bind ?_
  intro third
  exact .ok _

/-- Refusals of a number name no word. -/
theorem names_readNumber (text : List Char) : Names Fine (readNumber text) := by
  unfold readNumber
  refine (names_readNumeral rfl text).bind ?_
  intro read
  dsimp only
  split
  · exact .ok _
  · exact .plain rfl

/-- Refusals of a word of the notation name no word of the format. -/
theorem names_readWord (word text : List Char) : Names Fine (readWord word text) := by
  fun_induction readWord word text with
  | case1 => exact .ok _
  | case2 => exact .plain rfl
  | case3 w word rest ih => exact ih
  | case4 => exact .plain rfl

end Texts

section Lists

variable {Fine : String → Prop} {α κ σ : Type}

/-- The value of another kind than the one wanted is refused in the name of what is wanted. -/
theorem names_mismatch {wanted : String} (fine : Fine wanted) (text : List Char) :
    ∀ word ∈ (mismatch wanted text).cause.words, Fine word := by
  have kind : ∀ found, ∀ word ∈ (Cause.wrongKind found wanted).words, Fine word := by
    intro found word inside
    rw [List.mem_singleton.1 inside]
    exact fine
  unfold mismatch
  dsimp only
  split
  · intro word inside
    contradiction
  -- The three words that a value may be.
  iterate 3
    · split
      · exact kind _
      · rename_i fault refused
        exact names_readWord _ _ fault refused
  · exact kind _
  · exact kind _
  · split
    · exact kind _
    · rename_i fault refused
      exact names_decodeText _ fault refused
  · split
    · split
      · exact kind _
      · rename_i fault refused
        exact names_readNumber _ fault refused
    · intro word inside
      contradiction

/-- A manner whose causes name no word. -/
structure Manner.Plain (manner : Manner) : Prop where
  closedSequence : manner.closedSequence.words = []
  closedObject : manner.closedObject.words = []
  endedObject : manner.endedObject.words = []

/-- The manner of values that are decoded names no word. -/
theorem Manner.plain_decoding : Manner.decoding.Plain := ⟨rfl, rfl, rfl⟩

/-- The manner of values that are passed over names no word. -/
theorem Manner.plain_passing : Manner.passing.Plain := ⟨rfl, rfl, rfl⟩

variable {manner : Manner}

/-- Refusals between items name no word. -/
theorem names_nextItem (plain : manner.Plain) (first : Bool) (text : List Char) :
    Names Fine (nextItem manner first text) := by
  unfold nextItem
  split
  · exact .plain rfl
  · exact .ok _
  · split
    · exact .ok _
    · split
      · split
        · exact .plain rfl
        · exact .plain plain.closedSequence
        · exact .ok _
      · exact .plain rfl

/-- Refusals between members name no word. -/
theorem names_nextKey (plain : manner.Plain) (first : Bool) (text : List Char) :
    Names Fine (nextKey manner first text) := by
  have key : ∀ text, Names Fine (keyStart text) := by
    intro text
    unfold keyStart
    split
    · exact .ok _
    · exact .plain rfl
  unfold nextKey
  split
  · exact .plain rfl
  · exact .ok _
  · split
    · exact key _
    · split
      · split
        · exact .plain plain.endedObject
        · exact .plain plain.closedObject
        · exact key _
      · exact .plain rfl

/-- Refusals of a colon name no word. -/
theorem names_readColon (text : List Char) : Names Fine (readColon text) := by
  unfold readColon
  split
  · exact .plain rfl
  · exact .ok _
  · exact .plain rfl

/-- A reader whose refusals name only words of some kind. -/
def Reader.Names (Fine : String → Prop) (reader : Reader α) : Prop :=
  ∀ text, Json.Names Fine (reader.run text)

/-- Refusals of items name what the reader of the items names. -/
theorem names_readItems (plain : manner.Plain) {item : Reader α} (items : item.Names Fine)
    (first : Bool) (text : List Char) : Names Fine (readItems manner item first text) := by
  fun_induction readItems manner item first text with
  | case1 first text fault refused => exact (names_nextItem plain first text).again refused
  | case2 => exact .ok _
  | case3 first text next start fault refused => exact (items next).again refused
  | case4 first text next start value rest read shorter length ih => exact ih.map _

/-- Refusals of members name what the readers of the keys and of the values name. -/
theorem names_readMembers (plain : manner.Plain) {key : Reader κ}
    {choose : σ → κ → Except Cause (Reader σ)} (keys : key.Names Fine)
    (values : ∀ state name, (∀ cause, choose state name = .error cause →
      ∀ word ∈ cause.words, Fine word) ∧
        ∀ reader, choose state name = .ok reader → reader.Names Fine)
    (first : Bool) (state : σ) (text : List Char) :
    Names Fine (readMembers manner key choose first state text) := by
  fun_induction readMembers manner key choose first state text with
  | case1 first state text fault refused => exact (names_nextKey plain first text).again refused
  | case2 => exact .ok _
  | case3 first state text next start fault refused => exact (keys next).again refused
  | case4 first state text next start found rest name cause refused =>
    intro fault same word inside
    cases same
    exact (values state found).1 cause refused word inside
  | case5 first state text next start found rest name value chosen fault refused =>
    exact (names_readColon _).again refused
  | case6 first state text next start found rest name value chosen last colon fault refused =>
    exact ((values state found).2 value chosen last).again refused
  | case7 => 
    rename_i ih
    exact ih

end Lists

namespace Reader

variable {Fine : String → Prop} {α β σ : Type}

/-- A reader that passes over space first names what its body names. -/
theorem Names.spaced {body : List Char → Except Fault (α × List Char)}
    {shorter : ∀ {text value rest}, body text = .ok (value, rest) → rest.length < text.length}
    (names : ∀ text, Json.Names Fine (body text)) : (Reader.spaced body @shorter).Names Fine := by
  intro text
  exact names (skipSpace text)

/-- A reader whose value is changed names the same. -/
theorem Names.map {reader : Reader α} (names : reader.Names Fine) (change : α → β) :
    (reader.map change).Names Fine := by
  intro text
  exact Json.Names.map (names text) _

/-- The reader of decoded keys names no word. -/
theorem names_decodedKey : decodedKey.Names Fine := by
  intro text
  exact (names_decodeText text).map _

/-- The reader of keys that are passed over names no word. -/
theorem names_passedKey : passedKey.Names Fine := by
  intro text
  exact (names_passText text).map _

/-- A value of any kind is refused without a word of the format, as the values inside it are. -/
theorem names_value (inside : Option (Reader Value))
    (names : ∀ reader, inside = some reader → reader.Names Fine) (text : List Char) :
    Json.Names Fine (Value.read inside text) := by
  unfold Value.read
  split
  · exact .plain rfl
  · exact (names_readWord _ _).map _
  · exact (names_readWord _ _).map _
  · exact (names_readWord _ _).map _
  · exact (names_decodeText _).map _
  · split
    · exact .plain rfl
    · rename_i inner
      exact (names_readItems Manner.plain_decoding (names inner rfl) _ _).map _
  · split
    · exact .plain rfl
    · rename_i inner
      refine (names_readMembers Manner.plain_decoding names_decodedKey ?_ _ _ _).map _
      intro members key
      refine ⟨fun cause refused => by contradiction, ?_⟩
      intro reader chosen
      cases chosen
      exact (names inner rfl).map _
  · split
    · exact (names_readNumber _).map _
    · exact .plain rfl

/-- The reader of values of any kind names no word. -/
theorem names_readerWithin (depth : Nat) : (Value.readerWithin depth).Names Fine := by
  induction depth with
  | zero =>
    apply Names.spaced
    apply names_value
    intro reader none
    contradiction
  | succ depth ih =>
    apply Names.spaced
    apply names_value
    intro reader same
    cases same
    exact ih

/-- A value that is passed over is refused without a word of the format, as the values inside it
are. -/
theorem names_passValue (inside : Option (Reader Unit))
    (names : ∀ reader, inside = some reader → reader.Names Fine) (text : List Char) :
    Json.Names Fine (passValue inside text) := by
  unfold passValue
  split
  · exact .plain rfl
  · exact (names_readWord _ _).map _
  · exact (names_readWord _ _).map _
  · exact (names_readWord _ _).map _
  · exact (names_passText _).map _
  · split
    · exact .plain rfl
    · rename_i inner
      exact (names_readItems Manner.plain_passing (names inner rfl) _ _).map _
  · split
    · exact .plain rfl
    · rename_i inner
      refine names_readMembers Manner.plain_passing names_passedKey ?_ _ _ _
      intro state key
      refine ⟨fun cause refused => by contradiction, ?_⟩
      intro reader chosen
      cases chosen
      exact names inner rfl
  · split
    · exact (names_readNumeral rfl _).map _
    · exact .plain rfl

/-- The reader of values that are passed over names no word. -/
theorem names_passed : passed.Names Fine := by
  have within : ∀ depth, (passedWithin depth).Names Fine := by
    intro depth
    induction depth with
    | zero =>
      apply Names.spaced
      apply names_passValue
      intro reader none
      contradiction
    | succ depth ih =>
      apply Names.spaced
      apply names_passValue
      intro reader same
      cases same
      exact ih
  intro text
  exact within text.length text

/-- A text is refused in the name of a string. -/
theorem names_text (fine : Fine "a string") : Reader.text.Names Fine := by
  apply Names.spaced
  intro text
  split
  · exact (names_decodeText _).map _
  · intro fault same
    cases same
    exact names_mismatch fine _

/-- An integer is refused in the name of what is wanted. -/
theorem names_integer {wanted : String} (fine : Fine wanted) : (integer wanted).Names Fine := by
  apply Names.spaced
  intro text
  split
  · exact .plain rfl
  · split
    · split
      · rename_i fault refused
        exact (names_readNumber _).again refused
      · split
        · exact .ok _
        · rename_i number last _ cause refused
          intro fault same word inside
          cases same
          have named : cause.words = [wanted] := by
            unfold signedValue at refused
            split at refused
            · split at refused
              · contradiction
              · cases refused
                rfl
            · contradiction
            · cases refused
              rfl
          rw [named] at inside
          rw [List.mem_singleton.1 inside]
          exact fine
    · intro fault same
      cases same
      exact names_mismatch fine _

/-- A value that may be null is refused as one that may not. -/
theorem names_optional {reader : Reader α} (names : reader.Names Fine) :
    (optional reader).Names Fine := by
  apply Names.spaced
  intro text
  split
  · exact (names_readWord _ _).map _
  · exact Json.Names.map (names _) _

/-- A sequence is refused in its own name or as its items are. -/
theorem names_sequence {item : Reader α} (fine : Fine "a sequence") (names : item.Names Fine) :
    (sequence item).Names Fine := by
  apply Names.spaced
  intro text
  split
  · exact names_readItems Manner.plain_decoding names _ _
  · intro fault same
    cases same
    exact names_mismatch fine _

/-- A record written as a sequence is refused as its members are. -/
theorem names_readSequence {members : List (Member σ)}
    (each : ∀ member ∈ members, member.reader.Names Fine) (first : Bool) (record : σ)
    (text : List Char) : Json.Names Fine (Member.readSequence first record members text) := by
  fun_induction Member.readSequence first record members text with
  | case1 first record text =>
    unfold Member.closeSequence
    split
    · exact .plain rfl
    · exact .ok _
    · split
      · exact .plain rfl
      · exact .plain rfl
    · exact .plain rfl
  | case2 first record member others text fault refused =>
    exact (names_nextItem Manner.plain_decoding first text).again refused
  | case3 => exact .ok _
  | case4 first record member others text next start fault refused =>
    exact (each member List.mem_cons_self next).again refused
  | case5 first record member others text next start change rest read ih =>
    exact ih fun other inside => each other (List.mem_cons_of_mem _ inside)

/-- Members whose names are words of some kind and whose readers name only such words. -/
def NamesMembers (Fine : String → Prop) (members : List (Member σ)) : Prop :=
  ∀ member ∈ members, Fine member.name ∧ member.reader.Names Fine

/-- No members name nothing. -/
theorem NamesMembers.none : NamesMembers Fine ([] : List (Member σ)) := by
  intro member inside
  contradiction

/-- A further member names its name and what its reader names. -/
theorem NamesMembers.further {name : String} {reader : Reader α} {put : α → σ → σ}
    {members : List (Member σ)} (others : NamesMembers Fine members) (fine : Fine name)
    (names : reader.Names Fine) : NamesMembers Fine (Member.of name reader put :: members) := by
  intro member inside
  cases List.mem_cons.1 inside with
  | inl same =>
    rw [same]
    exact ⟨fine, names.map put⟩
  | inr further => exact others member further

/-- A record is refused in its own name, in that of a member or as a member is. -/
theorem names_record {wanted : String} {empty : σ} {members : List (Member σ)}
    (fine : Fine wanted) (each : NamesMembers Fine members) :
    (record wanted empty members).Names Fine := by
  apply Names.spaced
  intro text
  split
  · refine (names_readMembers Manner.plain_decoding names_decodedKey ?_ _ _ _).map _
    intro state key
    unfold Member.choose
    split
    · exact ⟨fun cause refused => by contradiction, fun reader chosen => by
        cases chosen
        exact names_passed.map _⟩
    · rename_i member found
      have inside := List.mem_of_find?_eq_some found
      split
      · refine ⟨?_, fun reader chosen => by contradiction⟩
        intro cause refused word named
        cases refused
        have same : member.name = key := by simpa using List.find?_some found
        rw [List.mem_singleton.1 named, ← same]
        exact (each member inside).1
      · refine ⟨fun cause refused => by contradiction, ?_⟩
        intro reader chosen
        cases chosen
        exact (each member inside).2.map _
  · exact names_readSequence (fun member inside => (each member inside).2) _ _ _
  · intro fault same
    cases same
    exact names_mismatch fine _

/-- A document is refused as its reader refuses, or for what stands behind its value. -/
theorem names_document {reader : Reader α} (names : reader.Names Fine) {document : String}
    {refusal : Refusal} (refused : reader.document document = .error refusal) :
    ∀ word ∈ refusal.cause.words, Fine word := by
  cases ran : reader.run document.toList with
  | error fault =>
    simp only [Reader.document, ran, Except.error.injEq] at refused
    rw [← refused]
    exact names _ fault ran
  | ok read =>
    cases behind : skipSpace read.2 with
    | nil =>
      simp only [Reader.document, ran, behind] at refused
      contradiction
    | cons c others =>
      simp only [Reader.document, ran, behind, refuseAfter, Except.error.injEq] at refused
      intro word inside
      rw [← refused] at inside
      contradiction

end Reader

end Json

end SarifDigest
