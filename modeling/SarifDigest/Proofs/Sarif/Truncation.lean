import SarifDigest.Proofs.Projection.Trails
import SarifDigest.Proofs.Sarif.Decoding

/-!
# Reports cut short

A log is an object or a sequence, and the brace or bracket that closes it ends it: it is read
whatever follows. So no part of a report is taken for a report. A text that decodes as a log does
not do so when it is cut before its last character that is no space, and neither when more than
space is put behind it.
-/
namespace SarifDigest

namespace Json

/-- A reader closes its values when what it reads ends with a character that is no space, and is
read as the same value in front of any other text. -/
def Reader.Closes {α : Type} (reader : Reader α) : Prop :=
  ∀ {value text rest}, reader.run text = .ok (value, rest) →
    ∃ front last, isSpace last = false ∧ text = front ++ last :: rest ∧
      ∀ other, reader.run (front ++ last :: other) = .ok (value, other)

/-- A list ends with its closing character. -/
theorem Listed.ends {close : Char} {first : Bool} {items : List (List Char)} {text : List Char}
    (listed : Listed close first items text) : ∃ front, text = front ++ [close] := by
  induction items generalizing first text with
  | nil =>
    obtain ⟨space, -, rfl⟩ := listed
    exact ⟨space, rfl⟩
  | cons item others ih =>
    obtain ⟨separator, behind, -, rest, rfl⟩ := listed
    obtain ⟨front, rfl⟩ := ih rest
    exact ⟨separator ++ (item ++ front), by simp⟩

/-- A record ends with its closing brace or bracket. -/
theorem RecordText.ends {σ : Type} {slots : List (Slot σ)} {record : σ} {text : List Char}
    (written : RecordText slots record text) :
    ∃ front last, isSpace last = false ∧ text = front ++ [last] := by
  cases written with
  | object _ listed =>
    obtain ⟨front, rfl⟩ := listed.ends
    exact ⟨'\x7b' :: front, '\x7d', by decide, rfl⟩
  | sequence _ listed =>
    obtain ⟨front, rfl⟩ := listed.ends
    exact ⟨'[' :: front, ']', by decide, rfl⟩

/-- Readers of records close their values. -/
theorem Reader.closes_record {σ : Type} {blank : σ} {fillings : List (Filling σ)}
    (wanted : String) (complete : Complete blank fillings) :
    (Reader.record wanted blank (fillings.map (·.member))).Closes := by
  intro record text rest read
  obtain ⟨space, form, before, written, rfl⟩ := (record_exact wanted complete).returns read
  obtain ⟨front, last, solid, rfl⟩ := written.ends
  refine ⟨space ++ front, last, solid, by simp, fun other => ?_⟩
  have again := record_closes wanted complete before written other
  simpa only [List.append_assoc, List.singleton_append] using again

section Documents

variable {α : Type} {reader : Reader α} {value : α} {beginning rest : String}

/-- Behind a document there may be space, which changes nothing, and there may be nothing else. -/
theorem Reader.Closes.document_append_iff (closes : reader.Closes)
    (read : reader.document beginning = .ok value) {other : α} :
    reader.document (beginning ++ rest) = .ok other ↔ Spaces rest.toList ∧ other = value := by
  obtain ⟨behind, found, trailing⟩ := document_eq_ok_iff_run.mp read
  obtain ⟨front, last, -, split, again⟩ := closes found
  have longer : reader.run (beginning ++ rest).toList = .ok (value, behind ++ rest.toList) := by
    rw [String.toList_append, split, List.append_assoc, List.cons_append]
    exact again _
  rw [document_eq_ok_iff_run, longer]
  constructor
  · rintro ⟨left, same, blank⟩
    cases same
    exact ⟨fun c inside => blank c (List.mem_append_right _ inside), rfl⟩
  · rintro ⟨blank, rfl⟩
    exact ⟨_, rfl, trailing.append blank⟩

/-- Of the space behind a document any part can be cut off. -/
theorem Reader.Closes.document_of_append (closes : reader.Closes)
    (read : reader.document (beginning ++ rest) = .ok value) (blank : Spaces rest.toList) :
    reader.document beginning = .ok value := by
  obtain ⟨behind, found, trailing⟩ := document_eq_ok_iff_run.mp read
  obtain ⟨front, last, solid, split, again⟩ := closes found
  have parts : beginning.toList ++ rest.toList = (front ++ [last]) ++ behind := by
    rw [← String.toList_append, split, List.append_assoc, List.singleton_append]
  have kept : ∃ left, beginning.toList = front ++ last :: left ∧ Spaces left := by
    rcases List.append_eq_append_iff.mp parts with ⟨cut, whole, tail⟩ | ⟨left, whole, tail⟩
    · -- The cut is before the end of the value or right there, and the value ends in no space.
      rcases List.eq_nil_or_concat cut with rfl | ⟨others, c, rfl⟩
      · exact ⟨[], by simpa using whole.symm, .nil⟩
      · rw [List.concat_eq_append, ← List.append_assoc] at whole
        have same : last = c := by simpa using List.append_inj_right' whole rfl
        have inside : last ∈ rest.toList := by simp [tail, same]
        rw [spaces_iff.mp blank last inside] at solid
        contradiction
    · refine ⟨left, by simpa using whole, fun c inside => trailing c ?_⟩
      rw [tail]
      exact List.mem_append_left _ inside
  obtain ⟨left, whole, only⟩ := kept
  rw [document_eq_ok_iff_run, whole]
  exact ⟨left, again left, only⟩

end Documents

end Json

open Json (Spaces isSpace)

namespace Sarif

/-- The reader of logs closes its values. -/
theorem Log.closes_reader : (Log.reader nestingLimit).Closes :=
  Json.Reader.closes_record "struct SarifLog" (Log.complete (nestingLimit - 5))

end Sarif

open Sarif

/-- A report that is cut before its last character that is no space is refused as no log, so it
has no violations, and a text that decodes as a log is refused with more than space behind it.
Space behind a report is no part of it. -/
theorem decode_beginning_refused (beginning rest : String) :
    ((∃ c ∈ rest.toList, isSpace c = false) →
      (∀ log, Log.decode (beginning ++ rest) = .ok log →
        ∃ refusal, Log.decode beginning = .error refusal ∧
          ∀ reporter, reportViolations beginning reporter = .error (.notALog refusal)) ∧
      ∀ log, Log.decode beginning = .ok log →
        ∃ refusal, Log.decode (beginning ++ rest) = .error refusal) ∧
    (Spaces rest.toList → ∀ log,
      Log.decode (beginning ++ rest) = .ok log ↔ Log.decode beginning = .ok log) := by
  have longer_iff {log longer : Log} (short : Log.decode beginning = .ok log) :
      Log.decode (beginning ++ rest) = .ok longer ↔ Spaces rest.toList ∧ longer = log :=
    Log.closes_reader.document_append_iff short
  refine ⟨?solid, ?blank⟩
  case solid =>
    rintro ⟨c, inside, solid⟩
    have mixed : ¬ Spaces rest.toList := by
      intro blank
      rw [Json.spaces_iff.mp blank c inside] at solid
      contradiction
    constructor
    · intro log long
      cases short : Log.decode beginning with
      | ok shorter => exact absurd ((longer_iff short).mp long).1 mixed
      | error refusal =>
        exact ⟨refusal, rfl, fun reporter => reportViolations_of_refused reporter short⟩
    · intro log short
      cases long : Log.decode (beginning ++ rest) with
      | ok longer => exact absurd ((longer_iff short).mp long).1 mixed
      | error refusal => exact ⟨refusal, rfl⟩
  case blank =>
    intro blank log
    constructor
    · intro long
      exact Log.closes_reader.document_of_append long blank
    · intro short
      exact (longer_iff short).mpr ⟨blank, rfl⟩

/-- The beginning of a report, which stops inside an escape of a level. -/
def cutReport : String :=
  "\x7b\"runs\":[\x7b\"results\":[\x7b\"level\":\"err\\u00"

/-- What is missing of that report. -/
def missingPart : String :=
  "6fr\"\x7d]\x7d]\x7d\n"

/-- The report is refused when the part is missing, and an empty one when it is written twice. -/
theorem decode_beginning_refused_escape :
    Log.decode (cutReport ++ missingPart) =
      .ok ⟨some [{ results := some [{ level := .error }] }]⟩ ∧
    (∃ refusal, Log.decode cutReport = .error refusal ∧
      ∀ reporter, reportViolations cutReport reporter = .error (.notALog refusal)) ∧
    Log.decode "[]" = .ok {} ∧ ∃ refusal, Log.decode ("[]" ++ " []") = .error refusal := by
  have decoded : Log.decode (cutReport ++ missingPart) =
      .ok ⟨some [{ results := some [{ level := .error }] }]⟩ := by decide +kernel
  have empty : Log.decode "[]" = .ok {} := by decide +kernel
  obtain ⟨refused, _⟩ :=
    (decode_beginning_refused cutReport missingPart).1 ⟨'6', by decide, by decide⟩
  obtain ⟨_, doubled⟩ := (decode_beginning_refused "[]" " []").1 ⟨']', by decide, by decide⟩
  exact ⟨decoded, refused _ decoded, empty, doubled _ empty⟩

end SarifDigest
