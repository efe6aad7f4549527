import SarifDigest.Program.Digesting
import SarifDigest.Proofs.Json.Writing

/-!
# Digests read back

A digest that is written as data can be read back from its text without any loss, whatever its
texts hold and in either spacing. Reading back goes by the names of members; a listing is taken
for a set of violations only if it is in the order of the set. Numbers are recovered as far as
the words of a machine reach.
-/
namespace SarifDigest

namespace Json.Value

/-- The member of an object with a name. -/
def member? (name : String) : Value → Option Value
  | object members => members.lookup name
  | _ => none

/-- The members of an object. -/
def members? : Value → Option (List (String × Value))
  | object members => some members
  | _ => none

/-- The items of a sequence. -/
def items? : Value → Option (List Value)
  | sequence items => some items
  | _ => none

/-- The natural number that a value is. -/
def natural? : Value → Option Nat
  | number (.natural value) => some value
  | _ => none

end Json.Value

open Json (Value Spaces DocumentText decoding)

section Reading

/-- The format of a name. -/
def ReportFormat.ofName? (name : String) : Option ReportFormat :=
  if name = ReportFormat.name .sarif then some .sarif else none

/-- The severity of a name. -/
def Severity.ofName? (name : String) : Option Severity :=
  [.info, .warn, .error].find? fun severity => severity.name = name

/-- Details from an object whose members are in the order of their names. -/
def Details.ofDocument? (value : Value) : Option Details := do
  let members ← value.members?
  let pairs ← members.mapM fun (name, value) => value.text?.map fun text => (name, text)
  if sorted : SortedByKey pairs then some ⟨pairs, sorted⟩ else none

/-- A violation from an object. -/
def Violation.ofDocument? (value : Value) : Option Violation := do
  let text (name : String) := (value.member? name).bind Value.text?
  some {
    parser := ← (text "parser").bind ReportFormat.ofName?
    file := ← text "file"
    startLine := ← (value.member? "startLine").bind Value.natural?
    rule := ← text "rule"
    message := ← text "message"
    severity := ← (text "severity").bind Severity.ofName?
    reporter := ← text "reporter"
    specifics := ← (value.member? "specifics").bind Details.ofDocument? }

/-- A summary from an object. -/
def Summary.ofDocument? (value : Value) : Option Summary := do
  let count (name : String) := (value.member? name).bind Value.natural?
  some {
    errors := ← count "errors"
    warnings := ← count "warnings"
    infos := ← count "infos"
    files := ← count "files"
    failed := ← count "failed" }

/-- A failure from an object. -/
def InputFailure.ofDocument? (value : Value) : Option InputFailure := do
  let text (name : String) := (value.member? name).bind Value.text?
  some { file := ← text "file", message := ← text "message" }

/-- A digest from an object whose violations are in strictly increasing order. -/
def Digest.ofDocument? (value : Value) : Option Digest := do
  let list (name : String) := (value.member? name).bind Value.items?
  let violations ← (← list "violations").mapM Violation.ofDocument?
  let summary ← (value.member? "summary").bind Summary.ofDocument?
  let failures ← (← list "failures").mapM InputFailure.ofDocument?
  if increasing : Increasing violations then
    some { violations := ⟨violations, increasing⟩, summary, failures }
  else none

/-- What is read from the documents of a list are its elements, if each is read from its own. -/
theorem mapM_map_eq_some {α β : Type} {write : α → β} {read : β → Option α}
    (back : ∀ x, read (write x) = some x) (list : List α) :
    (list.map write).mapM read = some list := by
  induction list with
  | nil => rfl
  | cons x others ih => simp [back x, ih]

/-- A severity is read back from its name. -/
theorem Severity.ofName?_name (severity : Severity) : ofName? severity.name = some severity := by
  cases severity <;> decide

/-- Details are read back from their document, which keeps the order of their keys. -/
theorem Details.ofDocument?_document (details : Details) :
    ofDocument? details.document = some details := by
  have pairs : (details.pairs.map fun pair => (pair.1, Value.text pair.2)).mapM
      (fun member => member.2.text?.map fun text => (member.1, text)) = some details.pairs := by
    apply mapM_map_eq_some
    intro pair
    rfl
  simp [ofDocument?, document, Value.members?, pairs, details.sorted]

/-- A violation is read back from its document. -/
theorem Violation.ofDocument?_document (violation : Violation) :
    ofDocument? violation.document = some violation := by
  simp [ofDocument?, document, Value.member?, Value.text?, Value.natural?, natural,
    List.lookup_cons, ReportFormat.ofName?, Severity.ofName?_name, Details.ofDocument?_document]

/-- A summary is read back from its document. -/
theorem Summary.ofDocument?_document (summary : Summary) :
    ofDocument? summary.document = some summary := by
  simp [ofDocument?, document, Value.member?, Value.natural?, natural, List.lookup_cons]

/-- A failure is read back from its document. -/
theorem InputFailure.ofDocument?_document (failure : InputFailure) :
    ofDocument? failure.document = some failure := by
  simp [ofDocument?, document, Value.member?, Value.text?, List.lookup_cons]

/-- A digest is read back from its own document. -/
theorem Digest.ofDocument?_document (digest : Digest) :
    ofDocument? digest.document = some digest := by
  have violations := mapM_map_eq_some Violation.ofDocument?_document digest.violations.toList
  have failures := mapM_map_eq_some InputFailure.ofDocument?_document digest.failures
  simp [ofDocument?, document, Value.member?, Value.items?, List.lookup_cons, violations,
    failures, Summary.ofDocument?_document, digest.violations.increasing]

end Reading

section Words

/-- A summary whose counts are words of 64 bits. -/
structure Summary.FitsWords (summary : Summary) : Prop where
  errors : summary.errors < 2 ^ 64
  warnings : summary.warnings < 2 ^ 64
  infos : summary.infos < 2 ^ 64
  files : summary.files < 2 ^ 64
  failed : summary.failed < 2 ^ 64

/-- A digest whose lines and counts are words of 64 bits. -/
structure Digest.FitsWords (digest : Digest) : Prop where
  lines : ∀ violation ∈ digest.violations.toList, violation.startLine < 2 ^ 64
  summary : digest.summary.FitsWords

variable (depth : Nat)

/-- Details are an object of texts. -/
theorem Details.writable (details : Details) : details.document.Writable (depth + 1) := by
  apply Value.Writable.object
  intro member inside
  obtain ⟨pair, _, rfl⟩ := List.mem_map.1 inside
  exact .text

/-- A violation is an object of texts, a number and its details. -/
theorem Violation.writable {violation : Violation} (line : violation.startLine < 2 ^ 64) :
    violation.document.Writable (depth + 2) := by
  apply Value.Writable.object
  simp only [List.forall_mem_cons, List.not_mem_nil, false_imp_iff, implies_true, and_true]
  exact ⟨.text, .text, .number line, .text, .text, .text, .text, violation.specifics.writable depth⟩

/-- A summary is an object of numbers. -/
theorem Summary.writable {summary : Summary} (fits : summary.FitsWords) :
    summary.document.Writable (depth + 1) := by
  apply Value.Writable.object
  simp only [List.forall_mem_cons, List.not_mem_nil, false_imp_iff, implies_true, and_true]
  exact ⟨.number fits.errors, .number fits.warnings, .number fits.infos, .number fits.files,
    .number fits.failed⟩

/-- A failure is an object of texts. -/
theorem InputFailure.writable (failure : InputFailure) :
    failure.document.Writable (depth + 1) := by
  apply Value.Writable.object
  simp only [List.forall_mem_cons, List.not_mem_nil, false_imp_iff, implies_true, and_true]
  exact ⟨.text, .text⟩

/-- A digest can be read back where four sequences and objects may be opened inside each other:
the digest, its violations, a violation and its details. -/
theorem Digest.writable {digest : Digest} (fits : digest.FitsWords) :
    digest.document.Writable (depth + 4) := by
  have violations : (Value.sequence (digest.violations.toList.map Violation.document)).Writable
      (depth + 3) := by
    apply Value.Writable.sequence
    intro item inside
    obtain ⟨violation, listed, rfl⟩ := List.mem_map.1 inside
    exact Violation.writable depth (fits.lines violation listed)
  have failures : (Value.sequence (digest.failures.map InputFailure.document)).Writable
      (depth + 3) := by
    apply Value.Writable.sequence
    intro item inside
    obtain ⟨failure, _, rfl⟩ := List.mem_map.1 inside
    exact failure.writable (depth + 1)
  apply Value.Writable.object
  simp only [List.forall_mem_cons, List.not_mem_nil, false_imp_iff, implies_true, and_true]
  exact ⟨violations, Summary.writable (depth + 2) fits.summary, failures⟩

end Words

/-- The texts of a digest as data: the compact one, and the one that is printed. -/
inductive Digest.DataText (digest : Digest) : String → Prop
  | compact : DataText digest (digest.document.render .compact)
  | printed {colours : Bool} : DataText digest (digest.print .json colours)

/-- A text of a digest is one of its document, with nothing but space behind it. -/
theorem Digest.DataText.document {digest : Digest} {text : String} (written : digest.DataText text)
    {depth : Nat} (writable : digest.document.Writable depth) :
    DocumentText (decoding.Writes depth) digest.document text := by
  cases written with
  | compact => exact writable.document .compact Spaces.nil (List.append_nil _).symm
  | printed =>
    have lineFeed : Spaces ['\n'] := by simp [Spaces]
    exact writable.document .indented lineFeed String.toList_append

/-- Both texts of a digest are well formed, and every reader that may go four deep reads an object
of the three members from them, from which the whole digest is recovered. So digests with a text
in common are the same. -/
theorem Digest.dataText_lossless {digest : Digest} (fits : digest.FitsWords) :
    (∀ text, digest.DataText text → ∃ members,
      DocumentText (decoding.Writes 4) (.object members) text ∧
      (∀ depth, (Value.readerWithin (depth + 4)).document text = .ok (.object members)) ∧
      members.map (·.1) = ["violations", "summary", "failures"] ∧
      ofDocument? (.object members) = some digest) ∧
    ∀ other text, other.FitsWords → digest.DataText text → other.DataText text →
      other = digest := by
  have reads : ∀ {digest : Digest} {text : String}, digest.FitsWords → digest.DataText text →
      ∀ depth, (Value.readerWithin (depth + 4)).document text = .ok digest.document := by
    intro digest text fits written depth
    have exact := Value.readerWithin_exact (depth + 4)
    exact (Json.Reader.document_eq_ok_iff exact).2 (written.document (writable depth fits))
  constructor
  · intro text written
    exact ⟨_, written.document (writable 0 fits), reads fits written, rfl,
      digest.ofDocument?_document⟩
  · intro other text others written written'
    have same : digest.document = other.document :=
      Except.ok.inj ((reads fits written 0).symm.trans (reads others written' 0))
    have back := other.ofDocument?_document
    rw [← same, digest.ofDocument?_document] at back
    exact (Option.some.inj back).symm

/-- A digest with quotes, backslashes, control characters, a wide character and the largest line
there is. -/
def escapedDigest : Digest where
  violations := .ofList [{
    file := "a\"b\\c", startLine := 2 ^ 64 - 1, rule := "\x00\x1f\x7f", message := "x\n\ty/é😀"
    severity := .warn, reporter := "", specifics := .ofList [("k\r", "\x08\x0c")] }]
  summary := { warnings := 1, files := 1, failed := 1 }
  failures := [⟨"[", "invalid pattern"⟩]

/-- It is recovered from both of its texts. -/
theorem Digest.dataText_lossless_escaped :
    escapedDigest.FitsWords ∧
    escapedDigest.document.render .compact ≠ escapedDigest.print .json false ∧
    ∀ text, escapedDigest.DataText text → ∃ members,
      (Value.readerWithin 127).document text = .ok (.object members) ∧
      ofDocument? (.object members) = some escapedDigest := by
  have fits : escapedDigest.FitsWords := by
    refine ⟨?_, by decide, by decide, by decide, by decide, by decide⟩
    decide +kernel
  refine ⟨fits, by decide +kernel, ?_⟩
  intro text written
  obtain ⟨members, _, read, _, recovered⟩ := (Digest.dataText_lossless fits).1 text written
  exact ⟨members, read 123, recovered⟩

end SarifDigest
