import SarifDigest.Collection.Merged
import SarifDigest.Proofs.Files.Following
import SarifDigest.Proofs.Ordered.Representatives
import SarifDigest.Proofs.Projection.MissingArtifact

/-!
# What a report file gives

A file gives the violations of the report that its bytes spell, or it is spoilt: its bytes are
no text, its text is no log, or its log asks for an artifact that is not there. Whichever it
is can be told from the bytes alone, and which violations had been found before a fault does
not matter.
-/
namespace SarifDigest

open Sarif

/-- Bytes give violations when they spell a report that can be projected to the end. -/
def BytesGive (bytes : ByteArray) (reporter : String) (set : ViolationSet) : Prop :=
  ∃ report, String.fromUTF8? bytes = some report ∧ reportViolations report reporter = .ok set

/-- Bytes that give no violations: no text, no log, or a log with an artifact missing. -/
inductive Spoilt (bytes : ByteArray) : Prop
  | notText (unread : String.fromUTF8? bytes = none)
  | notALog {report : String} {refusal : Json.Refusal}
      (spelled : String.fromUTF8? bytes = some report)
      (refused : Log.decode report = .error refusal)
  | missingArtifact {report : String} {log : Log} {site : Site} {fault : ArtifactFault}
      (spelled : String.fromUTF8? bytes = some report) (decoded : Log.decode report = .ok log)
      (reached : log.FaultAt site fault)

/-- The projection of a log is refused when some position of it is at fault. -/
theorem reportViolations_refused_iff {report : String} {log : Log} (reporter : String)
    (decoded : Log.decode report = .ok log) :
    (∃ fault, reportViolations report reporter = .error fault) ↔
      ∃ site fault, log.FaultAt site fault := by
  rw [reportViolations_of_decode reporter decoded]
  unfold Trail.violations
  cases ended : (log.trail reporter).fault with
  | none =>
    have whole : ∀ site fault, ¬ log.FaultAt site fault :=
      fun site fault => not_faultAt_of_trail ended site fault
    simp [Except.mapError, whole]
  | some fault =>
    obtain ⟨site, reached, _⟩ := first_of_trail_fault ended
    have refused : ∃ site fault, log.FaultAt site fault := ⟨site, fault, reached⟩
    simp [Except.mapError, refused]

/-- The outcome of reading a file is that of projecting its text. -/
theorem outcome_readReportFile (tree : FileTree) (reporter : String) (path : Path) :
    (readReportFile tree reporter path).outcome =
      match tree.read path with
      | .error reason => .error (.unreadable path reason)
      | .ok report => (reportViolations report reporter).mapError .noReport := by
  unfold readReportFile reportViolations
  cases tree.read path with
  | error reason => rfl
  | ok report =>
    dsimp only
    cases reportTrail report reporter with
    | error refusal => rfl
    | ok trail =>
      dsimp only
      cases trail.violations <;> rfl

/-- A file gives the violations of the report that is read from it. -/
theorem outcome_eq_ok_iff_report {tree : FileTree} {reporter : String} {path : Path}
    {set : ViolationSet} :
    (readReportFile tree reporter path).outcome = .ok set ↔
      ∃ report, tree.read path = .ok report ∧ reportViolations report reporter = .ok set := by
  rw [outcome_readReportFile]
  cases tree.read path with
  | error reason => simp
  | ok report =>
    simp only [Except.ok.injEq, exists_eq_left']
    cases reportViolations report reporter <;> simp [Except.mapError]

section Held

variable {tree : FileTree} {path : Path} {bytes : ByteArray} {reporter : String}

/-- A file gives the violations that its bytes give. -/
theorem outcome_eq_ok_iff (held : tree.HoldsBytes path bytes) {set : ViolationSet} :
    (readReportFile tree reporter path).outcome = .ok set ↔ BytesGive bytes reporter set := by
  rw [outcome_readReportFile, FileTree.read_of_holdsBytes held]
  unfold BytesGive
  cases spelled : String.fromUTF8? bytes with
  | none => simp
  | some report =>
    simp only [Option.some.injEq, exists_eq_left']
    cases reportViolations report reporter <;> simp [Except.mapError]

/-- A file fails exactly when its bytes are spoilt, whoever reports. -/
theorem outcome_fails_iff (held : tree.HoldsBytes path bytes) :
    (readReportFile tree reporter path).outcome.isOk = false ↔ Spoilt bytes := by
  rw [outcome_readReportFile, FileTree.read_of_holdsBytes held]
  cases spelled : String.fromUTF8? bytes with
  | none =>
    have spoilt : Spoilt bytes := .notText spelled
    simp [Except.isOk, Except.toBool, spoilt]
  | some report =>
    have refused : ((reportViolations report reporter).mapError FileFault.noReport).isOk = false ↔
        ∃ fault, reportViolations report reporter = .error fault := by
      cases reportViolations report reporter <;> simp [Except.mapError, Except.isOk, Except.toBool]
    rw [refused]
    cases decoded : Log.decode report with
    | error refusal =>
      have spoilt : Spoilt bytes := .notALog spelled decoded
      have failed := reportViolations_of_refused reporter decoded
      simp [failed, spoilt]
    | ok log =>
      rw [reportViolations_refused_iff reporter decoded]
      constructor
      · rintro ⟨site, fault, reached⟩
        exact .missingArtifact spelled decoded reached
      · intro spoilt
        cases spoilt with
        | notText unread =>
          rw [spelled] at unread
          contradiction
        | notALog spelled' refused =>
          have same := Option.some.inj (spelled.symm.trans spelled')
          rw [← same, decoded] at refused
          contradiction
        | missingArtifact spelled' decoded' reached =>
          have same := Option.some.inj (spelled.symm.trans spelled')
          rw [← same, decoded] at decoded'
          have logs := Except.ok.inj decoded'
          exact ⟨_, _, logs ▸ reached⟩

end Held

/-- Every target leads to a file. -/
theorem isFile_of_mem_targets {tree : FileTree} {root : Path} {patterns : List String}
    {target : Path} (inside : target ∈ (targets tree root patterns).toList) :
    tree.isFile target = true := by
  have matched : target ∈ patterns.flatMap (matchedFiles tree root) :=
    OrderedSet.mem_of_mem_ofList inside
  obtain ⟨pattern, _, listed⟩ := List.mem_flatMap.1 matched
  unfold matchedFiles at listed
  split at listed
  · exact (List.mem_filter.1 listed).2
  · contradiction

end SarifDigest
