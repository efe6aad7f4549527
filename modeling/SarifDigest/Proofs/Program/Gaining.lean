import Mathlib.Data.List.Find
import SarifDigest.Proofs.Collection.Gaining
import SarifDigest.Proofs.Program.Presentation
import SarifDigest.Proofs.Settings.RootDetection

/-!
# Runs in a tree that gains a file

Adding a report never hides a failure. A file that does not mark its folder changes neither the
root of a run nor the configuration there, so the run has the settings that it had. Its digest has
the violations and failures that it had and no counter is lower, so a run that has failed fails
still.
-/
namespace SarifDigest

namespace FileTree.Gains

variable {tree tree' : FileTree} {folder : List String} {name : String} {bytes : ByteArray}
  (gains : tree.Gains tree' folder name bytes) (unmarked : name ∉ markNames)

include gains unmarked

/-- A mark stands for something behind a path exactly when it did. -/
theorem holds_mark {mark : String} (marks : mark ∈ markNames) (path : Path) :
    tree'.holds (path.child mark) = tree.holds (path.child mark) := by
  -- The last step to the new file would be the mark, but the file has another name.
  have other : tree'.locate (path.child mark) ≠ .ok (folder ++ [name]) := by
    intro led
    obtain ⟨busy, proper, _⟩ := Path.markNames_plain mark marks
    obtain ⟨_, _, step⟩ := exists_follow_of_walk_child (walk_of_locate led)
    cases follow_ok_cases step proper with
    | inl still =>
      rw [busy] at still
      cases still.1
    | inr reached =>
      have same : name = mark := by simpa using (List.append_inj' reached.2.1 rfl).2
      rw [same] at unmarked
      exact unmarked marks
  rw [Bool.eq_iff_iff, gains.holds_iff]
  simp [other]

/-- The same folders are marked. -/
theorem isMarked_eq (path : Path) : isMarked tree' path = isMarked tree path := by
  rw [Bool.eq_iff_iff, isMarked_iff_holds, isMarked_iff_holds]
  apply exists_congr
  intro mark
  apply and_congr_right
  intro marks
  rw [gains.holds_mark unmarked marks]

/-- The same root is found. -/
theorem detectRoot_eq (start : Path) : detectRoot tree' start = detectRoot tree start := by
  rw [detectRoot, detectRoot, funext (gains.isMarked_eq unmarked)]

/-- The same configuration is read. -/
theorem loadConfig_eq (root : Path) : loadConfig tree' root = loadConfig tree root := by
  have marks : ∀ file ∈ configFiles, file.1 ∈ markNames := by
    intro file listed
    exact List.mem_append_left _ (List.mem_map_of_mem listed)
  have same : configFiles.find? (fun file => tree'.holds (root.child file.1)) =
      configFiles.find? fun file => tree.holds (root.child file.1) :=
    List.find?_congr fun file listed => gains.holds_mark unmarked (marks file listed) root
  unfold loadConfig
  rw [same]
  cases found : configFiles.find? fun file => tree.holds (root.child file.1) with
  | none => rfl
  | some file =>
    have held := List.find?_some found
    simp only [readConfig, gains.read_eq held]

end FileTree.Gains

/-- A summary that is not below another reaches every threshold that the other reaches. -/
theorem Threshold.isReached_of_atMost {threshold : Threshold} {summary other : Summary}
    (atMost : summary.AtMost other) (reached : threshold.isReached summary = true) :
    threshold.isReached other = true := by
  obtain ⟨errors, warnings, infos, _, _⟩ := atMost
  cases threshold with
  | never => contradiction
  | _ =>
    simp only [isReached, decide_eq_true_eq] at reached ⊢
    omega

/-- The verdict is a failure when there was some input, and something failed or is severe. -/
theorem Digest.verdict_eq_failed_iff {digest : Digest} {threshold : Threshold} :
    digest.verdict threshold = .failed ↔
      (digest.summary.files ≠ 0 ∨ digest.failures ≠ []) ∧
        (digest.failures ≠ [] ∨ threshold.isReached digest.summary = true) := by
  have void : digest.isVoid = true ↔ digest.summary.files = 0 ∧ digest.failures = [] := by
    simp [isVoid]
  have objection : (!digest.failures.isEmpty || threshold.isReached digest.summary) = true ↔
      digest.failures ≠ [] ∨ threshold.isReached digest.summary = true := by simp
  unfold verdict
  rw [← objection, ← not_and_or, ← void]
  by_cases empty : digest.isVoid = true
  · simp only [empty, if_true, not_true_eq_false, false_and, reduceCtorEq]
  · rw [if_neg empty, and_iff_right empty]
    split
    · rename_i reason
      simp only [reason]
    · rename_i none
      simp only [none, reduceCtorEq]

/-- A digest that another is within fails when the other does. -/
theorem Digest.Within.verdict_failed {digest other : Digest} (within : digest.Within other)
    {threshold : Threshold} (failed : digest.verdict threshold = .failed) :
    other.verdict threshold = .failed := by
  have failures : digest.failures ≠ [] → other.failures ≠ [] := by
    intro some none
    have fewer := within.failures
    rw [none] at fewer
    exact some (List.sublist_nil.1 fewer)
  have files : digest.summary.files ≠ 0 → other.summary.files ≠ 0 := by
    have fewer := within.summary.files
    omega
  obtain ⟨input, reason⟩ := Digest.verdict_eq_failed_iff.1 failed
  exact Digest.verdict_eq_failed_iff.2
    ⟨input.imp files failures, reason.imp failures (Threshold.isReached_of_atMost within.summary)⟩

/-- The status of a run is the verdict about its digest. -/
theorem Settings.run_status (settings : Settings) (tree : FileTree) (environment : Environment)
    (filter : Filter) :
    (settings.run tree environment filter).status =
      (settings.digest tree).verdict settings.threshold := by
  by_cases void : (settings.digest tree).isVoid = true
  · rw [(run_of_void environment filter void).1, Digest.verdict, if_pos void]
  · rw [(run_of_input environment filter void).1, Digest.verdict, if_neg void]

namespace Overrides

variable {tree tree' : FileTree} {folder : List String} {name : String} {bytes : ByteArray}

/-- The same settings are found in a tree that gains a file without a mark. -/
theorem resolve_gains (gains : tree.Gains tree' folder name bytes) (unmarked : name ∉ markNames)
    (overrides : Overrides) : overrides.resolve tree' = overrides.resolve tree := by
  have root : overrides.rootIn tree' = overrides.rootIn tree := gains.detectRoot_eq unmarked _
  rw [resolve_eq, resolve_eq, root, gains.loadConfig_eq unmarked]

/-- What a second run has of a first one that it hides nothing of. -/
structure HidesNothing (overrides : Overrides) (tree tree' : FileTree)
    (outcome outcome' : Outcome) : Prop where
  /-- Both have the same settings, or are refused for the same reason. -/
  settings : overrides.resolve tree' = overrides.resolve tree
  /-- The violations, the failures and the counters of the first are within those of the second. -/
  digest : ∀ settings, overrides.resolve tree = .ok settings →
    (settings.digest tree).Within (settings.digest tree')
  /-- If the first has failed, the second has. -/
  code : outcome.status.code = 1 → outcome'.status.code = 1

/-- Adding a report never hides a failure: when a tree gains a file in one of its folders, under a
name that is free there and marks no folder, a command line that asks for a digest finds all
violations that it found and all failures in the order in which it found them, no counter of its
summary is lower, and if it ended with one it ends with one. -/
theorem runProgram_hidesNothing {words : List String} {invocation : Invocation}
    {overrides : Overrides} (accepted : Invocation.ofWords words = .ok invocation)
    (asked : invocation.task = .digest overrides) (gains : tree.Gains tree' folder name bytes)
    (unmarked : name ∉ markNames) (environment : Environment) :
    HidesNothing overrides tree tree' (runProgram tree environment words)
      (runProgram tree' environment words) := by
  have same := resolve_gains gains unmarked overrides
  have within (settings : Settings) :
      (settings.digest tree).Within (settings.digest tree') :=
    collect_within gains settings.root settings.inputs settings.reporter
  refine ⟨same, fun settings _ => within settings, ?_⟩
  rw [runProgram_of_accepted accepted asked, runProgram_of_accepted accepted asked]
  cases resolved : overrides.resolve tree with
  | error fault =>
    rw [run_of_refused resolved]
    intro failed
    cases failed
  | ok settings =>
    rw [run_of_resolved resolved, run_of_resolved (same.trans resolved), Settings.run_status,
      Settings.run_status]
    have code (status : ExitStatus) : status.code = 1 ↔ status = .failed := by
      cases status <;> decide
    rw [code, code]
    exact (within settings).verdict_failed

/-- A report with one finding. -/
def singleFinding : ByteArray := "[[[null,null,[[\"r\",[\"m\"],\"error\"]]]]]".toUTF8

/-- A tree with this report in one folder, and with a file that is no text beside it. -/
def sparseTree : FileTree where
  top := .folder [
    ("a", .folder [("x.sarif", .file singleFinding)]),
    ("b.sarif", .file ⟨#[0xc3, 0x28]⟩)]
  here := []

/-- The same tree with the report a second time, under another name. -/
def gainedTree : FileTree where
  top := .folder [
    ("a", .folder [("w.sarif", .file singleFinding), ("x.sarif", .file singleFinding)]),
    ("b.sarif", .file ⟨#[0xc3, 0x28]⟩)]
  here := []

/-- The report that is repeated is read beside the other, its finding is counted once, and the
failure of the file that is no text is not hidden. -/
theorem runProgram_hidesNothing_repeated :
    sparseTree.Gains gainedTree ["a"] "w.sarif" singleFinding ∧ "w.sarif" ∉ markNames ∧
    Invocation.ofWords ["parse"] = .ok ⟨.digest {}, {}⟩ ∧
    (collect sparseTree .here standardInputs "Sarif").summary =
      { errors := 1, files := 1, failed := 1 } ∧
    (collect gainedTree .here standardInputs "Sarif").summary =
      { errors := 1, files := 2, failed := 1 } ∧
    (runProgram sparseTree ⟨false, none⟩ ["parse"]).status.code = 1 ∧
    (runProgram gainedTree ⟨false, none⟩ ["parse"]).status.code = 1 := by
  have inner : Node.Gains "w.sarif" singleFinding [] (.folder [("x.sarif", .file singleFinding)])
      (.folder [("w.sarif", .file singleFinding), ("x.sarif", .file singleFinding)]) :=
    @Node.Gains.here "w.sarif" singleFinding [] [("x.sarif", .file singleFinding)] (by simp)
  have gains : sparseTree.Gains gainedTree ["a"] "w.sarif" singleFinding := {
    proper := by decide
    top := @Node.Gains.inside "w.sarif" singleFinding []
      [("b.sarif", .file ⟨#[0xc3, 0x28]⟩)] "a" [] _ _ (by decide) (by simp) inner
    here := rfl }
  have unmarked : "w.sarif" ∉ markNames := by decide
  have accepted : Invocation.ofWords ["parse"] = .ok ⟨.digest {}, {}⟩ := by decide +kernel
  have failed : (runProgram sparseTree ⟨false, none⟩ ["parse"]).status.code = 1 := by
    decide +kernel
  have nothing := runProgram_hidesNothing accepted rfl gains unmarked ⟨false, none⟩
  exact ⟨gains, unmarked, accepted, by decide +kernel, by decide +kernel, failed,
    nothing.code failed⟩

end Overrides

end SarifDigest
