import SarifDigest.Proofs.Collection.Accounting
import SarifDigest.Proofs.Projection.Contents

/-!
# Reports in parts

The runs of a log may be distributed over several report files, each run in one of them at
least. Collecting the files comes to the same as projecting the log: the violations and their
counts are those of the single report, and the files that fail are those that hold a run which
asks for an artifact that it lacks.
-/
namespace SarifDigest

open Sarif

/-- A path leads to a file with a report of a log. -/
def FileTree.HoldsLog (tree : FileTree) (path : Path) (log : Log) : Prop :=
  ∃ bytes report, tree.HoldsBytes path bytes ∧ String.fromUTF8? bytes = some report ∧
    Log.decode report = .ok log

/-- The targets of patterns hold the runs of a log between them, in whatever order and however
often. -/
structure Distributes (tree : FileTree) (root : Path) (patterns : List String) (log : Log)
    (part : Path → Log) : Prop where
  /-- Every target holds a part. -/
  held : ∀ target ∈ (targets tree root patterns).toList, tree.HoldsLog target (part target)
  /-- Every part has runs of the log only. -/
  drawn : ∀ target ∈ (targets tree root patterns).toList, ∀ run ∈ (part target).runList,
    run ∈ log.runList
  /-- Every run of the log is in a part. -/
  covered : ∀ run ∈ log.runList, ∃ target ∈ (targets tree root patterns).toList,
    run ∈ (part target).runList

/-- A file with a report of a log fails when a run of the log asks for an artifact that it lacks,
and gives the violations that the runs yield otherwise. -/
theorem outcome_of_holdsLog {tree : FileTree} {path : Path} {log : Log} (reporter : String)
    (held : tree.HoldsLog path log) :
    ((∃ run ∈ log.runList, run.Dangles) ∧ isFailing tree reporter path = true) ∨
    ((∀ run ∈ log.runList, ¬ run.Dangles) ∧
      ∃ set, (readReportFile tree reporter path).outcome = .ok set ∧
        ∀ violation, violation ∈ set.toList ↔
          ∃ run ∈ log.runList, run.Yields reporter violation) := by
  obtain ⟨bytes, report, holds, spelled, decoded⟩ := held
  have outcome : (readReportFile tree reporter path).outcome =
      (reportViolations report reporter).mapError .noReport := by
    rw [outcome_readReportFile, FileTree.read_of_holdsBytes holds, spelled]
  unfold isFailing
  rw [outcome]
  rcases reportViolations_cases reporter decoded with
    ⟨dangles, fault, refused⟩ | ⟨whole, set, projected, yields⟩
  · rw [refused]
    exact .inl ⟨dangles, rfl⟩
  · rw [projected]
    exact .inr ⟨whole, set, rfl, yields⟩

section Distributed

variable {tree : FileTree} {root : Path} {patterns : List String} {log : Log}
  {part : Path → Log} (distributed : Distributes tree root patterns log part)

include distributed

/-- A target fails exactly when its part has a run that asks for an artifact it lacks. -/
theorem Distributes.isFailing_iff (reporter : String) {target : Path}
    (inside : target ∈ (targets tree root patterns).toList) :
    isFailing tree reporter target = true ↔ ∃ run ∈ (part target).runList, run.Dangles := by
  rcases outcome_of_holdsLog reporter (distributed.held target inside) with
    ⟨dangles, failing⟩ | ⟨whole, set, given, _⟩
  · exact ⟨fun _ => dangles, fun _ => failing⟩
  · constructor
    · intro failing
      simp [isFailing, given, Except.isOk, Except.toBool] at failing
    · rintro ⟨run, member, dangles⟩
      exact absurd dangles (whole run member)

/-- When no run asks for an artifact that it lacks, every target gives the violations that the
runs of its part yield. -/
theorem Distributes.outcome (reporter : String) (whole : ∀ run ∈ log.runList, ¬ run.Dangles)
    {target : Path} (inside : target ∈ (targets tree root patterns).toList) :
    ∃ set, (readReportFile tree reporter target).outcome = .ok set ∧
      ∀ violation, violation ∈ set.toList ↔
        ∃ run ∈ (part target).runList, run.Yields reporter violation := by
  rcases outcome_of_holdsLog reporter (distributed.held target inside) with
    ⟨⟨run, member, dangles⟩, _⟩ | ⟨_, given⟩
  · exact absurd dangles (whole run (distributed.drawn target inside run member))
  · exact given

/-- When no run asks for an artifact that it lacks, the violations collected are those that the
runs of the log yield. -/
theorem Distributes.mem_collect (reporter : String) (whole : ∀ run ∈ log.runList, ¬ run.Dangles)
    (violation : Violation) :
    violation ∈ (collect tree root patterns reporter).violations.toList ↔
      ∃ run ∈ log.runList, run.Yields reporter violation := by
  rw [mem_collect_iff]
  constructor
  · rintro ⟨target, inside, set, given, member⟩
    obtain ⟨own, given', yields⟩ := distributed.outcome reporter whole inside
    rw [given] at given'
    cases given'
    obtain ⟨run, listed, drawn⟩ := (yields violation).1 member
    exact ⟨run, distributed.drawn target inside run listed, drawn⟩
  · rintro ⟨run, listed, drawn⟩
    obtain ⟨target, inside, member⟩ := distributed.covered run listed
    obtain ⟨own, given, yields⟩ := distributed.outcome reporter whole inside
    exact ⟨target, inside, own, given, (yields violation).2 ⟨run, member, drawn⟩⟩

end Distributed

/-- When the runs of a log are distributed over the targets of patterns, and the report of the log
can be projected, so can every target, and the collection has the violations of the report and
their counts, and no failure but those of patterns. When the report is refused for a missing
artifact, some target fails. In either case the failing targets are those whose part has a run
that asks for an artifact it lacks, and these are the targets listed as failures. -/
theorem collect_distributed {tree : FileTree} {root : Path} {patterns : List String}
    {report : String} {log : Log} {part : Path → Log} (reporter : String)
    (decoded : Log.decode report = .ok log)
    (distributed : Distributes tree root patterns log part) :
    (∀ set, reportViolations report reporter = .ok set →
      (∀ target ∈ (targets tree root patterns).toList, ∃ own,
        (readReportFile tree reporter target).outcome = .ok own) ∧
      (collect tree root patterns reporter).violations = set ∧
      (∀ severity, (collect tree root patterns reporter).summary.count severity =
        (Summary.tally set).count severity) ∧
      (collect tree root patterns reporter).failures = patternFailures root patterns) ∧
    ((∃ fault, reportViolations report reporter = .error (.missingArtifact fault)) →
      ∃ target ∈ (targets tree root patterns).toList, isFailing tree reporter target = true) ∧
    (∀ target ∈ (targets tree root patterns).toList,
      isFailing tree reporter target = true ↔ ∃ run ∈ (part target).runList, run.Dangles) ∧
    ∃ entries,
      (collect tree root patterns reporter).failures = patternFailures root patterns ++ entries ∧
      List.Forall₂ (TargetEntry tree reporter)
        ((targets tree root patterns).toList.filter (isFailing tree reporter)) entries := by
  have listed := readingFailures_entries tree reporter (targets tree root patterns).toList
  have failing : ∀ target ∈ (targets tree root patterns).toList,
      isFailing tree reporter target = true ↔ ∃ run ∈ (part target).runList, run.Dangles :=
    fun target inside => distributed.isFailing_iff reporter inside
  refine ⟨?projected, ?refused, failing, _, rfl, listed⟩
  case projected =>
    intro set projected
    rcases reportViolations_cases reporter decoded with
      ⟨_, fault, refused⟩ | ⟨whole, own, given, yields⟩
    · rw [projected] at refused
      contradiction
    · rw [projected] at given
      cases given
      have same : (collect tree root patterns reporter).violations = set := by
        apply OrderedSet.eq_of_mem
        intro violation
        rw [distributed.mem_collect reporter whole, yields]
      have none : (targets tree root patterns).toList.filter (isFailing tree reporter) = [] := by
        rw [List.filter_eq_nil_iff]
        intro target inside fails
        obtain ⟨run, member, dangles⟩ := (failing target inside).1 fails
        exact whole run (distributed.drawn target inside run member) dangles
      refine ⟨?_, same, ?_, ?_⟩
      · intro target inside
        obtain ⟨own, given, _⟩ := distributed.outcome reporter whole inside
        exact ⟨own, given⟩
      · intro severity
        rw [← same]
        cases severity <;> rfl
      · rw [none, List.forall₂_nil_left_iff] at listed
        change _ ++ _ = _
        unfold collectReadings
        rw [listed, List.append_nil]
  case refused =>
    rintro ⟨fault, refused⟩
    rcases reportViolations_cases reporter decoded with
      ⟨⟨run, member, dangles⟩, _⟩ | ⟨_, own, given, _⟩
    · obtain ⟨target, inside, kept⟩ := distributed.covered run member
      exact ⟨target, inside, (failing target inside).2 ⟨run, kept, dangles⟩⟩
    · rw [refused] at given
      contradiction

/-- A report of two runs, its records written as sequences. -/
def wholeReport : String :=
  "[[[null,null,[[\"r\",[\"m\"],\"error\"]]],[null,null,[[\"s\",[\"n\"]]]]]]"

/-- The first run of that report. -/
def firstRun : Run where
  results := some [
    { ruleId := some "r", message := some { text := some "m" }, level := .error }]

/-- The second run of that report. -/
def secondRun : Run where
  results := some [{ ruleId := some "s", message := some { text := some "n" } }]

/-- A tree whose first file has the first run, and whose second file has both, the second first. -/
def partsTree : FileTree where
  top := .folder [
    ("a.sarif", .file "[[[null,null,[[\"r\",[\"m\"],\"error\"]]]]]".toUTF8),
    ("b.sarif", .file ("[[[null,null,[[\"s\",[\"n\"]]]]," ++
      "[null,null,[[\"r\",[\"m\"],\"error\"]]]]]").toUTF8)]
  here := []

/-- The parts in those files. -/
def partOf (path : Path) : Log where
  runs := some (if path = .ofPiece "a.sarif" then [firstRun] else [secondRun, firstRun])

/-- The files hold the runs of the report between them. -/
theorem distributes_partsTree :
    Distributes partsTree .here ["*.sarif"] ⟨some [firstRun, secondRun]⟩ partOf := by
  have found : (targets partsTree .here ["*.sarif"]).toList =
      [.ofPiece "a.sarif", .ofPiece "b.sarif"] := by decide +kernel
  have first : partsTree.HoldsLog (.ofPiece "a.sarif") (partOf (.ofPiece "a.sarif")) :=
    ⟨_, "[[[null,null,[[\"r\",[\"m\"],\"error\"]]]]]", ⟨["a.sarif"], by decide +kernel, rfl⟩,
      by decide +kernel, by decide +kernel⟩
  have second : partsTree.HoldsLog (.ofPiece "b.sarif") (partOf (.ofPiece "b.sarif")) :=
    ⟨_, "[[[null,null,[[\"s\",[\"n\"]]]],[null,null,[[\"r\",[\"m\"],\"error\"]]]]]",
      ⟨["b.sarif"], by decide +kernel, rfl⟩, by decide +kernel, by decide +kernel⟩
  refine ⟨?_, ?_, ?_⟩
  · simpa [found] using ⟨first, second⟩
  · rw [found]
    decide
  · rw [found]
    decide

/-- The two files give the two violations of the report, one of which both have. -/
theorem collect_distributed_parts :
    Log.decode wholeReport = .ok ⟨some [firstRun, secondRun]⟩ ∧
    Distributes partsTree .here ["*.sarif"] ⟨some [firstRun, secondRun]⟩ partOf ∧
    ∃ set, reportViolations wholeReport "Sarif" = .ok set ∧ set.size = 2 ∧
      (collect partsTree .here ["*.sarif"] "Sarif").violations = set := by
  have decoded : Log.decode wholeReport = .ok ⟨some [firstRun, secondRun]⟩ := by decide +kernel
  have projected : ∃ set, reportViolations wholeReport "Sarif" = .ok set ∧ set.size = 2 := by
    rw [reportViolations_of_decode "Sarif" decoded]
    exact ⟨_, rfl, by decide +kernel⟩
  obtain ⟨set, given, size⟩ := projected
  obtain ⟨collected, _⟩ := collect_distributed "Sarif" decoded distributes_partsTree
  exact ⟨decoded, distributes_partsTree, set, given, size, (collected set given).2.1⟩

end SarifDigest
