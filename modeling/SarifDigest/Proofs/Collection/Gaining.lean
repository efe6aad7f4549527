import SarifDigest.Proofs.Collection.Accounting
import SarifDigest.Proofs.Glob.Gaining

/-!
# Collecting from a tree that gains a file

When a tree gains a file, a collection has the targets that it had, in their order and spelled as
they were, and perhaps the new file among them. Each of the old targets is read as before. So there
are at most more readings, and more readings never take anything from a digest: a violation that a
new reading repeats was counted once and is counted once still.
-/
namespace SarifDigest

section Readings

variable {tree tree' : FileTree} {folder : List String} {name : String} {bytes : ByteArray}
  (gains : tree.Gains tree' folder name bytes)

include gains

/-- The files of the tree are those whose place is not that of the new one. -/
theorem FileTree.Gains.isFile_iff_place {path : Path} : tree.isFile path = true ↔
    tree'.isFile path = true ∧ tree'.place path ≠ folder ++ [name] := by
  rw [gains.isFile_iff, and_congr_right_iff]
  intro file
  obtain ⟨given, location, led, there⟩ := FileTree.isFile_iff.1 file
  rw [led, FileTree.place_of_locate led]
  simp

/-- A pattern matches the files that it matched, and perhaps the new one. -/
theorem filter_matchedFiles (root : Path) (pattern : String) :
    (matchedFiles tree' root pattern).filter (fun path => tree'.place path ≠ folder ++ [name]) =
      matchedFiles tree root pattern := by
  unfold matchedFiles
  cases patternBelow root pattern with
  | error fault => rfl
  | ok pattern =>
    dsimp only
    rw [← Glob.filter_expand gains, List.filter_filter]
    congr 1
    funext path
    rw [Bool.eq_iff_iff, gains.isFile_iff_place]
    simp [and_comm]

/-- The targets of patterns are those that there were, and perhaps the new file. -/
theorem filter_targets (root : Path) (patterns : List String) :
    (targets tree' root patterns).toList.filter (fun path => tree'.place path ≠ folder ++ [name]) =
      (targets tree root patterns).toList := by
  have alike {left right : Path} (same : compare left right = .eq) :
      decide (tree'.place left ≠ folder ++ [name]) =
        decide (tree'.place right ≠ folder ++ [name]) := by
    rw [FileTree.place_of_compare same]
  unfold targets
  rw [OrderedSet.filter_toList_ofList alike, List.filter_flatMap,
    funext (filter_matchedFiles gains root)]

/-- A file that was there is read as it was. -/
theorem readReportFile_gains {path : Path} (file : tree.isFile path = true) (reporter : String) :
    readReportFile tree' reporter path = readReportFile tree reporter path := by
  unfold readReportFile
  rw [gains.read_eq (FileTree.holds_of_isFile file)]

/-- The readings of patterns are those that there were, and perhaps one more. -/
theorem collectReadings_sublist (root : Path) (patterns : List String) (reporter : String) :
    (collectReadings tree root patterns reporter).Sublist
      (collectReadings tree' root patterns reporter) := by
  have same : readTargets tree reporter (targets tree root patterns).toList =
      readTargets tree' reporter (targets tree root patterns).toList := by
    apply List.map_congr_left
    intro target inside
    rw [readReportFile_gains gains (isFile_of_mem_targets inside)]
  unfold collectReadings
  rw [same, ← filter_targets gains]
  exact List.filter_sublist.map _

end Readings

/-- No counter of a summary is above that of another. -/
structure Summary.AtMost (summary other : Summary) : Prop where
  errors : summary.errors ≤ other.errors
  warnings : summary.warnings ≤ other.warnings
  infos : summary.infos ≤ other.infos
  files : summary.files ≤ other.files
  failed : summary.failed ≤ other.failed

/-- A digest is within another that has its violations, its failures in their order, and no
counter below one of its own. -/
structure Digest.Within (digest other : Digest) : Prop where
  violations : ∀ violation ∈ digest.violations.toList, violation ∈ other.violations.toList
  failures : digest.failures.Sublist other.failures
  summary : digest.summary.AtMost other.summary

/-- A set has no more violations of a severity than one that it is part of. -/
theorem countOf_le {set other : ViolationSet} (severity : Severity)
    (within : ∀ violation ∈ set.toList, violation ∈ other.toList) :
    countOf severity set.toList ≤ countOf severity other.toList := by
  have part : set.toList.Subperm other.toList :=
    List.subperm_of_subset set.increasing.nodup within
  exact part.countP_le _

/-- More readings take nothing from a digest. -/
theorem digestOf_within (earlier : List InputFailure) {readings others : List (Path × FileReading)}
    (fewer : readings.Sublist others) :
    (digestOf earlier readings).Within (digestOf earlier others) := by
  have violations : ∀ violation ∈ (mergedViolations readings).toList,
      violation ∈ (mergedViolations others).toList := by
    intro violation inside
    obtain ⟨reading, listed, given⟩ := mem_mergedViolations.1 inside
    exact mem_mergedViolations.2 ⟨reading, fewer.mem listed, given⟩
  have failures : (earlier ++ readingFailures readings).Sublist
      (earlier ++ readingFailures others) := (fewer.filterMap _).append_left earlier
  exact {
    violations, failures
    summary := {
      errors := countOf_le .error violations
      warnings := countOf_le .warn violations
      infos := countOf_le .info violations
      files := fewer.countP_le
      failed := failures.length_le } }

/-- A tree that gains a file takes nothing from the digest of patterns. -/
theorem collect_within {tree tree' : FileTree} {folder : List String} {name : String}
    {bytes : ByteArray} (gains : tree.Gains tree' folder name bytes) (root : Path)
    (patterns : List String) (reporter : String) :
    (collect tree root patterns reporter).Within (collect tree' root patterns reporter) :=
  digestOf_within _ (collectReadings_sublist gains root patterns reporter)

end SarifDigest
