import SarifDigest.Proofs.Program.ExitStatus
import SarifDigest.Proofs.Projection.Speaking
import SarifDigest.Proofs.Sarif.Refusals
import SarifDigest.Proofs.Text.FirstLine

/-!
# Lines of the listing

The line of a violation cuts its message at the first line feed, but shows the file, the rule and
the reporter as they are. So it is one line exactly when these are, and the listing of a run can
be cut at its line feeds into the lines of its violations, failures and counts exactly when the
files, rules and reporters of all violations and the files of all failures are one line. Why an
input failed never takes more than one line, whatever its text holds.
-/
namespace SarifDigest

open Sarif
open Text (OneLine)

section Styled

/-- The sequence of an attribute has no line feed when its code has none. -/
theorem not_mem_attributeSequence {code : List Char} (free : '\n' ∉ code) :
    '\n' ∉ attributeSequence code := by
  simp [attributeSequence, free]

/-- A piece in its style has a line feed only when its text has one. -/
theorem Piece.mem_styled_iff {piece : Piece} : '\n' ∈ piece.styled ↔ '\n' ∈ piece.text.toList := by
  have coloured : '\n' ∈ piece.coloured ↔ '\n' ∈ piece.text.toList := by
    unfold Piece.coloured
    cases piece.colour with
    | none => rfl
    | some colour =>
      have code : '\n' ∉ colour.code := by cases colour <;> decide
      have back : '\n' ∉ attributeSequence ['3', '9'] := by decide
      simp only [List.mem_append, not_mem_attributeSequence code, back, false_or, or_false]
  unfold Piece.styled
  split
  · have front : '\n' ∉ attributeSequence ['1'] := by decide
    have back : '\n' ∉ attributeSequence ['0'] := by decide
    simp only [List.mem_append, front, back, coloured, false_or, or_false]
  · exact coloured

/-- The characters of a line have no line feed exactly when the texts of its pieces are one line,
in style or without. -/
theorem StyledLine.not_mem_chars_iff {line : StyledLine} {colours : Bool} :
    '\n' ∉ line.chars colours ↔ ∀ piece ∈ line, OneLine piece.text := by
  unfold StyledLine.chars OneLine
  rw [List.mem_flatMap, not_exists]
  constructor
  · intro free piece inside among
    apply free piece
    refine ⟨inside, ?_⟩
    split
    · exact Piece.mem_styled_iff.2 among
    · exact among
  · intro free piece among
    obtain ⟨inside, among⟩ := among
    apply free piece inside
    split at among
    · exact Piece.mem_styled_iff.1 among
    · exact among

/-- A line is shown on one line exactly when the texts of its pieces are one line. -/
theorem StyledLine.oneLine_render_iff {line : StyledLine} {colours : Bool} :
    OneLine (line.render colours) ↔ ∀ piece ∈ line, OneLine piece.text := by
  rw [StyledLine.render, Text.oneLine_ofList, StyledLine.not_mem_chars_iff]

end Styled

/-- What the line of a violation shows as it is, the file, the rule and the reporter, is one line
each. -/
structure Violation.OneLine (violation : Violation) : Prop where
  file : Text.OneLine violation.file
  rule : Text.OneLine violation.rule
  reporter : Text.OneLine violation.reporter

instance (violation : Violation) : Decidable violation.OneLine :=
  decidable_of_iff (Text.OneLine violation.file ∧ Text.OneLine violation.rule ∧
      Text.OneLine violation.reporter)
    ⟨fun fields => ⟨fields.1, fields.2.1, fields.2.2⟩,
      fun fields => ⟨fields.file, fields.rule, fields.reporter⟩⟩

/-- The line of a violation is one line exactly when the file, the rule and the reporter are,
whatever the message is. -/
theorem Violation.oneLine_pieces_iff {violation : Violation} :
    (∀ piece ∈ violation.line, Text.OneLine piece.text) ↔ violation.OneLine := by
  have space : Text.OneLine " " := by decide
  have icon : Text.OneLine violation.severity.icon := by cases violation.severity <;> decide
  have word : Text.OneLine (tag violation.severity.word) := by
    cases violation.severity <;> decide
  have opening : Text.OneLine " ❲" := by decide
  have closing : Text.OneLine "❳ " := by decide
  have dash : Text.OneLine " — " := by decide
  have colon : Text.OneLine ":" := by decide
  have headline := Text.oneLine_headline violation.message
  have location : Text.OneLine violation.location ↔ Text.OneLine violation.file := by
    unfold Violation.location
    split
    · rfl
    · simp only [Text.oneLine_append, colon, Text.oneLine_natural, and_true]
  simp only [line, Piece.plain, List.forall_mem_cons, space, icon, word, location,
    Text.oneLine_append, opening, closing, dash, headline, true_and, and_true]
  constructor
  · intro both
    exact ⟨both.1, both.2.1.1, both.2.1.2⟩
  · intro fields
    exact ⟨fields.file, ⟨fields.rule, fields.reporter⟩, by simp⟩

/-- The line of an input that failed is one line exactly when its file and the reason are. -/
theorem InputFailure.oneLine_pieces_iff {failure : InputFailure} :
    (∀ piece ∈ failure.line, Text.OneLine piece.text) ↔
      OneLine failure.file ∧ OneLine failure.message := by
  have space : OneLine " " := by decide
  have sign : OneLine (Severity.error.icon ++ " " ++ tag "failed") := by decide
  have dash : OneLine " — " := by decide
  simp only [line, Piece.plain, List.forall_mem_cons, space, sign, Text.oneLine_append, dash,
    true_and, List.not_mem_nil, false_imp_iff, implies_true, and_true]

/-- The line of the counts is one line. -/
theorem Summary.oneLine_pieces (summary : Summary) :
    ∀ piece ∈ summary.line, OneLine piece.text := by
  have errors : OneLine "— Summary — errors=" := by decide
  have warnings : OneLine " warnings=" := by decide
  have infos : OneLine " infos=" := by decide
  have files : OneLine " files=" := by decide
  have failed : OneLine " failed=" := by decide
  intro piece inside
  rw [List.mem_singleton.1 inside]
  simp only [Text.oneLine_append, Text.oneLine_natural, errors, warnings, infos, files, failed,
    and_self]

/-- The listing of a digest can be cut at its line feeds into its lines exactly when what the lines
show of violations and failures is one line. -/
theorem Digest.splitOn_print_iff {digest : Digest} {colours : Bool} :
    (digest.print .human colours).toList.splitOn '\n' =
        digest.lines.map (·.chars colours) ++ [[]] ↔
      (∀ violation ∈ digest.violations.toList, violation.OneLine) ∧
        ∀ failure ∈ digest.failures, OneLine failure.file ∧ OneLine failure.message := by
  have chars : (digest.print .human colours).toList =
      (digest.lines.map (·.chars colours)).flatMap (· ++ ['\n']) := by
    simp only [Digest.print, String.toList_join, List.flatMap_map, String.toList_append,
      StyledLine.render, String.toList_ofList]
    rfl
  rw [chars, Text.splitOn_lines_iff]
  simp only [List.forall_mem_map, StyledLine.not_mem_chars_iff, Digest.lines,
    List.forall_mem_append, List.forall_mem_singleton, Violation.oneLine_pieces_iff,
    InputFailure.oneLine_pieces_iff]
  constructor
  · intro each
    exact each.1
  · intro each
    exact ⟨each, digest.summary.oneLine_pieces⟩

section Failures

variable {tree : FileTree} {root : Path} {patterns : List String} {reporter : String}

/-- Why a text is no pattern is one line. -/
theorem Glob.PatternFault.oneLine_message (fault : Glob.PatternFault) : OneLine fault.message := by
  have label : OneLine "Pattern syntax error near position " := by decide +kernel
  have colon : OneLine ": " := by decide
  have cause : OneLine fault.cause.message := by cases fault.cause <;> decide +kernel
  unfold Glob.PatternFault.message
  simp only [Text.oneLine_append]
  exact ⟨⟨⟨label, Text.oneLine_natural _⟩, colon⟩, cause⟩

/-- Why a report gives no violations is one line. -/
theorem oneLine_reportFault {report : String} {fault : ReportFault}
    (refused : reportViolations report reporter = .error fault) : OneLine fault.message := by
  unfold reportViolations reportTrail at refused
  cases decoded : Log.decode report with
  | error refusal =>
    simp only [decoded, Except.map, Except.error.injEq] at refused
    have label : OneLine "report is not a valid SARIF document: " := by decide +kernel
    rw [← refused]
    exact Text.oneLine_append.2 ⟨label, Log.oneLine_refusal decoded⟩
  | ok log =>
    simp only [decoded, Except.map, Trail.violations] at refused
    cases ended : (log.trail reporter).fault with
    | none =>
      simp only [ended, Except.mapError] at refused
      contradiction
    | some missing =>
      simp only [ended, Except.mapError, Except.error.injEq] at refused
      have run : OneLine "run " := by decide
      have index : OneLine " references artifact index " := by decide
      have declared : OneLine " but only " := by decide
      have artifacts : OneLine " artifacts are declared" := by decide
      rw [← refused]
      change OneLine missing.message
      unfold ArtifactFault.message
      simp only [Text.oneLine_append]
      exact ⟨⟨⟨⟨⟨⟨run, Text.oneLine_natural _⟩, index⟩, Text.oneLine_integer _⟩, declared⟩,
        Text.oneLine_natural _⟩, artifacts⟩

/-- Why a file gives no violations is one line when the path of the file is. -/
theorem oneLine_fileFault {path : Path} {fault : FileFault}
    (failed : (readReportFile tree reporter path).outcome = .error fault)
    (spelled : OneLine path.text) : OneLine fault.message := by
  rw [outcome_readReportFile] at failed
  cases read : tree.read path with
  | error reason =>
    simp only [read, Except.error.injEq] at failed
    have label : OneLine "failed to read " := by decide
    have colon : OneLine ": " := by decide
    have cause : OneLine reason.message := by cases reason <;> decide +kernel
    rw [← failed]
    change OneLine (unreadableMessage path reason)
    unfold unreadableMessage
    simp only [Text.oneLine_append]
    exact ⟨⟨⟨label, spelled⟩, colon⟩, cause⟩
  | ok report =>
    simp only [read] at failed
    cases projected : reportViolations report reporter with
    | ok set =>
      simp only [projected, Except.mapError] at failed
      contradiction
    | error refused =>
      simp only [projected, Except.mapError, Except.error.injEq] at failed
      rw [← failed]
      exact oneLine_reportFault projected

/-- Why an input failed is one line when the input is. -/
theorem oneLine_failure {failure : InputFailure}
    (inside : failure ∈ (collect tree root patterns reporter).failures)
    (spelled : OneLine failure.file) : OneLine failure.message := by
  cases List.mem_append.1 inside with
  | inl ofPattern =>
    obtain ⟨pattern, _, given⟩ := List.mem_filterMap.1 ofPattern
    unfold patternFailure? at given
    split at given
    · contradiction
    · rename_i fault _
      cases given
      exact Text.oneLine_append.2 ⟨by decide, fault.oneLine_message⟩
  | inr ofTarget =>
    obtain ⟨⟨path, reading⟩, listed, given⟩ := List.mem_filterMap.1 ofTarget
    obtain ⟨target, _, same⟩ := List.mem_map.1 listed
    cases same
    dsimp only at given
    unfold readingFailure? at given
    split at given
    · contradiction
    · rename_i fault failed
      cases given
      exact oneLine_fileFault failed spelled

/-- The listing of what patterns lead to can be cut at its line feeds into its lines exactly when
what the lines show of violations and the names of the inputs that failed are one line. -/
theorem splitOn_collect_iff {colours : Bool} :
    ((collect tree root patterns reporter).print .human colours).toList.splitOn '\n' =
        (collect tree root patterns reporter).lines.map (·.chars colours) ++ [[]] ↔
      (∀ violation ∈ (collect tree root patterns reporter).violations.toList,
        violation.OneLine) ∧
      ∀ failure ∈ (collect tree root patterns reporter).failures, OneLine failure.file := by
  rw [Digest.splitOn_print_iff]
  constructor
  · intro each
    exact ⟨each.1, fun failure inside => (each.2 failure inside).1⟩
  · intro each
    exact ⟨each.1, fun failure inside =>
      ⟨each.2 failure inside, oneLine_failure inside (each.2 failure inside)⟩⟩

end Failures

section Reports

/-- The texts that a result shows as they are: its rule, the name of whoever reports it, and the
URI of each file that one of its locations points at. -/
inductive Sarif.Result.Shows (result : Result) (run : Run) (default : String) : String → Prop
  | rule {rule : String} (given : result.ruleId = some rule) : result.Shows run default rule
  | reporter {reporter : String} (reports : run.Reports default reporter) :
      result.Shows run default reporter
  | file {location : Location} {file : Option ArtifactLocation} {region : Region} {line : Int}
      {uri : String} (inside : location ∈ result.locationList)
      (points : location.PointsAt file region line) (locates : run.Locates file (some uri)) :
      result.Shows run default uri

variable {result : Result} {run : Run} {default : String} {violation : Violation}

/-- What a violation has from its result and run. -/
theorem Sarif.Result.Yields.belongs (yields : result.Yields run default violation) :
    violation.BelongsTo run default result := by
  cases yields with
  | fileless _ _ belongs => exact belongs
  | located _ _ _ _ _ _ belongs => exact belongs

/-- A violation shows one line when the texts that its result shows are one line. -/
theorem Sarif.Result.Yields.oneLine (yields : result.Yields run default violation)
    (each : ∀ text, result.Shows run default text → OneLine text) : violation.OneLine := by
  have belongs := yields.belongs
  have rule : OneLine violation.rule := by
    rw [belongs.rule]
    cases given : result.ruleId with
    | none => decide
    | some rule => exact each rule (.rule given)
  have reporter : OneLine violation.reporter := each _ (.reporter belongs.reporter)
  have file : OneLine violation.file := by
    cases yields with
    | fileless _ _ _ file =>
      rw [file]
      decide
    | @located _ _ _ _ _ _ uri _ _ listed inside points locates _ _ file =>
      rw [file]
      cases uri with
      | none => decide
      | some uri => exact each uri (.file (Result.mem_locationList listed inside) points locates)
  exact ⟨file, rule, reporter⟩

/-- The violations of a result show one line each exactly when the texts that the result shows are
one line, if it has a violation at all. -/
theorem Sarif.Result.oneLine_iff :
    (∀ violation, result.Yields run default violation → violation.OneLine) ↔
      ((∃ violation, result.Yields run default violation) →
        ∀ text, result.Shows run default text → OneLine text) := by
  constructor
  · intro each some text shows
    obtain ⟨violation, yields⟩ := some
    have belongs := yields.belongs
    have oneLine := each violation yields
    cases shows with
    | rule given =>
      have same := belongs.rule
      rw [given, Option.getD_some] at same
      rw [← same]
      exact oneLine.rule
    | reporter reports =>
      have same := (Run.reports_iff.1 reports).symm.trans (Run.reports_iff.1 belongs.reporter)
      rw [same]
      exact oneLine.reporter
    | file inside points locates =>
      have found : ∃ finding, result.Finds finding := by
        cases yields with
        | fileless found => exact ⟨_, found⟩
        | located found => exact ⟨_, found⟩
      obtain ⟨finding, found⟩ := found
      have located := Result.yields_of_pointsAt default found inside points
        (Run.file?_eq_ok_iff.2 locates)
      exact (each _ located).file
  · intro each violation yields
    exact yields.oneLine (each ⟨violation, yields⟩)

end Reports

/-- The line of a violation of a report is one line exactly when its file, its rule and its
reporter are, and all lines of a report are exactly when the texts that its results show as they
are, of those results that have a violation, are one line. The listing of a run, whatever it reads,
can be cut at its line feeds into one line for each violation, one for each failure and one for the
counts exactly when the files, rules and reporters of the violations and the names of the inputs
that failed are one line. -/
theorem listing_exact {report default : String} {log : Log} {set : ViolationSet}
    (decoded : Log.decode report = .ok log)
    (projected : reportViolations report default = .ok set) :
    (∀ colours, ∀ violation ∈ set.toList,
      OneLine (violation.line.render colours) ↔ violation.OneLine) ∧
    (∀ colours, (∀ violation ∈ set.toList, OneLine (violation.line.render colours)) ↔
      ∀ run ∈ log.runList, ∀ result ∈ run.resultList,
        (∃ violation, result.Yields run default violation) →
          ∀ text, result.Shows run default text → OneLine text) ∧
    ∀ (settings : Settings) (tree : FileTree) (environment : Environment) (filter : Filter),
      settings.output = .human →
      (settings.run tree environment filter).status ≠ .unusable →
        ((settings.run tree environment filter).output.toList.splitOn '\n' =
            (settings.digest tree).lines.map (·.chars environment.colours) ++ [[]] ↔
          (∀ violation ∈ (settings.digest tree).violations.toList, violation.OneLine) ∧
            ∀ failure ∈ (settings.digest tree).failures, OneLine failure.file) := by
  have lines : ∀ colours violation,
      OneLine (violation.line.render colours) ↔ Violation.OneLine violation := by
    intro colours violation
    rw [StyledLine.oneLine_render_iff, Violation.oneLine_pieces_iff]
  refine ⟨fun colours violation _ => lines colours violation, ?report, ?run⟩
  case report =>
    intro colours
    have members := yields_of_decoded decoded projected
    simp only [lines]
    constructor
    · intro each run ran result reported
      apply Result.oneLine_iff.1
      intro violation yields
      exact each violation ((members violation).2 ⟨run, ran, result, reported, yields⟩)
    · intro each violation inside
      obtain ⟨run, ran, result, reported, yields⟩ := (members violation).1 inside
      exact Result.oneLine_iff.2 (each run ran result reported) violation yields
  case run =>
    intro settings tree environment filter human usable
    rw [Settings.run_output, if_neg usable, human]
    exact splitOn_collect_iff

/-- The results of the mixed report show one line each, and the listing of the uneven tree is one
line for its violation, one for each of its two failures and one for the counts. -/
theorem listing_exact_mixed :
    Log.decode mixedReport = .ok mixedLog ∧
    reportViolations mixedReport "Sarif" = .ok (.ofList mixedViolations) ∧
    (∀ run ∈ mixedLog.runList, ∀ result ∈ run.resultList,
      (∃ violation, result.Yields run "Sarif" violation) →
        ∀ text, result.Shows run "Sarif" text → OneLine text) ∧
    blankSettings.output = .human ∧
    (blankSettings.run unevenTree ⟨true, none⟩ (.upTo .warn)).status ≠ .unusable ∧
    (blankSettings.run unevenTree ⟨true, none⟩ (.upTo .warn)).output.toList.splitOn '\n' =
      (blankSettings.digest unevenTree).lines.map (·.chars true) ++ [[]] := by
  obtain ⟨decoded, projected⟩ := mixedReport_projected
  obtain ⟨_, report, run⟩ := listing_exact decoded projected
  have lines : ∀ violation ∈ (OrderedSet.ofList mixedViolations).toList,
      OneLine (violation.line.render true) := by decide +kernel
  have usable : (blankSettings.run unevenTree ⟨true, none⟩ (.upTo .warn)).status ≠ .unusable := by
    decide +kernel
  have violations : ∀ violation ∈ (blankSettings.digest unevenTree).violations.toList,
      violation.OneLine := by decide +kernel
  have failures : ∀ failure ∈ (blankSettings.digest unevenTree).failures,
      OneLine failure.file := by decide +kernel
  exact ⟨decoded, projected, (report true).1 lines, rfl, usable,
    (run blankSettings unevenTree ⟨true, none⟩ (.upTo .warn) rfl usable).2 ⟨violations, failures⟩⟩

/-- A report, its records written as sequences, of a result whose rule is three lines, the second
of which reads like the line of an input that failed. -/
def forgedReport : String :=
  "[[[null,null,[[\"r\\n✖ ⟦failed⟧ a.sarif — gone\\ns\",[\"m\"]]]]]]"

/-- The log of that report. -/
def forgedLog : Log where
  runs := some [
    { results := some [
        { ruleId := some "r\n✖ ⟦failed⟧ a.sarif — gone\ns"
          message := some { text := some "m" } }] }]

/-- The violation of that report. -/
def forgedViolation : Violation where
  file := "-"
  startLine := 0
  rule := "r\n✖ ⟦failed⟧ a.sarif — gone\ns"
  message := "\n\nm"
  severity := .info
  reporter := "Sarif"
  specifics := .empty

/-- A text inside a report may take more than one line of the listing and forge the line of a
failure. -/
theorem not_oneLine_forged :
    reportViolations forgedReport "Sarif" = .ok (.ofList [forgedViolation]) ∧
    forgedViolation ∈ (OrderedSet.ofList [forgedViolation]).toList ∧
    (∀ colours, ¬ OneLine (forgedViolation.line.render colours)) ∧
    (InputFailure.line ⟨"a.sarif", "gone"⟩).chars false ∈
      (forgedViolation.line.chars false).splitOn '\n' := by
  have decoded : Log.decode forgedReport = .ok forgedLog := by decide +kernel
  have found : (forgedLog.trail "Sarif").found = [forgedViolation] := by decide +kernel
  have projected : reportViolations forgedReport "Sarif" = .ok (.ofList [forgedViolation]) := by
    rw [reportViolations_of_decode "Sarif" decoded, ← found]
    rfl
  exact ⟨projected, by decide +kernel, by decide +kernel, by decide +kernel⟩

end SarifDigest
