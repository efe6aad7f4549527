import SarifDigest.Proofs.Projection.FilelessMessages
import SarifDigest.Proofs.Text.FirstLine

/-!
# Headlines

The line of a violation ends with the first line of its message. A message at a place starts with a
visible character, so its first line shows some of it. A message without a place starts with the
description of its rule, or with a blank line when there is none, so its first line shows something
exactly when that of the description does: when the first line of the identifier does, or when the
identifier is a single blank line and the rule has a name, which the description puts on that line.
-/
namespace SarifDigest

open Sarif
open Text (OneLine FirstLine Blank Trimmed isBlankText headline opening)

/-- What the line of a violation shows in front of the dash. -/
def Violation.lead (violation : Violation) : StyledLine := [
  { text := violation.severity.icon, colour := violation.severity.colour },
  .plain " ",
  { text := tag violation.severity.word, colour := violation.severity.colour, bold := true },
  .plain " ",
  { text := violation.location, bold := true },
  .plain (" ❲" ++ violation.rule ++ "❳ " ++ violation.reporter)]

/-- The line of a violation, in style or without, ends with a dash and the first line of the
message. -/
theorem Violation.render_line (violation : Violation) (colours : Bool) :
    violation.line.render colours =
      violation.lead.render colours ++ " — " ++ headline violation.message := by
  apply String.toList_injective
  cases colours <;>
    simp [StyledLine.render, StyledLine.chars, line, lead, Piece.plain, Piece.styled,
      Piece.coloured]

section Messages

/-- The first line of a text without white space in front is blank only when the text is. -/
theorem Text.FirstLine.isBlankText_of_trimmed {text line : String} (first : FirstLine text line)
    (trimmed : Trimmed text) (visible : isBlankText text = false) : isBlankText line = false := by
  rw [first.visible_iff]
  intro blank
  cases chars : text.toList with
  | nil =>
    rw [isBlankText, chars] at visible
    contradiction
  | cons c others =>
    have shown : isBlank c = false := trimmed.front c (by rw [chars]; rfl)
    have other : (c != '\n') = true := by
      rw [bne_iff_ne]
      rintro rfl
      revert shown
      decide
    have inside : c ∈ opening text := by
      rw [opening, chars, List.takeWhile_cons, if_pos other]
      exact List.mem_cons_self
    rw [blank c inside] at shown
    contradiction

/-- A message without a place starts with a blank line exactly when its description does. -/
theorem blank_opening_filelessMessage_iff {description : Option String} {finding : String} :
    Blank (opening (filelessMessage description finding)) ↔
      Blank (opening (description.getD "")) := by
  by_cases told : finding.toList <:+: (description.getD "").toList
  · rw [filelessMessage_told told]
  · rw [filelessMessage_untold told, String.append_assoc]
    exact Text.blank_opening_append_iff_of_nil (Text.opening_of_lineFeed (by simp))

end Messages

/-- A rule introduces its identifier when the first line of its description shows something: that
of the identifier, or the name behind it when the identifier is one line. -/
def Sarif.ReportingDescriptor.Introduces (rule : ReportingDescriptor) (id : String) : Prop :=
  (∃ line, FirstLine id line ∧ isBlankText line = false) ∨
    OneLine id ∧ ∃ name, rule.name = some name ∧ name ≠ ""

/-- A run introduces an identifier when the last of its rules that carries it does. -/
def Sarif.Run.Introduces (run : Run) (id : String) : Prop :=
  id ≠ "" ∧ ∃ rule, LastOf (fun rule => rule.id = some id) run.ruleList rule ∧ rule.Introduces id

/-- The name in a description shows something on its first line exactly when the rule has a name:
the colon in front of it is visible. -/
theorem Sarif.DescriptionPart.blank_opening_iff {rule : ReportingDescriptor} {part : String}
    (named : DescriptionPart ": " [rule.name] part) :
    Blank (opening part) ↔ ¬ ∃ name, rule.name = some name ∧ name ≠ "" := by
  simp only [← nonEmpty_eq_some_iff]
  cases named with
  | @given text first =>
    have found := findSome?_nonEmpty_eq_some_iff.2 first
    rw [List.findSome?_singleton] at found
    have colon : ¬ Blank (opening (": " ++ text)) := by
      rw [Text.blank_opening_append_iff]
      intro both
      have visible := both.1 ':' (by decide)
      contradiction
    exact iff_of_false colon (not_not_intro ⟨text, found⟩)
  | omitted silent =>
    have empty : Blank (opening "") := List.forall_mem_nil _
    have unnamed : nonEmpty rule.name = none :=
      nonEmpty_eq_none_iff.2 (silent rule.name List.mem_cons_self)
    rw [unnamed]
    exact iff_of_true empty (by simp)

/-- Nothing is visible on the first line of a description exactly when the rule does not introduce
the identifier. -/
theorem Sarif.ReportingDescriptor.Described.blank_opening_iff {rule : ReportingDescriptor}
    {id description : String} (described : rule.Described id description) :
    Blank (opening description) ↔ ¬ rule.Introduces id := by
  obtain ⟨name, short, named, shortened, rfl⟩ := described
  -- The short description starts a new line, so only the name can share the line of the identifier.
  have behind : opening short = [] := by
    cases shortened with
    | given => exact Text.opening_of_lineFeed (by simp)
    | omitted => rfl
  rw [Text.blank_opening_append_iff_of_nil behind, Text.blank_opening_append_iff,
    named.blank_opening_iff, Introduces, Text.exists_visible_firstLine_iff, not_or, not_not,
    not_and]

/-- A run introduces an identifier exactly when the first line of its description shows
something. -/
theorem Sarif.Run.introduces_iff {run : Run} {id : String} :
    run.Introduces id ↔ ∃ description, (RuleTable.ofRun run).description? id = some description ∧
      ¬ Blank (opening description) := by
  constructor
  · rintro ⟨full, rule, last, introduces⟩
    have described : rule.Described id (rule.description id) :=
      ReportingDescriptor.described_iff.2 rfl
    refine ⟨_, RuleTable.description?_eq_some_iff.2 ⟨full, rule, last, described⟩, ?_⟩
    rw [described.blank_opening_iff, not_not]
    exact introduces
  · rintro ⟨description, found, visible⟩
    obtain ⟨full, rule, last, described⟩ := RuleTable.description?_eq_some_iff.1 found
    rw [described.blank_opening_iff, not_not] at visible
    exact ⟨full, rule, last, visible⟩

/-- A message without a place starts with a blank line exactly when its run does not introduce the
identifier of its rule. -/
theorem Sarif.Run.blank_opening_iff {run : Run} {id finding : String} :
    Blank (opening (filelessMessage ((RuleTable.ofRun run).description? id) finding)) ↔
      ¬ run.Introduces id := by
  rw [blank_opening_filelessMessage_iff, Run.introduces_iff]
  cases (RuleTable.ofRun run).description? id with
  | none =>
    have empty : Blank (opening "") := List.forall_mem_nil _
    simp [empty]
  | some description => simp

section Yielded

variable {result : Result} {run : Run} {default : String} {violation : Violation}

/-- The first line of a message that is not blank shows something exactly when the violation has a
place or the run introduces its rule. -/
theorem Sarif.Result.Yields.firstLine_visible_iff (yields : result.Yields run default violation)
    (visible : isBlankText violation.message = false) {line : String}
    (first : FirstLine violation.message line) :
    isBlankText line = false ↔ violation.isFileless = false ∨ run.Introduces violation.rule := by
  cases yields with
  | fileless _ _ belongs file startLine message =>
    have rule := belongs.rule
    have fileless : violation.isFileless = true := Violation.isFileless_of file startLine
    rw [first.visible_iff, message, Run.blank_opening_iff, not_not, rule, fileless]
    simp
  | @located _ _ _ _ _ line' _ _ _ _ _ points _ _ _ _ startLine message =>
    have positive := points.positive
    have placed : violation.isFileless = false := by
      rw [Bool.eq_false_iff]
      intro fileless
      have absent := Violation.startLine_of_isFileless fileless
      omega
    have trimmed : Trimmed violation.message := by
      rw [message]
      exact Text.trimmed_trim _
    exact iff_of_true (first.isBlankText_of_trimmed trimmed visible) (.inl placed)

end Yielded

/-- Of every report that is projected to the end, the line of a violation whose message is not blank
ends with a dash and the first line of the message. That line shows something when the violation has
a place, and otherwise exactly when the run that it comes from introduces its rule: when the last of
the rules with this identifier is described in words that start on the first line. -/
theorem headline_visible_iff {report default : String} {set : ViolationSet}
    (projected : reportViolations report default = .ok set) :
    ∃ log, Log.decode report = .ok log ∧
      ∀ violation ∈ set.toList, isBlankText violation.message = false →
        (∃ run ∈ log.runList, run.Yields default violation) ∧
        ∃ headline, FirstLine violation.message headline ∧
          (∀ colours, violation.line.render colours =
            violation.lead.render colours ++ " — " ++ headline) ∧
          ∀ run ∈ log.runList, run.Yields default violation →
            (isBlankText headline = false ↔
              violation.isFileless = false ∨ run.Introduces violation.rule) := by
  obtain ⟨log, decoded, yields⟩ := yields_of_reportViolations projected
  refine ⟨log, decoded, ?_⟩
  intro violation inside visible
  have first : FirstLine violation.message (headline violation.message) :=
    Text.firstLine_iff.2 rfl
  refine ⟨(yields violation).1 inside, _, first, violation.render_line, ?_⟩
  rintro run _ ⟨result, _, yielded⟩
  exact yielded.firstLine_visible_iff visible first

/-- A report, its records written as sequences, of three rules with a name, whose identifiers are a
letter, a blank and a text that starts with a line feed. Each has a result without a place; a rule
that is not declared has one without a place and one at a line. -/
def introducedReport : String :=
  "[[[[[\"lint\",[[\"r\",\"N\"],[\" \",\"N\"],[\"\\nq\",\"N\"]]]],null," ++
  "[[\"r\",[\"m\"]],[\" \",[\"m\"]],[\"\\nq\",[\"m\"]],[\"s\",[\"m\"]]," ++
  "[\"s\",[\"\\r\\n m\"],null,null,[[[null,[1]]]]]]]]]"

/-- The run of that report. -/
def introducedRun : Run where
  tool := some ⟨some ⟨some "lint", some [
    { id := some "r", name := some "N" },
    { id := some " ", name := some "N" },
    { id := some "\nq", name := some "N" }]⟩⟩
  results := some [
    { ruleId := some "r", message := some { text := some "m" } },
    { ruleId := some " ", message := some { text := some "m" } },
    { ruleId := some "\nq", message := some { text := some "m" } },
    { ruleId := some "s", message := some { text := some "m" } },
    { ruleId := some "s"
      message := some { text := some "\r\n m" }
      locations := some [⟨some ⟨none, some { startLine := some 1 }⟩⟩] }]

/-- The violations of that report, one for each result. -/
def introducedViolations : List Violation :=
  [("r", 0, "r: N\n\nm"), (" ", 0, " : N\n\nm"), ("\nq", 0, "\nq: N\n\nm"), ("s", 0, "\n\nm"),
    ("s", 1, "m")].map fun (rule, startLine, message) =>
      { file := "-", startLine, rule, message, severity := .info, reporter := "lint"
        specifics := .empty }

/-- Of the rules in that report the run introduces the letter and the blank, and neither the text
that starts with a line feed nor the identifier that is not declared. The message at a line shows
something all the same. -/
theorem headline_visible_iff_introduced :
    reportViolations introducedReport "Sarif" = .ok (.ofList introducedViolations) ∧
    introducedRun.Introduces "r" ∧ introducedRun.Introduces " " ∧
    ¬ introducedRun.Introduces "\nq" ∧ ¬ introducedRun.Introduces "s" ∧
    ∃ headline, FirstLine introducedViolations[4].message headline ∧
      isBlankText headline = false := by
  have decoded : Log.decode introducedReport = .ok ⟨some [introducedRun]⟩ := by decide +kernel
  have found : (Log.trail ⟨some [introducedRun]⟩ "Sarif").found = introducedViolations := by
    decide +kernel
  have projected :
      reportViolations introducedReport "Sarif" = .ok (.ofList introducedViolations) := by
    rw [reportViolations_of_decode "Sarif" decoded, ← found]
    rfl
  obtain ⟨log, same, each⟩ := headline_visible_iff projected
  cases decoded.symm.trans same
  have shows (violation : Violation) (inside : violation ∈ introducedViolations)
      (visible : isBlankText violation.message = false) :
      ∃ headline, FirstLine violation.message headline ∧ (isBlankText headline = false ↔
        violation.isFileless = false ∨ introducedRun.Introduces violation.rule) := by
    obtain ⟨⟨run, ran, yields⟩, line, first, _, shown⟩ :=
      each violation (OrderedSet.mem_ofList.2 inside) visible
    cases List.mem_singleton.1 ran
    exact ⟨line, first, shown introducedRun ran yields⟩
  have introduces (violation : Violation) (inside : violation ∈ introducedViolations)
      (visible : isBlankText violation.message = false) (fileless : violation.isFileless = true) :
      introducedRun.Introduces violation.rule ↔
        isBlankText (headline violation.message) = false := by
    obtain ⟨line, first, shown⟩ := shows violation inside visible
    rw [first.headline_eq, shown, fileless]
    simp
  obtain ⟨line, first, shown⟩ := shows introducedViolations[4] (by simp) (by decide)
  refine ⟨projected, ?letter, ?blank, ?broken, ?undeclared, line, first, shown.2 (.inl (by decide))⟩
  case letter =>
    exact (introduces introducedViolations[0] (by simp) (by decide) (by decide)).2 (by decide)
  case blank =>
    exact (introduces introducedViolations[1] (by simp) (by decide) (by decide)).2 (by decide)
  case broken =>
    exact mt (introduces introducedViolations[2] (by simp) (by decide) (by decide)).1 (by decide)
  case undeclared =>
    exact mt (introduces introducedViolations[3] (by simp) (by decide) (by decide)).1 (by decide)

/-- A report of one result without a place, whose rule is not declared. -/
def undescribedReport : String :=
  "[[[null,null,[[\"r\",[\"m\"]]]]]]"

/-- The violation of that report. -/
def undescribedViolation : Violation where
  file := "-"
  startLine := 0
  rule := "r"
  message := "\n\nm"
  severity := .info
  reporter := "Sarif"
  specifics := .empty

/-- The line of a violation may show nothing of a message that is not blank: the first line of this
message is empty. -/
theorem not_headline_visible_undescribed :
    reportViolations undescribedReport "Sarif" = .ok (.ofList [undescribedViolation]) ∧
    undescribedViolation.line.render false = "◆ ⟦info⟧ - ❲r❳ Sarif — " ∧
    ¬ ∀ violation ∈ (OrderedSet.ofList [undescribedViolation]).toList,
      isBlankText violation.message = false →
        ∀ headline, FirstLine violation.message headline → isBlankText headline = false := by
  have decoded : Log.decode undescribedReport = .ok ⟨some [{ results := some [
      { ruleId := some "r", message := some { text := some "m" } }] }]⟩ := by decide +kernel
  have found : (Log.trail ⟨some [{ results := some [
      { ruleId := some "r", message := some { text := some "m" } }] }]⟩ "Sarif").found =
        [undescribedViolation] := by decide +kernel
  have projected :
      reportViolations undescribedReport "Sarif" = .ok (.ofList [undescribedViolation]) := by
    rw [reportViolations_of_decode "Sarif" decoded, ← found]
    rfl
  have first : FirstLine undescribedViolation.message "" := Text.firstLine_iff.2 (by decide)
  refine ⟨projected, by decide +kernel, ?_⟩
  intro visible
  have shown := visible undescribedViolation (by decide +kernel) (by decide +kernel) "" first
  contradiction

end SarifDigest
