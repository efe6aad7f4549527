import SarifDigest.Proofs.Projection.Contents
import SarifDigest.Proofs.Sarif.RuleLookups
import SarifDigest.Proofs.Text.Occurrences

/-!
# Messages without a place

The message of a violation without a place starts with the description of its rule. What was found
stands in the description, or else behind it, and is never written a second time. That goes for
messages put together from any two texts, and so for the violations of all results without
locations, whatever the rules of their run are.
-/
namespace SarifDigest

open Sarif

/-- A message starts with a description and has what was found in it, which is written behind the
description only when the description does not have it. -/
structure TellsOnce (description finding message : String) : Prop where
  /-- The description comes first. -/
  starts : description.toList <+: message.toList
  /-- What was found is in the message. -/
  tells : finding.toList <:+: message.toList
  /-- A description that has it is the whole message. -/
  told_iff : message = description ↔ finding.toList <:+: description.toList
  /-- Behind another description there is a blank line, then what was found, and nothing else. -/
  added : ¬ finding.toList <:+: description.toList → message = description ++ "\n\n" ++ finding
  /-- As a description the message has it already. -/
  settled : filelessMessage (some message) finding = message

section Composition

variable {description : Option String} {finding : String}

/-- A description that has what was found is the message. -/
theorem filelessMessage_told (told : finding.toList <:+: (description.getD "").toList) :
    filelessMessage description finding = description.getD "" := by
  unfold filelessMessage
  rw [if_pos (Text.contains_iff.2 told)]

/-- What was found is added to a description that does not have it. -/
theorem filelessMessage_untold (untold : ¬ finding.toList <:+: (description.getD "").toList) :
    filelessMessage description finding = description.getD "" ++ "\n\n" ++ finding := by
  unfold filelessMessage
  rw [if_neg (mt Text.contains_iff.1 untold)]
  rfl

/-- The message put together from a description and what was found tells it once. -/
theorem tellsOnce_filelessMessage (description : Option String) (finding : String) :
    TellsOnce (description.getD "") finding (filelessMessage description finding) := by
  have tells : finding.toList <:+: (filelessMessage description finding).toList := by
    by_cases told : finding.toList <:+: (description.getD "").toList
    · rwa [filelessMessage_told told]
    · rw [filelessMessage_untold told, String.toList_append]
      exact (List.suffix_append _ _).isInfix
  refine ⟨?starts, tells, ?told_iff, filelessMessage_untold, ?settled⟩
  case starts =>
    by_cases told : finding.toList <:+: (description.getD "").toList
    · rw [filelessMessage_told told]
    · rw [filelessMessage_untold told, String.append_assoc, String.toList_append]
      exact List.prefix_append _ _
  case told_iff =>
    constructor
    · intro same
      rwa [same] at tells
    · exact filelessMessage_told
  case settled => exact filelessMessage_told tells

end Composition

/-- A result without locations that finds something leaves a single violation behind. -/
theorem RunContext.resultTrail_unlocated (context : RunContext) {result : Result}
    {finding : String} (found : result.Finds finding) (unlocated : result.locationList = []) :
    context.resultTrail result = .step (.found (context.fileless result finding)) := by
  rw [Result.finds_iff] at found
  unfold resultTrail
  simp only [found, unlocated]

/-- Messages without a place tell what was found, once. The message put together from any two texts
does; for all rules that a table can hold, a result without locations leaves one violation behind,
and its message does; and of a report that is projected to the end each such result yields one of
the violations, whose message starts with the description of the last rule that carries the
identifier. -/
theorem filelessMessages_tell_once :
    (∀ description finding,
      TellsOnce (description.getD "") finding (filelessMessage description finding)) ∧
    (∀ (context : RunContext) (result : Result) (finding : String),
      result.Finds finding → result.locationList = [] →
      ∃ violation, context.resultTrail result = .step (.found violation) ∧
        TellsOnce ((context.rules.description? result.rule).getD "") finding violation.message) ∧
    ∀ report default set, reportViolations report default = .ok set →
      ∃ log, Log.decode report = .ok log ∧
        ∀ run ∈ log.runList, ∀ result ∈ run.resultList, ∀ finding,
          result.Finds finding → result.locationList = [] →
          ∃ violation ∈ set.toList, result.Yields run default violation ∧
            TellsOnce (((RuleTable.ofRun run).description? result.rule).getD "") finding
              violation.message ∧
            ∀ rule description, result.rule ≠ "" →
              LastOf (fun rule => rule.id = some result.rule) run.ruleList rule →
              rule.Described result.rule description →
              description.toList <+: violation.message.toList := by
  refine ⟨tellsOnce_filelessMessage, ?trails, ?reports⟩
  case trails =>
    intro context result finding found unlocated
    exact ⟨_, context.resultTrail_unlocated found unlocated, tellsOnce_filelessMessage _ finding⟩
  case reports =>
    intro report default set projected
    obtain ⟨log, decoded, yields⟩ := yields_of_reportViolations projected
    refine ⟨log, decoded, ?_⟩
    intro run ran result listed finding found unlocated
    have yielded := (RunContext.yields_unlocated_iff 0 found unlocated).2
      (Eq.refl ((RunContext.of default 0 run).fileless result finding))
    have tells : TellsOnce (((RuleTable.ofRun run).description? result.rule).getD "") finding
        ((RunContext.of default 0 run).fileless result finding).message :=
      tellsOnce_filelessMessage _ finding
    refine ⟨_, (yields _).2 ⟨run, ran, result, listed, yielded⟩, yielded, tells, ?_⟩
    intro rule description named last described
    have looked : (RuleTable.ofRun run).description? result.rule = some description :=
      RuleTable.description?_eq_some_iff.2 ⟨named, rule, last, described⟩
    have starts := tells.starts
    rwa [looked] at starts

/-- A report of a rule described over two paragraphs, with a result that finds what the first, the
blank line and the second say together, one that finds something else, and one without a rule. -/
def describedReport : String :=
  "[[[[[\"lint\",[[\"r\",\"N\",null,null,[\"s\"]]]]],null," ++
  "[[\"r\",[\"N\\n\\ns\"]],[\"r\",[\"S\"]],[null,[\"\\n\\n\"]]]]]]"

/-- The run of that report. -/
def describedRun : Run where
  tool := some ⟨some ⟨some "lint", some [
    { id := some "r", name := some "N", shortDescription := some { text := some "s" } }]⟩⟩
  results := some [
    { ruleId := some "r", message := some { text := some "N\n\ns" } },
    { ruleId := some "r", message := some { text := some "S" } },
    { message := some { text := some "\n\n" } }]

/-- The violations of that report, one for each result. -/
def describedViolations : List Violation :=
  [("r", "r: N\n\ns"), ("r", "r: N\n\ns\n\nS"), ("", "\n\n\n\n")].map fun (rule, message) =>
    { file := "-", startLine := 0, rule := rule, message := message, severity := .info
      reporter := "lint", specifics := .empty }

/-- What the first result finds is not repeated, although it lies across two parts of the
description. -/
theorem filelessMessages_tell_once_paragraphs :
    Log.decode describedReport = .ok ⟨some [describedRun]⟩ ∧
    reportViolations describedReport "Sarif" = .ok (.ofList describedViolations) ∧
    ∃ result violation, describedRun.resultList[0]? = some result ∧
      violation ∈ (OrderedSet.ofList describedViolations).toList ∧
      result.Yields describedRun "Sarif" violation ∧
      TellsOnce "r: N\n\ns" "N\n\ns" violation.message ∧ violation.message = "r: N\n\ns" := by
  have decoded : Log.decode describedReport = .ok ⟨some [describedRun]⟩ := by decide +kernel
  have found : (Log.trail ⟨some [describedRun]⟩ "Sarif").found = describedViolations := by
    decide +kernel
  have projected :
      reportViolations describedReport "Sarif" = .ok (.ofList describedViolations) := by
    rw [reportViolations_of_decode "Sarif" decoded, ← found]
    rfl
  obtain ⟨_, _, reported⟩ := filelessMessages_tell_once
  obtain ⟨log, same, tells⟩ := reported _ _ _ projected
  cases decoded.symm.trans same
  have finds : Result.Finds ⟨some "r", some ⟨some "N\n\ns", none⟩, .none, none, none⟩
      "N\n\ns" := Result.finds_iff.2 (by decide)
  obtain ⟨violation, inside, yields, once, _⟩ :=
    tells describedRun (List.mem_singleton.2 rfl) _ List.mem_cons_self _ finds rfl
  have described : ((RuleTable.ofRun describedRun).description? "r").getD "" = "r: N\n\ns" := by
    decide +kernel
  have within : "N\n\ns".toList <:+: "r: N\n\ns".toList := ⟨['r', ':', ' '], [], by decide⟩
  have toldOnce : TellsOnce "r: N\n\ns" "N\n\ns" violation.message := by
    rw [← described]
    exact once
  exact ⟨decoded, projected, _, violation, rfl, inside, yields, toldOnce,
    toldOnce.told_iff.2 within⟩

end SarifDigest
