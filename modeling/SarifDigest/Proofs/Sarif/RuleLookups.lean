import Mathlib.Data.List.Induction
import SarifDigest.Proofs.Projection.Elements
import SarifDigest.Proofs.Sarif.RuleTables

/-!
# What is found in a rule table

The description of an identifier is that of the last rule that carries it, and the help is that of
the last rule that carries it and has a text to give as help. Texts that are missing and texts that
are empty are passed over alike, so a later rule without help leaves the help of an earlier one.
-/
namespace SarifDigest.Sarif

section LastOf

variable {α : Type} {chosen : α → Prop} {list : List α} {last : α}

/-- The last element of a list that is chosen: no element behind it is. -/
def LastOf (chosen : α → Prop) (list : List α) (last : α) : Prop :=
  ∃ before behind, list = before ++ last :: behind ∧ chosen last ∧
    ∀ other ∈ behind, ¬ chosen other

/-- An element at the end is the last one if it is chosen, and otherwise plays no part. -/
theorem lastOf_concat_iff {element : α} :
    LastOf chosen (list ++ [element]) last ↔
      chosen element ∧ last = element ∨ ¬ chosen element ∧ LastOf chosen list last := by
  constructor
  · rintro ⟨before, behind, split, isChosen, others⟩
    rcases List.eq_nil_or_concat behind with rfl | ⟨behind, final, rfl⟩
    · obtain ⟨rfl, same⟩ := List.append_inj' split rfl
      cases same
      exact .inl ⟨isChosen, rfl⟩
    · rw [List.concat_eq_append, ← List.cons_append, ← List.append_assoc] at split
      obtain ⟨rfl, same⟩ := List.append_inj' split rfl
      cases same
      rw [List.concat_eq_append, List.forall_mem_append, List.forall_mem_singleton] at others
      exact .inr ⟨others.2, before, behind, rfl, isChosen, others.1⟩
  · rintro (⟨isChosen, rfl⟩ | ⟨passed, before, behind, rfl, isChosen, others⟩)
    · exact ⟨list, [], rfl, isChosen, by simp⟩
    · refine ⟨before, behind ++ [element], by simp, isChosen, ?_⟩
      rw [List.forall_mem_append, List.forall_mem_singleton]
      exact ⟨others, passed⟩

/-- The last element that is chosen is in the list, and chosen. -/
theorem LastOf.spec (found : LastOf chosen list last) : last ∈ list ∧ chosen last := by
  obtain ⟨before, behind, rfl, isChosen, _⟩ := found
  exact ⟨by simp, isChosen⟩

/-- There is a last element when there is one at all. -/
theorem exists_lastOf_iff :
    (∃ last, LastOf chosen list last) ↔ ∃ element ∈ list, chosen element := by
  constructor
  · rintro ⟨last, found⟩
    exact ⟨last, found.spec⟩
  · rintro ⟨element, inside, isChosen⟩
    induction list using List.reverseRecOn with
    | nil => contradiction
    | append_singleton list final ih =>
      by_cases ends : chosen final
      · exact ⟨final, lastOf_concat_iff.2 (.inl ⟨ends, rfl⟩)⟩
      · rcases List.mem_append.1 inside with inside | same
        · obtain ⟨last, found⟩ := ih inside
          exact ⟨last, lastOf_concat_iff.2 (.inr ⟨ends, found⟩)⟩
        · rw [List.mem_singleton.1 same] at isChosen
          contradiction

/-- Elements at the end that are not chosen play no part. -/
theorem lastOf_append_iff {more : List α} (passed : ∀ other ∈ more, ¬ chosen other) :
    LastOf chosen (list ++ more) last ↔ LastOf chosen list last := by
  induction more using List.reverseRecOn with
  | nil => rw [List.append_nil]
  | append_singleton more final ih =>
    rw [List.forall_mem_append, List.forall_mem_singleton] at passed
    rw [← List.append_assoc, lastOf_concat_iff, ih passed.1]
    simp [passed.2]

/-- A condition that does not depend on the element holds for the last one. -/
theorem lastOf_and_iff {condition : Prop} :
    LastOf (fun element => condition ∧ chosen element) list last ↔
      condition ∧ LastOf chosen list last := by
  by_cases holds : condition
  · simp only [holds, true_and]
  · simp [LastOf, holds]

end LastOf

section Lookup

variable {entry : ReportingDescriptor → Option (String × String)} {key : String}
  {chosen : ReportingDescriptor → Prop}
  (adds : ∀ rule, (∃ value, entry rule = some (key, value)) ↔ chosen rule)
  {rules : List ReportingDescriptor}

include adds

/-- What the last rule adds that adds something under a key is found under it. -/
theorem lookup_reverse_filterMap_eq_some_iff {value : String} :
    (rules.filterMap entry).reverse.lookup key = some value ↔
      ∃ rule, LastOf chosen rules rule ∧ entry rule = some (key, value) := by
  induction rules using List.reverseRecOn with
  | nil => simp [LastOf]
  | append_singleton rules final ih =>
    rw [List.filterMap_append, List.reverse_append]
    simp only [lastOf_concat_iff]
    by_cases last : chosen final
    · obtain ⟨own, added⟩ := (adds final).2 last
      simp [added, last]
    · have passed : ([final].filterMap entry).reverse.lookup key = none := by
        cases added : entry final with
        | none => simp [added]
        | some pair =>
          have different : key ≠ pair.1 := by
            rintro rfl
            exact last ((adds final).1 ⟨pair.2, added⟩)
          simp [added, different]
      rw [List.lookup_append, passed, Option.none_or, ih]
      simp only [last, false_and, not_false_eq_true, true_and, false_or]

/-- Nothing is found under a key when no rule adds something under it. -/
theorem lookup_reverse_filterMap_eq_none_iff :
    (rules.filterMap entry).reverse.lookup key = none ↔ ∀ rule ∈ rules, ¬ chosen rule := by
  rw [Option.eq_none_iff_forall_ne_some]
  simp only [ne_eq, lookup_reverse_filterMap_eq_some_iff adds]
  constructor
  · intro absent rule inside isChosen
    obtain ⟨last, found⟩ := exists_lastOf_iff.2 ⟨rule, inside, isChosen⟩
    obtain ⟨value, added⟩ := (adds last).2 found.spec.2
    exact absent value ⟨last, found, added⟩
  · rintro absent value ⟨rule, found, _⟩
    exact absent rule found.spec.1 found.spec.2

end Lookup

/-- A text has nothing to say when it is missing or empty. -/
def Silent (text : Option String) : Prop :=
  text = none ∨ text = some ""

/-- The first of some texts that has something to say. -/
def FirstText (texts : List (Option String)) (text : String) : Prop :=
  text ≠ "" ∧ ∃ before behind, texts = before ++ some text :: behind ∧
    ∀ other ∈ before, Silent other

section Texts

variable {texts : List (Option String)}

/-- The first text that has something to say is found by looking for one that counts as there. -/
theorem findSome?_nonEmpty_eq_some_iff {text : String} :
    texts.findSome? nonEmpty = some text ↔ FirstText texts text := by
  rw [List.findSome?_eq_some_iff]
  simp only [nonEmpty_eq_some_iff, nonEmpty_eq_none_iff]
  constructor
  · rintro ⟨before, found, behind, rfl, ⟨rfl, full⟩, silent⟩
    exact ⟨full, before, behind, rfl, silent⟩
  · rintro ⟨full, before, behind, rfl, silent⟩
    exact ⟨before, some text, behind, rfl, ⟨rfl, full⟩, silent⟩

/-- None is found exactly when all are silent. -/
theorem findSome?_nonEmpty_eq_none_iff :
    texts.findSome? nonEmpty = none ↔ ∀ text ∈ texts, Silent text := by
  simp only [List.findSome?_eq_none_iff, nonEmpty_eq_none_iff, Silent]

/-- One of some texts is the first to say something, unless all are silent. -/
theorem exists_firstText_iff :
    (∃ text, FirstText texts text) ↔ ¬ ∀ text ∈ texts, Silent text := by
  simp only [← findSome?_nonEmpty_eq_some_iff, ← findSome?_nonEmpty_eq_none_iff,
    Option.ne_none_iff_exists', ← ne_eq]

/-- A part of a description: the first text with something to say behind what introduces it, or
nothing at all. -/
inductive DescriptionPart (lead : String) (texts : List (Option String)) : String → Prop
  | given {text : String} (first : FirstText texts text) :
      DescriptionPart lead texts (lead ++ text)
  | omitted (silent : ∀ text ∈ texts, Silent text) : DescriptionPart lead texts ""

/-- A part of a description is written by looking for its text. -/
theorem descriptionPart_iff {lead part : String} :
    DescriptionPart lead texts part ↔
      part = ((texts.findSome? nonEmpty).map (lead ++ ·)).getD "" := by
  constructor
  · rintro (first | silent)
    · rw [findSome?_nonEmpty_eq_some_iff.2 first]
      rfl
    · rw [findSome?_nonEmpty_eq_none_iff.2 silent]
      rfl
  · rintro rfl
    cases found : texts.findSome? nonEmpty with
    | none => exact .omitted (findSome?_nonEmpty_eq_none_iff.1 found)
    | some text => exact .given (findSome?_nonEmpty_eq_some_iff.1 found)

end Texts

namespace ReportingDescriptor

variable {rule : ReportingDescriptor} {id text : String}

/-- What a rule may give as help, in the order of preference. -/
def helpTexts (rule : ReportingDescriptor) : List (Option String) :=
  [rule.help.bind (·.markdown), rule.help.bind (·.text),
    rule.fullDescription.bind (·.markdown), rule.fullDescription.bind (·.text), rule.name]

/-- What a rule may give as its short description, in the order of preference. -/
def shortTexts (rule : ReportingDescriptor) : List (Option String) :=
  [rule.shortDescription.bind (·.markdown), rule.shortDescription.bind (·.text)]

/-- A rule is described by its identifier, its name behind a colon and its short description behind
a blank line, the last two only as far as there is something to say. -/
def Described (rule : ReportingDescriptor) (id description : String) : Prop :=
  ∃ name short, DescriptionPart ": " [rule.name] name ∧
    DescriptionPart "\n\n" rule.shortTexts short ∧ description = id ++ name ++ short

/-- The short description is found by looking for a text that counts as there. -/
theorem findSome?_shortTexts (rule : ReportingDescriptor) :
    rule.shortTexts.findSome? nonEmpty = rule.shortDescription.bind Message.preferred := by
  unfold shortTexts
  cases rule.shortDescription with
  | none => rfl
  | some message =>
    simp only [Option.bind_some, List.findSome?_cons, Message.preferred]
    cases nonEmpty message.markdown with
    | some markdown => rfl
    | none => cases nonEmpty message.text <;> rfl

/-- The description of a rule, with its name and its short description looked for alike. -/
theorem description_eq (rule : ReportingDescriptor) (id : String) :
    rule.description id = id ++ (([rule.name].findSome? nonEmpty).map (": " ++ ·)).getD "" ++
      ((rule.shortTexts.findSome? nonEmpty).map ("\n\n" ++ ·)).getD "" := by
  rw [findSome?_shortTexts, List.findSome?_singleton, description]
  cases nonEmpty rule.name <;> cases rule.shortDescription.bind Message.preferred <;> rfl

/-- A rule is described in one way, which is that of its description. -/
theorem described_iff : rule.Described id text ↔ text = rule.description id := by
  simp only [Described, descriptionPart_iff, description_eq]
  constructor
  · rintro ⟨_, _, rfl, rfl, rfl⟩
    rfl
  · rintro rfl
    exact ⟨_, _, rfl, rfl, rfl⟩

/-- A rule adds a help under its identifier when it has something to give as help. -/
theorem helpEntry_eq_some_iff :
    rule.helpEntry = some (id, text) ↔
      id ≠ "" ∧ rule.id = some id ∧ FirstText rule.helpTexts text := by
  have helps : rule.helpText = rule.helpTexts.findSome? nonEmpty := rfl
  simp only [helpEntry, Option.bind_eq_some_iff, Option.map_eq_some_iff, nonEmpty_eq_some_iff,
    helps, findSome?_nonEmpty_eq_some_iff]
  constructor
  · rintro ⟨_, ⟨given, full⟩, _, first, same⟩
    cases same
    exact ⟨full, given, first⟩
  · rintro ⟨full, given, first⟩
    exact ⟨id, ⟨given, full⟩, text, first, rfl⟩

/-- A rule adds its description under its identifier. -/
theorem descriptionEntry_eq_some_iff :
    rule.descriptionEntry = some (id, text) ↔
      id ≠ "" ∧ rule.id = some id ∧ rule.Described id text := by
  simp only [descriptionEntry, Option.map_eq_some_iff, nonEmpty_eq_some_iff, described_iff]
  constructor
  · rintro ⟨_, ⟨given, full⟩, same⟩
    cases same
    exact ⟨full, given, rfl⟩
  · rintro ⟨full, given, rfl⟩
    exact ⟨id, ⟨given, full⟩, rfl⟩

/-- A rule helps with an identifier when it carries it and has something to give as help. -/
def Helps (rule : ReportingDescriptor) (id : String) : Prop :=
  rule.id = some id ∧ ¬ ∀ text ∈ rule.helpTexts, Silent text

/-- A rule adds a help under the identifier that it helps with. -/
theorem exists_helpEntry_iff :
    (∃ text, rule.helpEntry = some (id, text)) ↔ id ≠ "" ∧ rule.Helps id := by
  simp only [helpEntry_eq_some_iff, exists_and_left, exists_firstText_iff, Helps]

/-- A rule adds a description under the identifier that it carries. -/
theorem exists_descriptionEntry_iff :
    (∃ text, rule.descriptionEntry = some (id, text)) ↔ id ≠ "" ∧ rule.id = some id := by
  simp only [descriptionEntry_eq_some_iff, described_iff, exists_and_left, exists_eq, and_true]

end ReportingDescriptor

namespace RuleTable

open ReportingDescriptor

variable {run : Run} {id text : String}

/-- The help for an identifier is the first text of the last rule that helps with it. -/
theorem help?_eq_some_iff :
    (ofRun run).help? id = some text ↔ id ≠ "" ∧
      ∃ rule, LastOf (fun rule => rule.Helps id) run.ruleList rule ∧
        FirstText rule.helpTexts text := by
  rw [ofRun_eq, help?, lookup_reverse_filterMap_eq_some_iff fun _ => exists_helpEntry_iff]
  simp only [lastOf_and_iff, helpEntry_eq_some_iff]
  constructor
  · rintro ⟨rule, ⟨full, last⟩, _, _, first⟩
    exact ⟨full, rule, last, first⟩
  · rintro ⟨full, rule, last, first⟩
    exact ⟨rule, ⟨full, last⟩, full, last.spec.2.1, first⟩

/-- There is no help for an identifier exactly when it is empty or no rule helps with it. -/
theorem help?_eq_none_iff :
    (ofRun run).help? id = none ↔ id = "" ∨
      ∀ rule ∈ run.ruleList, rule.id = some id → ∀ text ∈ rule.helpTexts, Silent text := by
  rw [ofRun_eq, help?, lookup_reverse_filterMap_eq_none_iff fun _ => exists_helpEntry_iff]
  by_cases empty : id = "" <;> simp [empty, Helps]

/-- The description for an identifier is that of the last rule that carries it. -/
theorem description?_eq_some_iff :
    (ofRun run).description? id = some text ↔ id ≠ "" ∧
      ∃ rule, LastOf (fun rule => rule.id = some id) run.ruleList rule ∧
        rule.Described id text := by
  rw [ofRun_eq, description?,
    lookup_reverse_filterMap_eq_some_iff fun _ => exists_descriptionEntry_iff]
  simp only [lastOf_and_iff, descriptionEntry_eq_some_iff]
  constructor
  · rintro ⟨rule, ⟨full, last⟩, _, _, described⟩
    exact ⟨full, rule, last, described⟩
  · rintro ⟨full, rule, last, described⟩
    exact ⟨rule, ⟨full, last⟩, full, last.spec.2, described⟩

/-- There is no description for an identifier exactly when it is empty or no rule carries it. -/
theorem description?_eq_none_iff :
    (ofRun run).description? id = none ↔ id = "" ∨ ∀ rule ∈ run.ruleList, rule.id ≠ some id := by
  rw [ofRun_eq, description?,
    lookup_reverse_filterMap_eq_none_iff fun _ => exists_descriptionEntry_iff]
  by_cases empty : id = "" <;> simp [empty]

/-- The lookups in the table of a run follow the last rule that matters. The description for an
identifier is that of the last rule that carries it, if there is one and the identifier is not
empty. The help is the first text of the last rule that carries it and has a text to give, so rules
behind it that have none leave it. Whatever has a help has a description, no help is empty, and
every description starts with its identifier. -/
theorem lookups_follow_last (run : Run) (id : String) :
    ((ofRun run).description? id = none ↔
      id = "" ∨ ∀ rule ∈ run.ruleList, rule.id ≠ some id) ∧
    (∀ text, (ofRun run).description? id = some text ↔ id ≠ "" ∧
      ∃ rule, LastOf (fun rule => rule.id = some id) run.ruleList rule ∧
        rule.Described id text) ∧
    ((ofRun run).help? id = none ↔ id = "" ∨
      ∀ rule ∈ run.ruleList, rule.id = some id → ∀ text ∈ rule.helpTexts, Silent text) ∧
    (∀ text, (ofRun run).help? id = some text ↔ id ≠ "" ∧
      ∃ rule, LastOf (fun rule => rule.Helps id) run.ruleList rule ∧
        FirstText rule.helpTexts text) ∧
    (∀ longer more, longer.ruleList = run.ruleList ++ more → (∀ rule ∈ more, ¬ rule.Helps id) →
      (ofRun longer).help? id = (ofRun run).help? id) ∧
    (∀ help, (ofRun run).help? id = some help →
      help ≠ "" ∧ ∃ description, (ofRun run).description? id = some description) ∧
    ∀ description, (ofRun run).description? id = some description →
      ∃ behind, description = id ++ behind := by
  refine ⟨description?_eq_none_iff, fun _ => description?_eq_some_iff, help?_eq_none_iff,
    fun _ => help?_eq_some_iff, ?lasting, ?helped, ?started⟩
  case lasting =>
    intro longer more extended silent
    apply Option.ext
    intro text
    rw [help?_eq_some_iff, help?_eq_some_iff, extended]
    simp only [lastOf_append_iff silent]
  case helped =>
    intro help found
    obtain ⟨full, rule, last, spoken, _⟩ := help?_eq_some_iff.1 found
    refine ⟨spoken, Option.ne_none_iff_exists'.1 fun none => ?_⟩
    rcases description?_eq_none_iff.1 none with empty | unknown
    · exact full empty
    · exact unknown rule last.spec.1 last.spec.2.1
  case started =>
    intro description found
    obtain ⟨_, rule, _, name, short, _, _, rfl⟩ := description?_eq_some_iff.1 found
    exact ⟨name ++ short, String.append_assoc ..⟩

/-- A run whose driver declares one identifier twice, the second time without help. -/
def repeatedRun : Run where
  tool := some { driver := some { rules := some [
    { id := some "r", name := some "N", help := some { markdown := some "", text := some "h" } },
    { id := some "r", shortDescription := some { text := some "s" } }] } }

-- The help comes from the first rule, the description from the second.
example : (ofRun repeatedRun).help? "r" = some "h" ∧
    (ofRun repeatedRun).description? "r" = some "r\n\ns" := by
  decide

end RuleTable

end SarifDigest.Sarif
