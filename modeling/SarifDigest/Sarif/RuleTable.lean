import SarifDigest.Violation.Wording

/-!
# Rule tables

The help and the description of each rule of a run, by the rule's identifier. Rules without an
identifier are left out. Of several rules with one identifier the last counts, for the help
the last that has any.
-/
namespace SarifDigest.Sarif

/-- The help that a rule gives: the first that is not empty among its help and its full
description, Markdown before plain text, and its name. -/
def ReportingDescriptor.helpText (rule : ReportingDescriptor) : Option String :=
  [rule.help.bind (·.markdown), rule.help.bind (·.text),
    rule.fullDescription.bind (·.markdown), rule.fullDescription.bind (·.text),
    rule.name].findSome? nonEmpty

/-- The first text of a message that is not empty, Markdown before plain text. -/
def Message.preferred (message : Message) : Option String :=
  (nonEmpty message.markdown).or (nonEmpty message.text)

/-- A rule described: its identifier, its name behind a colon, and its short description as a
further part. -/
def ReportingDescriptor.description (id : String) (rule : ReportingDescriptor) : String :=
  let name := match nonEmpty rule.name with
    | some name => ": " ++ name
    | none => ""
  id ++ name ++ furtherPart (rule.shortDescription.bind Message.preferred)

/-- Texts by rule identifier; the pairs that were put in last come first. -/
structure RuleTable where
  helps : List (String × String) := []
  descriptions : List (String × String) := []

namespace RuleTable

/-- Put in what a rule says. -/
def add (table : RuleTable) (rule : ReportingDescriptor) : RuleTable :=
  match nonEmpty rule.id with
  | none => table
  | some id =>
    { helps := match rule.helpText with
        | some help => (id, help) :: table.helps
        | none => table.helps
      descriptions := (id, rule.description id) :: table.descriptions }

/-- The table of the rules of a run. -/
def ofRun (run : Run) : RuleTable :=
  run.ruleList.foldl add {}

/-- The help for an identifier. -/
def help? (table : RuleTable) (id : String) : Option String :=
  table.helps.lookup id

/-- The description for an identifier. -/
def description? (table : RuleTable) (id : String) : Option String :=
  table.descriptions.lookup id

end RuleTable

end SarifDigest.Sarif
