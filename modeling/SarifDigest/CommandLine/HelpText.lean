import SarifDigest.CommandLine.Usage

/-!
# Help texts

The description of a command, short or detailed. A short description has one line for each
argument, with the purposes below each other. A detailed one has the purpose of an argument on
a line of its own and an empty line between arguments.
-/
namespace SarifDigest

/-- An entry of a help text: what is described, and its purpose. -/
structure HelpEntry where
  head : String
  purpose : String

namespace HelpEntry

/-- The lines of entries with their purposes below each other. -/
def aligned (entries : List HelpEntry) : List String :=
  let width := (entries.map fun entry => entry.head.length).foldl max 0
  entries.map fun entry =>
    "  " ++ entry.head ++ "".pushn ' ' (width - entry.head.length) ++ "  " ++ entry.purpose

/-- The lines of entries with each purpose on a line of its own. -/
def spread (entries : List HelpEntry) : List String :=
  List.intercalate [""] (entries.map fun entry =>
    ["  " ++ entry.head, "".pushn ' ' 10 ++ entry.purpose])

end HelpEntry

/-- The entry of a command. -/
def Command.entry (command : Command) : HelpEntry :=
  ⟨command.word, command.summary⟩

/-- The entry of an option or a flag. -/
def Argument.entry? (detailed : Bool) : Argument → Option HelpEntry
  | .operands => none
  | .option given => some ⟨"    " ++ given.shown, given.summary⟩
  | .flag given =>
    some ⟨"-" ++ given.letter.toString ++ ", " ++ given.shown, given.summary detailed⟩

/-- A section of a help text, left out when it is empty. -/
def helpSection (title : String) (lines : List String) : List String :=
  if lines.isEmpty then [] else ["", title ++ ":"] ++ lines

/-- The lines of the help text of a command. -/
def Command.helpLines (command : Command) (detailed : Bool) : List String :=
  let detailed := detailed && command.hasDetails
  let arrange := if detailed then HelpEntry.spread else HelpEntry.aligned
  let operands := command.operands?.toList.flatMap fun (_, purpose) =>
    (command.shownOperands false).map fun head => HelpEntry.mk head purpose
  [if detailed then command.description else command.summary, "", command.usage []] ++
    helpSection "Commands"
      (if command.takesCommand then HelpEntry.aligned (all.map Command.entry) else []) ++
    helpSection "Arguments" (arrange operands) ++
    helpSection "Options" (arrange (command.options.filterMap (Argument.entry? detailed))) ++
    helpSection "Examples" (command.examples.map ("  " ++ ·))

/-- The help text of a command. -/
def Command.helpText (command : Command) (detailed : Bool) : String :=
  String.join ((command.helpLines detailed).map (· ++ "\n"))

end SarifDigest
