import SarifDigest.CommandLine.Command

/-!
# Usage lines

How a command is called: in general, or with what has been given to it so far.
-/
namespace SarifDigest

/-- What a command line has mentioned: an argument, or the group of its command. -/
inductive Mention
  | argument (argument : Argument)
  | group
deriving DecidableEq

namespace Command

/-- The operands of a command, as they are shown. -/
def shownOperands (command : Command) (given : Bool) : List String :=
  match command.operands? with
  | none => []
  | some (name, _) => [if given then "<" ++ name ++ ">..." else "[" ++ name ++ "]..."]

/-- An argument of a command among the members of a group. -/
def member (command : Command) : Argument → String
  | .operands => (command.operands?.map Prod.fst).getD ""
  | .option option => option.shown
  | .flag flag => flag.shown

/-- The group of a command, as it is shown. -/
def shownGroup (command : Command) : String :=
  "<" ++ "|".intercalate (command.group.map command.member) ++ ">"

/-- The command that has to follow, as it is shown. -/
def shownCommand (command : Command) : List String :=
  if command.takesCommand then ["<COMMAND>"] else []

/-- How a command is called in general. -/
def generalUsage (command : Command) : String :=
  " ".intercalate ([command.path] ++ (if command.options.isEmpty then [] else ["[OPTIONS]"]) ++
    command.shownOperands false ++ command.shownCommand)

/-- How a command is called with what has been mentioned. The members of a group that is
mentioned are left to it. -/
def usageWith (command : Command) (mentions : List Mention) : String :=
  let grouped := mentions.contains .group
  let covered (argument : Argument) : Bool := grouped && command.group.contains argument
  let options := mentions.filterMap fun
    | .argument .operands | .group => none
    | .argument argument => if covered argument then none else some (command.member argument)
  let operands :=
    if covered .operands then []
    else command.shownOperands (mentions.contains (.argument .operands))
  " ".intercalate ([command.path] ++ options.eraseDups ++
    (if grouped then [command.shownGroup] else []) ++ operands ++ command.shownCommand)

/-- How a command is called: with what has been mentioned, or in general if nothing has. -/
def usage (command : Command) (mentions : List Mention) : String :=
  "Usage: " ++ if mentions.isEmpty then command.generalUsage else command.usageWith mentions

end Command

end SarifDigest
