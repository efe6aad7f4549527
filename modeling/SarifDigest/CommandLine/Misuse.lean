import SarifDigest.CommandLine.HelpText

/-!
# Misuses

What can be wrong with a command line, and what is said then: the misuse, perhaps a hint, how
the command is called, and where to find more.
-/
namespace SarifDigest

/-- Ways to have an unexpected argument accepted. -/
inductive Hint
  | asOperand
  | withoutSeparator
deriving DecidableEq

/-- What is wrong with a command line. Some misuses keep what was mentioned up to them. -/
inductive Misuse
  | unexpected (text : String) (hint : Option Hint) (mentions : List Mention)
  | unknownCommand (word : String)
  | noCommand
  | nothingGiven
  | missingValue (option : ValueOption)
  | repeated (option : ValueOption)
  | conflict (flag other : Flag) (mentions : List Mention)
  | surplusValue (flag : Flag) (value : String) (mentions : List Mention)
deriving DecidableEq

/-- A misuse of a command. -/
structure UsageFault where
  command : Command
  misuse : Misuse
deriving DecidableEq

namespace Misuse

/-- The wording of each misuse. -/
def message : Misuse → String
  | unexpected text .. => "unexpected argument '" ++ text ++ "' found"
  | unknownCommand word => "unrecognized subcommand '" ++ word ++ "'"
  | noCommand =>
    "'" ++ programName ++ "' requires a subcommand but one was not provided\n  [subcommands: " ++
      ", ".intercalate (Command.all.map Command.word) ++ "]"
  | nothingGiven => ""
  | missingValue option =>
    "a value is required for '" ++ option.shown ++ "' but none was supplied"
  | repeated option => "the argument '" ++ option.shown ++ "' cannot be used multiple times"
  | conflict flag other _ =>
    "the argument '" ++ flag.shown ++ "' cannot be used with '" ++ other.shown ++ "'"
  | surplusValue flag value _ =>
    "unexpected value '" ++ value ++ "' for '" ++ flag.shown ++
      "' found; no more were expected"

/-- The hint that goes with a misuse. -/
def hint? : Misuse → Option String
  | unexpected text (some .asOperand) _ =>
    some ("to pass '" ++ text ++ "' as a value, use '-- " ++ text ++ "'")
  | unexpected text (some .withoutSeparator) _ =>
    some ("subcommand '" ++ text ++ "' exists; to use it, remove the '--' before it")
  | _ => none

/-- What had been mentioned, or nothing if that does not matter for the usage line. A missing
value is not a matter of usage. -/
def mentions? : Misuse → Option (List Mention)
  | unexpected _ _ mentions | conflict _ _ mentions | surplusValue _ _ mentions => some mentions
  | unknownCommand _ | noCommand | nothingGiven | repeated _ => some []
  | missingValue _ => none

end Misuse

namespace UsageFault

/-- The last line about a fault, empty for a command that has no help flag. -/
def pointer (fault : UsageFault) : String :=
  if (fault.command.named? Flag.help.name).isSome then
    "\nFor more information, try '--" ++ Flag.help.name ++ "'.\n"
  else ""

/-- What is said about a fault. A program that is given nothing describes itself. -/
def text (fault : UsageFault) : String :=
  match fault.misuse with
  | .nothingGiven => fault.command.helpText false
  | misuse =>
    "error: " ++ misuse.message ++ "\n" ++
      (misuse.hint?.map fun hint => "\n  tip: " ++ hint ++ "\n").getD "" ++
      (misuse.mentions?.map fun mentions =>
        "\n" ++ fault.command.usage mentions ++ "\n").getD "" ++
      fault.pointer

end UsageFault

end SarifDigest
