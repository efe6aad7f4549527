import SarifDigest.Settings.Effective

/-!
# Commands

The commands of the program and the arguments that each of them takes: operands, options with
one value, and flags. All texts that describe them stand here.
-/
namespace SarifDigest

/-- The name of the program. -/
def programName : String := "sarif-violations"

/-- The version of the program. -/
def programVersion : String := "0.1.0"

/-- The program itself and the commands below it. -/
inductive Command
  | top
  | version
  | parse
  | help
deriving DecidableEq

/-- The options that have a value. -/
inductive ValueOption
  | root
  | output
  | reporter
  | failOn
deriving DecidableEq

/-- The options that have none. -/
inductive Flag
  | verbose
  | quiet
  | help
  | version
deriving DecidableEq

/-- The arguments of a command. -/
inductive Argument
  | operands
  | option (option : ValueOption)
  | flag (flag : Flag)
deriving DecidableEq

namespace ValueOption

/-- The name of an option. -/
def name : ValueOption → String
  | root => "repo-root"
  | output => "output"
  | reporter => "reporter"
  | failOn => "fail-on"

/-- The name of the value of an option. -/
def valueName : ValueOption → String
  | root => "REPO_ROOT"
  | output => "OUTPUT"
  | reporter => "REPORTER"
  | failOn => "FAIL_ON"

/-- What an option is for. -/
def summary : ValueOption → String
  | root => "Repository root (default: current dir)"
  | output => "Output mode: human|json (default: human)"
  | reporter => "Reporter for runs without a tool name (default: Sarif)"
  | failOn => "Fail threshold: error|warn|info|never (default: error)"

/-- An option with its value, as it is shown. -/
def shown (option : ValueOption) : String :=
  "--" ++ option.name ++ " <" ++ option.valueName ++ ">"

/-- Give an option its value. -/
def set (option : ValueOption) (value : String) (overrides : Overrides) : Overrides :=
  match option with
  | root => { overrides with root := value }
  | output => { overrides with output := value }
  | reporter => { overrides with reporter := value }
  | failOn => { overrides with failOn := value }

end ValueOption

namespace Flag

/-- The name of a flag. -/
def name : Flag → String
  | verbose => "verbose"
  | quiet => "quiet"
  | help => "help"
  | version => "version"

/-- The letter of a flag. -/
def letter : Flag → Char
  | verbose => 'v'
  | quiet => 'q'
  | help => 'h'
  | version => 'V'

/-- Whether a flag counts how often it is given. -/
def counts : Flag → Bool
  | verbose | quiet => true
  | help | version => false

/-- What a flag is for, in a detailed description or in a short one. -/
def summary (detailed : Bool) : Flag → String
  | verbose => "Increase logging verbosity"
  | quiet => "Decrease logging verbosity"
  | help =>
    if detailed then "Print help (see a summary with '-h')"
    else "Print help (see more with '--help')"
  | version => "Print version"

/-- A flag, as it is shown. -/
def shown (flag : Flag) : String :=
  "--" ++ flag.name ++ if flag.counts then "..." else ""

end Flag

namespace Command

/-- The commands below the program. -/
def all : List Command := [version, parse, help]

/-- The word of a command. -/
def word : Command → String
  | top => programName
  | version => "version"
  | parse => "parse"
  | help => "help"

/-- The command of a word. -/
def ofWord? (word : String) : Option Command :=
  all.find? fun command => command.word = word

/-- The words that lead to a command. -/
def path : Command → String
  | top => programName
  | command => programName ++ " " ++ command.word

/-- Whether a command of its own follows. -/
def takesCommand (command : Command) : Bool :=
  command = top

/-- The name and the purpose of the operands of a command. -/
def operands? : Command → Option (String × String)
  | parse => some ("INPUTS", "Glob patterns of reports (default: from config or **/*.sarif)")
  | help => some ("COMMAND", "Print help for the subcommand(s)")
  | top | version => none

/-- The options and flags of a command, in the order in which they are described. -/
def options : Command → List Argument
  | top => [.flag .verbose, .flag .quiet, .flag .help, .flag .version]
  | version => [.flag .verbose, .flag .quiet, .flag .help]
  | parse => [.option .root, .option .output, .option .reporter, .flag .verbose,
      .option .failOn, .flag .quiet, .flag .help]
  | help => []

/-- The arguments of a command that a usage line sums up when one of them is given. -/
def group : Command → List Argument
  | top => [.flag .verbose, .flag .quiet]
  | parse => [.operands, .option .root, .option .output, .option .reporter, .option .failOn]
  | version | help => []

/-- What a command is for. -/
def summary : Command → String
  | top => "Turn SARIF reports into a de-duplicated violation list"
  | version => "Show version"
  | parse => "Parse SARIF reports into violations"
  | help => "Print this message or the help of the given subcommand(s)"

/-- What a command does. -/
def description : Command → String
  | top => "sarif-violations reads SARIF 2.1.0 reports, projects every result onto its " ++
      "locations and prints one de-duplicated, ordered list of violations.\n\n" ++
      "Configuration precedence: CLI > sarif-violations.toml > defaults."
  | version => "Print the current sarif-violations version."
  | parse => "Expand the given glob patterns (relative to the repository root), parse every " ++
      "matched report and print the merged violations."
  | help => help.summary

/-- Uses of a command. -/
def examples : Command → List String
  | top => [
      "sarif-violations parse reports/*.sarif",
      "sarif-violations parse --output json --fail-on warn",
      "sarif-violations parse 'target/**/*.sarif' --reporter clippy"]
  | parse => [
      "sarif-violations parse build/*.sarif",
      "sarif-violations parse --output json"]
  | version | help => []

/-- Whether the detailed description of a command differs from the short one. -/
def hasDetails (command : Command) : Bool :=
  command ≠ help

/-- The option or flag of a name. -/
def named? (command : Command) (name : String) : Option Argument :=
  command.options.find? fun
    | .option option => option.name = name
    | .flag flag => flag.name = name
    | .operands => false

/-- The flag of a letter. -/
def lettered? (command : Command) (letter : Char) : Option Flag :=
  command.options.findSome? fun
    | .flag flag => if flag.letter = letter then some flag else none
    | _ => none

end Command

end SarifDigest
