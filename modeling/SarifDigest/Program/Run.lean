import SarifDigest.CommandLine.Invocation
import SarifDigest.Program.Digesting

/-!
# Runs of the program

What the program does with a command line. How much is said about the work is decided by the
flags of the command line, or else by the filter of the environment if it can be read, or else
warnings are said.
-/
namespace SarifDigest

/-- The filter of a run. -/
def chooseFilter (environment : Environment) (verbosity : Verbosity) : Filter :=
  let standard := Filter.upTo verbosity.level
  if verbosity.isGiven then standard
  else (environment.filter.bind Filter.ofText?).getD standard

/-- Do what was asked for. -/
def Invocation.run (invocation : Invocation) (tree : FileTree) (environment : Environment) :
    Outcome :=
  match invocation.task with
  | .showVersion => { status := .passed, output := programVersion ++ "\n" }
  | .digest overrides =>
    overrides.run tree environment (chooseFilter environment invocation.verbosity)

/-- What is left behind when reading a command line stops. -/
def Interruption.outcome : Interruption → Outcome
  | help command detailed => { status := .passed, output := command.helpText detailed }
  | version => { status := .passed, output := programName ++ " " ++ programVersion ++ "\n" }
  | fault found => { status := .unusable, remarks := [.text found.text] }

/-- Run the program on a command line. -/
def runProgram (tree : FileTree) (environment : Environment) (words : List String) : Outcome :=
  match Invocation.ofWords words with
  | .ok invocation => invocation.run tree environment
  | .error interruption => interruption.outcome

end SarifDigest
