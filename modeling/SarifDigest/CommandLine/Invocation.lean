import SarifDigest.CommandLine.Progress

/-!
# Invocations

What a command line asks for. The words up to that of a command are for the program, those
behind it are for the command and are read first. The word `help` is followed by the words of
the command that help is wanted for.
-/
namespace SarifDigest

/-- What there is to do. -/
inductive Task
  | showVersion
  | digest (overrides : Overrides)
deriving DecidableEq

/-- A task, and how much is said about it. -/
structure Invocation where
  task : Task
  verbosity : Verbosity
deriving DecidableEq

/-- The help that words ask for at a command. -/
def helpFor (command : Command) : List String → Interruption
  | [] => .help command true
  | word :: rest =>
    match if command.takesCommand then Command.ofWord? word else none with
    | some next => helpFor next rest
    | none => .fault ⟨command, .unknownCommand word⟩

/-- Read the words of the program up to that of a command. -/
def readToCommand (progress : Progress) :
    List String → Except Interruption (Progress × Option (Command × List String))
  | [] => .ok (progress, none)
  | word :: rest =>
    match if progress.literal then none else Command.ofWord? word with
    | some .help => .error (helpFor .top rest)
    | some command => .ok (progress, some (command, rest))
    | none => do readToCommand (← Progress.take .top progress word) rest

/-- Read the words of a command. -/
def readCommand (command : Command) (words : List String) : Except Interruption Progress := do
  let progress ← words.foldlM (Progress.take command) {}
  progress.finish command

/-- The task of a command that has been read. -/
def taskOf (command : Command) (progress : Progress) : Task :=
  match command with
  | .parse => .digest progress.overrides
  | _ => .showVersion

/-- The misuse of a program that is given no command. -/
def commandless (progress : Progress) : Misuse :=
  if progress.mentions.isEmpty then .nothingGiven else .noCommand

/-- Read the words of a command line, without the name of the program. -/
def Invocation.ofWords (words : List String) : Except Interruption Invocation := do
  let (outer, found) ← readToCommand {} words
  match found with
  | none => Progress.refuse .top (commandless outer)
  | some (command, rest) =>
    let inner ← readCommand command rest
    let outer ← outer.finish .top
    return ⟨taskOf command inner, inner.verbosity.within outer.verbosity⟩

end SarifDigest
