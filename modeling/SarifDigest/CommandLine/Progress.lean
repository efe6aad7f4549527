import SarifDigest.CommandLine.Misuse
import SarifDigest.CommandLine.Word
import SarifDigest.Diagnostics.Record

/-!
# Progress through a command line

What has been read of a command, word by word. The value of an option and operands that follow
each other are pending until the next argument; only then do they count as mentioned. Reading
stops where help or the version is asked for, and at the first fault.
-/
namespace SarifDigest

/-- How often more and less was asked for. -/
structure Verbosity where
  verbose : Nat := 0
  quiet : Nat := 0
deriving DecidableEq

namespace Verbosity

/-- Whether anything was asked for. -/
def isGiven (verbosity : Verbosity) : Bool :=
  verbosity.verbose ≠ 0 || verbosity.quiet ≠ 0

/-- The level that is meant: warnings, and a level more or less each time. -/
def level (verbosity : Verbosity) : LogLevel :=
  .ofRank (LogLevel.warn.rank + verbosity.verbose - verbosity.quiet)

/-- The last number that is counted to. -/
def limit : Nat := 255

/-- Count a flag. -/
def count (verbosity : Verbosity) : Flag → Verbosity
  | .verbose => { verbosity with verbose := min limit (verbosity.verbose + 1) }
  | .quiet => { verbosity with quiet := min limit (verbosity.quiet + 1) }
  | .help | .version => verbosity

/-- The counts of a command, with those of the program where it has none. -/
def within (inner outer : Verbosity) : Verbosity where
  verbose := if inner.verbose = 0 then outer.verbose else inner.verbose
  quiet := if inner.quiet = 0 then outer.quiet else inner.quiet

end Verbosity

/-- Why reading stops. -/
inductive Interruption
  | help (command : Command) (detailed : Bool)
  | version
  | fault (fault : UsageFault)
deriving DecidableEq

/-- An argument that more words may belong to. -/
inductive Pending
  | option (option : ValueOption) (value : Option String)
  | operands (values : List String)
deriving DecidableEq

/-- What has been read of a command. -/
structure Progress where
  mentions : List Mention := []
  overrides : Overrides := {}
  verbosity : Verbosity := {}
  pending : Option Pending := none
  literal : Bool := false

namespace Progress

/-- Stop at a misuse of a command. -/
def refuse {α : Type} (command : Command) (misuse : Misuse) : Except Interruption α :=
  .error (.fault ⟨command, misuse⟩)

/-- Add a mention, unless there is one already. -/
def note (progress : Progress) (mention : Mention) : Progress :=
  if progress.mentions.contains mention then progress
  else { progress with mentions := progress.mentions ++ [mention] }

/-- Mention an argument, and its group behind it. -/
def mention (progress : Progress) (command : Command) (argument : Argument) : Progress :=
  let noted := progress.note (.argument argument)
  if command.group.contains argument then noted.note .group else noted

/-- Give an option its value, which happens once. -/
def assign (progress : Progress) (command : Command) (option : ValueOption) (value : String) :
    Except Interruption Progress :=
  if progress.mentions.contains (.argument (.option option)) then
    refuse command (.repeated option)
  else
    let assigned := { progress with overrides := option.set value progress.overrides }
    .ok (assigned.mention command (.option option))

/-- Count a flag, which makes it the last that was mentioned. -/
def count (progress : Progress) (command : Command) (flag : Flag) : Progress :=
  let counted := { progress with
    mentions := progress.mentions.erase (.argument (.flag flag))
    verbosity := progress.verbosity.count flag }
  counted.mention command (.flag flag)

/-- Finish the argument that is pending. -/
def settle (progress : Progress) (command : Command) : Except Interruption Progress :=
  let rest := { progress with pending := none }
  match progress.pending with
  | none => .ok progress
  | some (.option option none) => refuse command (.missingValue option)
  | some (.option option (some value)) => rest.assign command option value
  | some (.operands values) =>
    let taken := { rest with
      overrides := { rest.overrides with inputs := rest.overrides.inputs ++ values } }
    .ok (taken.mention command .operands)

/-- What has been mentioned when a fault is found: what is pending as well, if it is in order. -/
def mentionsAtFault (progress : Progress) (command : Command) : List Mention :=
  ((progress.settle command).toOption.getD progress).mentions

/-- The misuse of an operand where there are none. -/
def strayOperand (progress : Progress) (command : Command) (text : String) : Misuse :=
  if !command.takesCommand then .unexpected text none []
  else if progress.literal && (Command.ofWord? text).isSome then
    .unexpected text (some .withoutSeparator) []
  else .unknownCommand text

/-- Take an operand. -/
def operand (progress : Progress) (command : Command) (text : String) :
    Except Interruption Progress :=
  if command.operands?.isNone then refuse command (progress.strayOperand command text)
  else
    match progress.pending with
    | some (.operands values) =>
      .ok { progress with pending := some (.operands (values ++ [text])) }
    | _ =>
      (progress.settle command).map fun settled =>
        { settled with pending := some (.operands [text]) }

/-- Take a plain word: the value of an option that waits for one, or an operand. -/
def plain (progress : Progress) (command : Command) (text : String) :
    Except Interruption Progress :=
  match progress.pending with
  | some (.option option none) =>
    .ok { progress with pending := some (.option option (some text)) }
  | _ => progress.operand command text

/-- Take a flag, given by its name or by its letter. -/
def flag (progress : Progress) (command : Command) (flag : Flag) (byName : Bool) :
    Except Interruption Progress := do
  let settled ← progress.settle command
  match flag with
  | .verbose | .quiet => return settled.count command flag
  | .help => throw (.help command byName)
  | .version => throw .version

/-- The misuse of a name or letter that a command does not have. -/
def unexpected (command : Command) (text : String) (mentions : List Mention) : Misuse :=
  .unexpected text (command.operands?.map fun _ => .asOperand) mentions

/-- Take letters, each of which is a flag. -/
def letters (progress : Progress) (command : Command) :
    List Char → Except Interruption Progress
  | [] => .ok progress
  | letter :: rest =>
    match command.lettered? letter with
    | none => refuse command (unexpected command (.ofList ['-', letter]) [])
    | some flag => do
      let next ← progress.flag command flag false
      next.letters command rest

/-- Take a name, perhaps with a value. -/
def named (progress : Progress) (command : Command) (name : String) (value : Option String) :
    Except Interruption Progress :=
  match command.named? name, value with
  | some (.option option), none =>
    (progress.settle command).map fun settled =>
      { settled with pending := some (.option option none) }
  | some (.option option), some value => do
    let settled ← progress.settle command
    settled.assign command option value
  | some (.flag flag), none => progress.flag command flag true
  | some (.flag flag), some value =>
    let mentions := progress.mentions ++ [.argument (.flag flag)]
    refuse command (.surplusValue flag value mentions)
  | _, _ => refuse command (unexpected command ("--" ++ name) (progress.mentionsAtFault command))

/-- Take a word. -/
def take (command : Command) (progress : Progress) (word : String) :
    Except Interruption Progress :=
  if progress.literal then progress.operand command word
  else
    match Word.ofText word with
    | .separator => .ok { progress with literal := true }
    | .named name value => progress.named command name value
    | .letters letters => progress.letters command letters
    | .plain text => progress.plain command text

/-- The flags that were mentioned, in order. -/
def flags (progress : Progress) : List Flag :=
  progress.mentions.filterMap fun
    | .argument (.flag flag) => some flag
    | _ => none

/-- Refuse flags that cannot be used together. -/
def check (progress : Progress) (command : Command) : Except Interruption Progress :=
  match progress.flags with
  | flag :: other :: _ =>
    let mentions := progress.mentions.filter fun mention =>
      mention ≠ .group && mention ≠ .argument (.flag other)
    refuse command (.conflict flag other mentions)
  | _ => .ok progress

/-- Come to the end of the words. -/
def finish (progress : Progress) (command : Command) : Except Interruption Progress := do
  let settled ← progress.settle command
  settled.check command

end Progress

end SarifDigest
