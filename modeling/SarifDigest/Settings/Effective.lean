import SarifDigest.Projection.Report
import SarifDigest.Settings.Discovery

/-!
# Effective settings

Each setting comes from the command line if it is given there, or else from the configuration,
or else it is the standard one. Inputs count as given when there are any. What is overridden
does not matter, not even if it is wrong.
-/
namespace SarifDigest

/-- The settings that a command line gives. -/
structure Overrides where
  root : Option String := none
  inputs : List String := []
  output : Option String := none
  reporter : Option String := none
  failOn : Option String := none
deriving DecidableEq

/-- The settings of a run. -/
structure Settings where
  root : Path
  configFound : Bool
  inputs : List String
  output : OutputMode
  reporter : String
  threshold : Threshold
deriving DecidableEq

/-- The patterns of a run that no others are given for. -/
def standardInputs : List String := ["**/*.sarif"]

/-- The inputs of a run. -/
def chooseInputs (given : List String) (configured : Option (List String)) : List String :=
  if !given.isEmpty then given
  else
    match configured with
    | none => standardInputs
    | some [] => standardInputs
    | some inputs => inputs

/-- The reporter of a run; a blank one is none. -/
def chooseReporter (given configured : Option String) : String :=
  ((given.or configured).filter fun name => !Text.isBlankText name).getD standardReporter

/-- The mode or threshold of a run, given how to read its word. -/
def chooseWord {α : Type} (read : String → Except UnknownWord α) (standard : α)
    (given configured : Option String) : Except SettingsFault α :=
  match given.or configured with
  | none => .ok standard
  | some word => (read word).mapError .unknownWord

/-- The settings of a run with a root and its configuration. -/
def Overrides.settle (overrides : Overrides) (root : Path) (loaded : Option Config) :
    Except SettingsFault Settings := do
  let config := loaded.getD {}
  let output ← chooseWord OutputMode.ofText .human overrides.output config.output
  let threshold ← chooseWord Threshold.ofText .error overrides.failOn config.failOn
  return {
    root
    configFound := loaded.isSome
    inputs := chooseInputs overrides.inputs config.inputs
    output
    reporter := chooseReporter overrides.reporter config.reporter
    threshold }

/-- The settings of a run in a file tree. -/
def Overrides.resolve (overrides : Overrides) (tree : FileTree) :
    Except SettingsFault Settings := do
  let root := detectRoot tree (.ofText (overrides.root.getD "."))
  let loaded ← loadConfig tree root
  overrides.settle root loaded

end SarifDigest
