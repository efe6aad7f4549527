import SarifDigest.Collection.Events
import SarifDigest.Diagnostics.Filter
import SarifDigest.Listing.Document
import SarifDigest.Program.Outcome
import SarifDigest.Settings.Effective

/-!
# Digesting

The run that reads reports and prints their digest. It is unusable when there are no settings
or no inputs at all, it has failed when some input failed or a violation reaches the threshold,
and it has passed otherwise.
-/
namespace SarifDigest

/-- A digest as text in a mode. -/
def Digest.print (digest : Digest) (mode : OutputMode) (colours : Bool) : String :=
  match mode with
  | .json => digest.document.render .indented ++ "\n"
  | .human => String.join (digest.lines.map fun line => line.render colours ++ "\n")

/-- Whether there was no input at all. -/
def Digest.isVoid (digest : Digest) : Bool :=
  digest.summary.files = 0 && digest.failures.isEmpty

/-- The verdict about a digest. -/
def Digest.verdict (digest : Digest) (threshold : Threshold) : ExitStatus :=
  if digest.isVoid then .unusable
  else if !digest.failures.isEmpty || threshold.isReached digest.summary then .failed
  else .passed

/-- What is said when the settings were found without a configuration. -/
def configRemarks (environment : Environment) (settings : Settings) : List Remark :=
  if !settings.configFound && settings.output = .human then
    [.note environment "No sarif-violations.toml found; using defaults."]
  else []

/-- What is said when there was no input at all. -/
def voidMessage (settings : Settings) : String :=
  "No SARIF reports matched [" ++ ", ".intercalate settings.inputs ++ "] under " ++
    settings.root.text

/-- The digest that settings lead to. -/
def Settings.digest (settings : Settings) (tree : FileTree) : Digest :=
  collect tree settings.root settings.inputs settings.reporter

/-- The records of a digest that settings lead to. -/
def Settings.records (settings : Settings) (tree : FileTree) : List Record :=
  collectionRecords (collectReadings tree settings.root settings.inputs settings.reporter)

/-- The run with settings. -/
def Settings.run (settings : Settings) (tree : FileTree) (environment : Environment)
    (filter : Filter) : Outcome :=
  let digest := settings.digest tree
  let remarks := configRemarks environment settings ++
    ((settings.records tree).filter filter.shows).map Remark.record
  if digest.isVoid then
    { status := .unusable
      remarks := remarks ++ [.error environment (voidMessage settings)] }
  else
    { status := digest.verdict settings.threshold
      output := digest.print settings.output environment.colours
      remarks }

/-- The run with what a command line gives. -/
def Overrides.run (overrides : Overrides) (tree : FileTree) (environment : Environment)
    (filter : Filter) : Outcome :=
  match overrides.resolve tree with
  | .error fault => { status := .unusable, remarks := [.error environment fault.message] }
  | .ok settings => settings.run tree environment filter

end SarifDigest
