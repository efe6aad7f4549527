import SarifDigest.Files.Tree
import SarifDigest.Settings.Config
import SarifDigest.Settings.Words

/-!
# Finding a configuration

The root is the nearest folder, from the start upwards along the spelling of its path, that has
a configuration or is the root of a repository. The configuration is read from the first of
three files that is there; the others do not matter then.
-/
namespace SarifDigest

/-- The formats of configurations. -/
inductive ConfigFormat
  | toml
  | yaml
deriving DecidableEq

/-- The name of a format. -/
def ConfigFormat.name : ConfigFormat → String
  | toml => "TOML"
  | yaml => "YAML"

/-- The configuration of a document in a format. -/
def ConfigFormat.read? : ConfigFormat → String → Option Config
  | toml => Config.ofToml?
  | yaml => Config.ofYaml?

/-- The names of configuration files, the first of which that is there counts. -/
def configFiles : List (String × ConfigFormat) := [
  ("sarif-violations.toml", .toml),
  ("sarif-violations.yaml", .yaml),
  ("sarif-violations.yml", .yaml)]

/-- The entry that the root of a repository has. -/
def repositoryEntry : String := ".git"

/-- Why there are no settings. -/
inductive SettingsFault
  | unreadable (path : Path) (reason : FileError)
  | malformed (path : Path) (format : ConfigFormat)
  | unknownWord (unknown : UnknownWord)
deriving DecidableEq

/-- The wording of each fault. -/
def SettingsFault.message : SettingsFault → String
  | unreadable path reason => "failed to read " ++ path.text ++ ": " ++ reason.message
  | malformed path format =>
    path.text ++ " is not valid " ++ format.name ++ ": malformed document or setting"
  | unknownWord unknown => unknown.message

/-- Whether a folder has a configuration. -/
def hasConfig (tree : FileTree) (folder : Path) : Bool :=
  configFiles.any fun (name, _) => tree.holds (folder.child name)

/-- Whether the way up ends at a folder. -/
def isMarked (tree : FileTree) (folder : Path) : Bool :=
  hasConfig tree folder || tree.holds (folder.child repositoryEntry)

/-- The root for a start, which is the start itself if no folder is marked. -/
def detectRoot (tree : FileTree) (start : Path) : Path :=
  (start.ancestors.find? (isMarked tree)).getD start

/-- The configuration in a file. -/
def readConfig (tree : FileTree) (path : Path) (format : ConfigFormat) :
    Except SettingsFault Config :=
  match tree.read path with
  | .error reason => .error (.unreadable path reason)
  | .ok document =>
    match format.read? document with
    | some config => .ok config
    | none => .error (.malformed path format)

/-- The configuration of a root, if there is one. -/
def loadConfig (tree : FileTree) (root : Path) : Except SettingsFault (Option Config) :=
  match configFiles.find? fun (name, _) => tree.holds (root.child name) with
  | none => .ok none
  | some (name, format) => (readConfig tree (root.child name) format).map some

end SarifDigest
