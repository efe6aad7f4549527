import SarifDigest.Toml.Document
import SarifDigest.Yaml.Node

/-!
# Configurations

The settings that a document of either format gives. Settings that are left out are not given,
and what is no setting does not matter, but the document has to be sound as a whole. In TOML a
setting has to be a text, or an array of texts; in YAML every scalar is taken as a text, and a
plain null or nothing at all is a setting left out.
-/
namespace SarifDigest

/-- The settings of a configuration as they are written. -/
structure Config where
  inputs : Option (List String) := none
  output : Option String := none
  reporter : Option String := none
  failOn : Option String := none
deriving DecidableEq

namespace Config

section Toml

open Toml (Members Value)

/-- The text that a value is. -/
def textOfToml? : Value → Option String
  | .text text => some text
  | _ => none

/-- The texts that the items of an array are. -/
def textsOfToml? : Value → Option (List String)
  | .array _ items => items.mapM textOfToml?
  | _ => none

/-- A setting that may be left out. -/
def settingOfToml? {α : Type} (read : Value → Option α) (members : Members) (key : String) :
    Option (Option α) :=
  match members.lookup key with
  | some value => (read value).map some
  | none => some none

/-- The configuration of a TOML document. -/
def ofToml? (document : String) : Option Config := do
  let members ← Toml.read? document
  some {
    inputs := ← settingOfToml? textsOfToml? members "inputs"
    output := ← settingOfToml? textOfToml? members "output"
    reporter := ← settingOfToml? textOfToml? members "reporter"
    failOn := ← settingOfToml? textOfToml? members "fail_on" }

end Toml

section Yaml

/-- The tag of nothing. -/
def nullTag : String := "tag:yaml.org,2002:null"

/-- The words for nothing. -/
def isNullWord (text : String) : Bool :=
  ["null", "Null", "NULL", "~"].contains text

/-- The node that an alias refers to; any other node is itself. -/
def resolve (document : Yaml.Document) (node : Yaml.Node) : Option Yaml.Node :=
  match node with
  | .alias slot => document.shared.nodeOf? slot
  | node => some node

/-- Whether a node gives a setting; a plain scalar may stand for leaving it out. A tag says
whether it does, and what it says has to be true. -/
def isGiven? : Yaml.Node → Option Bool
  | .scalar tag true text =>
    match tag with
    | none => some (!text.isEmpty && !isNullWord text)
    | some tag =>
      if tag ≠ nullTag then some true
      else if isNullWord text then some false
      else none
  | _ => some true

/-- The text that a node is. -/
def textOfYaml? (document : Yaml.Document) (node : Yaml.Node) : Option String := do
  match ← resolve document node with
  | .scalar _ _ text => some text
  | _ => none

/-- The texts that the items of a node are; an empty plain scalar has none. -/
def textsOfYaml? (document : Yaml.Document) (node : Yaml.Node) : Option (List String) := do
  match ← resolve document node with
  | .sequence items => items.mapM (textOfYaml? document)
  | .scalar _ true "" => some []
  | _ => none

/-- A setting that may be left out. -/
def settingOfYaml? {α : Type} (document : Yaml.Document)
    (read : Yaml.Document → Yaml.Node → Option α) (node : Yaml.Node) : Option (Option α) := do
  let node ← resolve document node
  if ← isGiven? node then (read document node).map some else some none

/-- Take one member of a mapping into a configuration. A setting may be there once. The keys
read before are given. -/
def addYaml (document : Yaml.Document) (sofar : Config × List String)
    (member : Yaml.Node × Yaml.Node) : Option (Config × List String) := do
  let (config, keys) := sofar
  let key ← textOfYaml? document member.1
  if key ∈ keys then none
  else
    let text := settingOfYaml? document textOfYaml? member.2
    match key with
    | "inputs" =>
      some ({ config with inputs := ← settingOfYaml? document textsOfYaml? member.2 }, key :: keys)
    | "output" => some ({ config with output := ← text }, key :: keys)
    | "reporter" => some ({ config with reporter := ← text }, key :: keys)
    | "fail_on" => some ({ config with failOn := ← text }, key :: keys)
    | _ => some (config, keys)

/-- The configuration of a YAML document. One without content is empty. -/
def ofYaml? (text : String) : Option Config := do
  let document ← Yaml.Document.read? text
  match document.root with
  | none => some {}
  | some (.scalar _ true "") => some {}
  | some (.mapping members) =>
    let (config, _) ← members.foldlM (addYaml document) ({}, [])
    some config
  | some _ => none

end Yaml

end Config

end SarifDigest
