import Mathlib.Logic.ExistsUnique
import SarifDigest.Proofs.Program.Presentation
import SarifDigest.Proofs.Settings.AcceptedWords
import SarifDigest.Proofs.Settings.Loading

/-!
# Layers of settings

Each setting of a run is decided by one of three layers: the command line, the configuration at the
root, and the standard settings. The first layer that gives the setting decides it, and nothing of
the other two reaches the run, whether it is right or wrong. So a run fails on a word only if the
layer that decides the setting gives one that is not known.
-/
namespace SarifDigest

/-- The settings that overrides give. -/
def Overrides.given (overrides : Overrides) : Config where
  inputs := some overrides.inputs
  output := overrides.output
  reporter := overrides.reporter
  failOn := overrides.failOn

/-- Where a setting may come from. -/
inductive Layer
  | commandLine
  | configuration
  | standard

namespace Layer

/-- The number of layers that come before. -/
def rank : Layer → Nat
  | commandLine => 0
  | configuration => 1
  | standard => 2

/-- The settings that each layer gives. The standard layer gives all of them. -/
def settings (overrides : Overrides) (loaded : Option Config) : Layer → Config
  | commandLine => overrides.given
  | configuration => loaded.getD {}
  | standard => {
      inputs := some ["**/*.sarif"]
      output := some "human"
      reporter := some "Sarif"
      failOn := some "error" }

end Layer

/-- The inputs of a configuration, which count as given when there are some. -/
def Config.givenInputs (config : Config) : Option (List String) :=
  config.inputs.filter (!·.isEmpty)

/-- Overrides without inputs give none. -/
theorem Overrides.inputs_of_givenInputs {overrides : Overrides}
    (none : overrides.given.givenInputs = none) : overrides.inputs = [] := by
  simpa [given, Config.givenInputs] using none

section Decision

variable {α : Type} {setting : Config → Option α} {overrides : Overrides} {loaded : Option Config}

/-- A layer decides a setting when it gives it and no layer before it does. -/
structure Decides (setting : Config → Option α) (overrides : Overrides) (loaded : Option Config)
    (layer : Layer) (value : α) : Prop where
  /-- The layer gives the setting. -/
  gives : setting (layer.settings overrides loaded) = some value
  /-- No layer before it does. -/
  first : ∀ other : Layer, other.rank < layer.rank →
    setting (other.settings overrides loaded) = none

/-- What a setting is decided to be. -/
def Decided (setting : Config → Option α) (overrides : Overrides) (loaded : Option Config)
    (value : α) : Prop :=
  ∃ layer, Decides setting overrides loaded layer value

/-- A setting is decided to be what the first layer gives. -/
theorem decided_iff {value : α} :
    Decided setting overrides loaded value ↔
      ((setting (Layer.settings overrides loaded .commandLine)).or
        ((setting (Layer.settings overrides loaded .configuration)).or
          (setting (Layer.settings overrides loaded .standard)))) = some value := by
  constructor
  · rintro ⟨layer, gives, first⟩
    cases layer with
    | commandLine => rw [gives, Option.some_or]
    | configuration =>
      rw [first .commandLine (by decide), Option.none_or, gives, Option.some_or]
    | standard =>
      rw [first .commandLine (by decide), first .configuration (by decide), Option.none_or,
        Option.none_or, gives]
  · intro found
    -- The layer that the value comes from decides, as those before it are passed over.
    rw [Option.or_eq_some_iff, Option.or_eq_some_iff] at found
    rcases found with given | ⟨bare, given | ⟨empty, given⟩⟩
    · refine ⟨.commandLine, given, ?_⟩
      rintro (_ | _ | _) before <;> simp [Layer.rank] at before
    · refine ⟨.configuration, given, ?_⟩
      rintro (_ | _ | _) before <;> simp [Layer.rank] at before
      exact bare
    · refine ⟨.standard, given, ?_⟩
      rintro (_ | _ | _) before <;> simp [Layer.rank] at before
      · exact bare
      · exact empty

section Standard

variable {standard : α}
  (gives : setting (Layer.settings overrides loaded .standard) = some standard)

include gives

/-- A setting that the standard layer gives is decided. -/
theorem exists_decided : ∃ value, Decided setting overrides loaded value := by
  simp only [decided_iff]
  apply Option.isSome_iff_exists.1
  rw [Option.isSome_or, Option.isSome_or, gives, Option.isSome_some, Bool.or_true, Bool.or_true]

/-- A setting that the standard layer gives is decided by exactly one layer. -/
theorem existsUnique_decides :
    ∃! layer, ∃ value, Decides setting overrides loaded layer value := by
  obtain ⟨value, layer, decides⟩ := exists_decided gives
  refine ⟨layer, ⟨value, decides⟩, ?_⟩
  rintro other ⟨value', decides'⟩
  rcases Nat.lt_trichotomy other.rank layer.rank with before | same | behind
  · have none := decides.first other before
    rw [decides'.gives] at none
    contradiction
  · cases other <;> cases layer <;> first | rfl | cases same
  · have none := decides'.first layer behind
    rw [decides.gives] at none
    contradiction

end Standard

/-- What is decided stays the same with another configuration that gives the setting alike, or any
when the command line gives it. -/
theorem Decided.beneath {config config' : Config} {value : α}
    (decided : Decided setting overrides (some config) value)
    (alike : setting overrides.given = none → setting config = setting config') :
    Decided setting overrides (some config') value := by
  rw [decided_iff] at decided ⊢
  simp only [Layer.settings, Option.getD_some] at decided ⊢
  cases given : setting overrides.given with
  | none => rwa [given, alike given] at decided
  | some own => rwa [given] at decided

end Decision

section Choice

variable {overrides : Overrides} {loaded : Option Config}

/-- Inputs are chosen as they are decided. -/
theorem chooseInputs_of_decided {inputs : List String}
    (decided : Decided Config.givenInputs overrides loaded inputs) :
    chooseInputs overrides.inputs (loaded.getD {}).inputs = inputs := by
  rw [decided_iff] at decided
  simp only [Layer.settings, Overrides.given, Config.givenInputs] at decided
  apply Option.some.inj
  rw [← decided]
  unfold chooseInputs
  cases overrides.inputs with
  | cons input others => rfl
  | nil =>
    cases (loaded.getD {}).inputs with
    | none => rfl
    | some inputs => cases inputs <;> rfl

/-- A reporter is chosen as it is decided, unless it is blank. -/
theorem chooseReporter_of_decided {name : String}
    (decided : Decided Config.reporter overrides loaded name) :
    chooseReporter overrides.reporter (loaded.getD {}).reporter =
      if Text.isBlankText name = true then "Sarif" else name := by
  have visible : Text.isBlankText "Sarif" = false := by decide
  rw [decided_iff] at decided
  simp only [Layer.settings, Overrides.given, ← Option.or_assoc] at decided
  unfold chooseReporter
  cases given : overrides.reporter.or (loaded.getD {}).reporter with
  | none =>
    rw [given, Option.none_or, Option.some.injEq] at decided
    rw [← decided, visible]
    rfl
  | some reporter =>
    rw [given, Option.some_or, Option.some.injEq] at decided
    rw [decided, Option.filter_some]
    cases Text.isBlankText name <;> rfl

section Word

variable {α : Type} {setting : Config → Option String} {read : String → Except UnknownWord α}
  {words : List (String × α)} {name : String} {standard : α} {word standardWord : String}

/-- A word is read as it is decided, when the standard word stands for the standard value. -/
theorem chooseWord_of_decided
    (gives : setting (Layer.settings overrides loaded .standard) = some standardWord)
    (known : read standardWord = .ok standard) (decided : Decided setting overrides loaded word) :
    chooseWord read standard (setting (Layer.settings overrides loaded .commandLine))
      (setting (Layer.settings overrides loaded .configuration)) =
        (read word).mapError .unknownWord := by
  rw [decided_iff, gives, ← Option.or_assoc] at decided
  unfold chooseWord
  cases given : (setting (Layer.settings overrides loaded .commandLine)).or
      (setting (Layer.settings overrides loaded .configuration)) with
  | none =>
    rw [given, Option.none_or, Option.some.injEq] at decided
    rw [← decided, known]
    rfl
  | some text =>
    rw [given, Option.some_or, Option.some.injEq] at decided
    rw [decided]

/-- A word has the value that it is accepted as, where refusals are faults of the settings. -/
theorem ReadsWords.mapError_eq_ok_iff (reads : ReadsWords read words name) {value : α} :
    (read word).mapError SettingsFault.unknownWord = .ok value ↔ Accepts words word value := by
  rw [← reads.ok_iff]
  cases read word <;> simp [Except.mapError]

/-- A word that is not accepted as anything is a fault of the settings. -/
theorem ReadsWords.mapError_eq_error_iff (reads : ReadsWords read words name)
    {fault : SettingsFault} :
    (read word).mapError SettingsFault.unknownWord = .error fault ↔
      (∀ value, ¬ Accepts words word value) ∧ fault = .unknownWord ⟨name, word⟩ := by
  cases outcome : read word with
  | ok value =>
    have accepted := reads.ok_iff.1 outcome
    simp only [Except.mapError, reduceCtorEq, false_iff, not_and]
    intro unaccepted
    exact absurd accepted (unaccepted value)
  | error unknown =>
    obtain ⟨unaccepted, rfl⟩ := reads.error_iff.1 outcome
    simp [Except.mapError, unaccepted, eq_comm]

end Word

end Choice

/-- A computation in two parts fails when the first part does, or the second one after it. -/
theorem bind_eq_error_iff {ε α β : Type} {first : Except ε α} {second : α → Except ε β}
    {fault : ε} :
    first >>= second = .error fault ↔
      first = .error fault ∨ ∃ a, first = .ok a ∧ second a = .error fault := by
  cases first with
  | error fault => simp [bind, Except.bind]
  | ok a => simp [bind, Except.bind]

/-- Two configurations are the same beneath overrides when they give every setting alike that the
overrides do not give. -/
structure SameBeneath (overrides : Overrides) (config config' : Config) : Prop where
  inputs : overrides.inputs = [] → config.givenInputs = config'.givenInputs
  output : overrides.output = none → config.output = config'.output
  reporter : overrides.reporter = none → config.reporter = config'.reporter
  failOn : overrides.failOn = none → config.failOn = config'.failOn

/-- What is decided on the settings of a run. -/
structure Decisions (overrides : Overrides) (loaded : Option Config) where
  inputs : List String
  output : String
  reporter : String
  failOn : String
  /-- The inputs are those of the first layer that gives some. -/
  inputs_decided : Decided Config.givenInputs overrides loaded inputs
  /-- The word for the output mode is that of the first layer that gives one. -/
  output_decided : Decided Config.output overrides loaded output
  /-- The reporter is that of the first layer that gives one. -/
  reporter_decided : Decided Config.reporter overrides loaded reporter
  /-- The word for the threshold is that of the first layer that gives one. -/
  failOn_decided : Decided Config.failOn overrides loaded failOn

namespace Decisions

variable {overrides : Overrides} {loaded : Option Config} (decisions : Decisions overrides loaded)
  {root : Path}

/-- The settings that decisions lead to: words are accepted, and a blank reporter is replaced by
the standard one. -/
structure LeadTo (root : Path) (settings : Settings) : Prop where
  root : settings.root = root
  configFound : settings.configFound = loaded.isSome
  inputs : settings.inputs = decisions.inputs
  output : Accepts OutputMode.words decisions.output settings.output
  reporter : Text.Blank decisions.reporter.toList ∧ settings.reporter = "Sarif" ∨
    ¬ Text.Blank decisions.reporter.toList ∧ settings.reporter = decisions.reporter
  threshold : Accepts Threshold.words decisions.failOn settings.threshold

/-- The faults that decisions lead to: a word is not accepted, and the one for the output mode
counts before the one for the threshold. The fault names the word as it was given. -/
inductive FailWith : SettingsFault → Prop
  | output (unknown : ∀ mode, ¬ Accepts OutputMode.words decisions.output mode) :
      FailWith (.unknownWord ⟨"output", decisions.output⟩)
  | failOn {mode : OutputMode} (known : Accepts OutputMode.words decisions.output mode)
      (unknown : ∀ threshold, ¬ Accepts Threshold.words decisions.failOn threshold) :
      FailWith (.unknownWord ⟨"fail_on", decisions.failOn⟩)

/-- The output mode is chosen from the word that is decided. -/
theorem chooseOutput_eq :
    chooseWord OutputMode.ofText .human overrides.output (loaded.getD {}).output =
      (OutputMode.ofText decisions.output).mapError .unknownWord :=
  chooseWord_of_decided rfl (by decide) decisions.output_decided

/-- The threshold is chosen from the word that is decided. -/
theorem chooseThreshold_eq :
    chooseWord Threshold.ofText .error overrides.failOn (loaded.getD {}).failOn =
      (Threshold.ofText decisions.failOn).mapError .unknownWord :=
  chooseWord_of_decided rfl (by decide) decisions.failOn_decided

/-- Settings are those that the decisions lead to. -/
theorem settle_eq_ok_iff {settings : Settings} :
    overrides.settle root loaded = .ok settings ↔ decisions.LeadTo root settings := by
  unfold Overrides.settle
  dsimp only
  rw [decisions.chooseOutput_eq, decisions.chooseThreshold_eq,
    chooseInputs_of_decided decisions.inputs_decided,
    chooseReporter_of_decided decisions.reporter_decided]
  simp only [bind_eq_ok_iff, OutputMode.readsWords.mapError_eq_ok_iff,
    Threshold.readsWords.mapError_eq_ok_iff]
  constructor
  · rintro ⟨output, accepted, threshold, accepted', settled⟩
    cases settled
    refine ⟨rfl, rfl, rfl, accepted, ?_, accepted'⟩
    rw [← Text.isBlankText_iff]
    split_ifs with blank
    · exact .inl ⟨blank, rfl⟩
    · exact .inr ⟨blank, rfl⟩
  · intro leadTo
    obtain ⟨root', configFound, inputs, output, reporter, threshold⟩ := settings
    obtain ⟨rfl, rfl, rfl, accepted, chosen, accepted'⟩ := leadTo
    refine ⟨output, accepted, threshold, accepted', ?_⟩
    rw [← Text.isBlankText_iff] at chosen
    rcases chosen with ⟨blank, rfl⟩ | ⟨visible, rfl⟩
    · rw [if_pos blank]
      rfl
    · rw [if_neg visible]
      rfl

/-- Faults are those that the decisions lead to. -/
theorem settle_eq_error_iff {fault : SettingsFault} :
    overrides.settle root loaded = .error fault ↔ decisions.FailWith fault := by
  unfold Overrides.settle
  dsimp only
  rw [decisions.chooseOutput_eq, decisions.chooseThreshold_eq]
  simp only [bind_eq_error_iff, OutputMode.readsWords.mapError_eq_ok_iff,
    OutputMode.readsWords.mapError_eq_error_iff, Threshold.readsWords.mapError_eq_error_iff]
  constructor
  · rintro (⟨unknown, rfl⟩ | ⟨output, known, ⟨unknown, rfl⟩ | ⟨threshold, _, settled⟩⟩)
    · exact .output unknown
    · exact .failOn known unknown
    · cases settled
  · rintro (unknown | ⟨known, unknown⟩)
    · exact .inl ⟨unknown, rfl⟩
    · exact .inr ⟨_, known, .inl ⟨unknown, rfl⟩⟩

/-- Something is decided on the settings of every run. -/
theorem nonempty (overrides : Overrides) (loaded : Option Config) :
    Nonempty (Decisions overrides loaded) := by
  obtain ⟨_, inputs_decided⟩ : ∃ inputs, Decided Config.givenInputs overrides loaded inputs :=
    exists_decided rfl
  obtain ⟨_, output_decided⟩ : ∃ output, Decided Config.output overrides loaded output :=
    exists_decided rfl
  obtain ⟨_, reporter_decided⟩ : ∃ reporter, Decided Config.reporter overrides loaded reporter :=
    exists_decided rfl
  obtain ⟨_, failOn_decided⟩ : ∃ failOn, Decided Config.failOn overrides loaded failOn :=
    exists_decided rfl
  exact ⟨⟨_, _, _, _, inputs_decided, output_decided, reporter_decided, failOn_decided⟩⟩

/-- The same is decided with another configuration that is the same beneath the overrides. -/
def beneath {config config' : Config} (decisions : Decisions overrides (some config))
    (same : SameBeneath overrides config config') : Decisions overrides (some config') where
  inputs := decisions.inputs
  output := decisions.output
  reporter := decisions.reporter
  failOn := decisions.failOn
  inputs_decided := decisions.inputs_decided.beneath fun bare =>
    same.inputs (Overrides.inputs_of_givenInputs bare)
  output_decided := decisions.output_decided.beneath same.output
  reporter_decided := decisions.reporter_decided.beneath same.reporter
  failOn_decided := decisions.failOn_decided.beneath same.failOn

end Decisions

namespace Overrides

variable {overrides : Overrides} {config config' : Config}

/-- What a configuration says on settings that the overrides give does not matter. -/
theorem settle_beneath (same : SameBeneath overrides config config') (root : Path) :
    overrides.settle root (some config') = overrides.settle root (some config) := by
  obtain ⟨decisions⟩ := Decisions.nonempty overrides (some config)
  cases settled : overrides.settle root (some config) with
  | ok settings =>
    -- Both configurations count as found, so the same decisions lead to the same settings.
    have leadTo := decisions.settle_eq_ok_iff.1 settled
    refine (decisions.beneath same).settle_eq_ok_iff.2 ?_
    exact ⟨leadTo.root, leadTo.configFound, leadTo.inputs, leadTo.output, leadTo.reporter,
      leadTo.threshold⟩
  | error fault =>
    have failWith := decisions.settle_eq_error_iff.1 settled
    refine (decisions.beneath same).settle_eq_error_iff.2 ?_
    cases failWith with
    | output unknown => exact .output unknown
    | failOn known unknown => exact .failOn known unknown

/-- A known word is chosen before any other. -/
theorem chooseWord_of_known {α : Type} {read : String → Except UnknownWord α} {standard value : α}
    {given configured : Option String} {word : String} (own : given = some word)
    (known : read word = .ok value) : chooseWord read standard given configured = .ok value := by
  rw [own, chooseWord, Option.some_or]
  dsimp only
  rw [known]
  rfl

/-- Overrides with words that are known are settled. -/
theorem settle_ok_of_known {output failOn : String} {mode : OutputMode} {threshold : Threshold}
    (given : overrides.output = some output) (known : OutputMode.ofText output = .ok mode)
    (given' : overrides.failOn = some failOn) (known' : Threshold.ofText failOn = .ok threshold)
    (root : Path) (loaded : Option Config) :
    ∃ settings, overrides.settle root loaded = .ok settings := by
  rw [settle_of_mode (chooseWord_of_known given known), chooseWord_of_known given' known']
  exact ⟨_, rfl⟩

/-- The faults of the configuration file at the root are those that no overrides for the root
avoid. -/
theorem fileFails_iff (overrides : Overrides) (tree : FileTree) (fault : SettingsFault) :
    FileFails tree (overrides.rootIn tree) fault ↔
      ∀ other : Overrides, other.root = overrides.root → other.resolve tree = .error fault := by
  rw [← loadConfig_eq_error_iff]
  constructor
  · intro failed other root
    have roots : other.rootIn tree = overrides.rootIn tree := by rw [rootIn, rootIn, root]
    rw [resolve_eq, roots, failed]
    rfl
  · intro fails
    let known : Overrides :=
      { root := overrides.root, output := some "json", failOn := some "error" }
    have failed : known.resolve tree = .error fault := fails known rfl
    have roots : known.rootIn tree = overrides.rootIn tree := rfl
    rw [resolve_eq, roots] at failed
    cases found : loadConfig tree (overrides.rootIn tree) with
    | error fault' =>
      rw [found] at failed
      have same : fault' = fault := Except.error.inj failed
      rw [same]
    | ok loaded =>
      have mode : OutputMode.ofText "json" = .ok .json := by decide
      have threshold : Threshold.ofText "error" = .ok .error := by decide
      obtain ⟨settings, settled⟩ : ∃ settings, known.settle _ loaded = .ok settings :=
        settle_ok_of_known rfl mode rfl threshold (overrides.rootIn tree) loaded
      simp only [found, Except.bind, settled, reduceCtorEq] at failed

/-- The settings of a run come in layers. A configuration file at fault fails the run, whatever else
is given. Otherwise each setting is decided by exactly one layer, and the run succeeds with what the
decisions lead to and fails as they do. Configurations that are read and differ in nothing but what
the command line gives lead to the same. -/
theorem resolve_layered (overrides : Overrides) (tree : FileTree) :
    (∀ fault, FileFails tree (overrides.rootIn tree) fault ↔
      ∀ other : Overrides, other.root = overrides.root → other.resolve tree = .error fault) ∧
    (∀ loaded, loadConfig tree (overrides.rootIn tree) = .ok loaded →
      (∃! layer, ∃ inputs, Decides Config.givenInputs overrides loaded layer inputs) ∧
      (∃! layer, ∃ output, Decides Config.output overrides loaded layer output) ∧
      (∃! layer, ∃ reporter, Decides Config.reporter overrides loaded layer reporter) ∧
      (∃! layer, ∃ failOn, Decides Config.failOn overrides loaded layer failOn) ∧
      Nonempty (Decisions overrides loaded) ∧
      ∀ decisions : Decisions overrides loaded,
        (∀ settings, overrides.resolve tree = .ok settings ↔
          decisions.LeadTo (overrides.rootIn tree) settings) ∧
        ∀ fault, overrides.resolve tree = .error fault ↔ decisions.FailWith fault) ∧
    ∀ (other : FileTree) (config config' : Config),
      loadConfig tree (overrides.rootIn tree) = .ok (some config) →
      overrides.rootIn other = overrides.rootIn tree →
      loadConfig other (overrides.rootIn other) = .ok (some config') →
      SameBeneath overrides config config' → overrides.resolve other = overrides.resolve tree := by
  refine ⟨overrides.fileFails_iff tree, ?_, ?_⟩
  · intro loaded found
    have settled : overrides.resolve tree = overrides.settle (overrides.rootIn tree) loaded := by
      rw [resolve_eq, found]
      rfl
    rw [settled]
    refine ⟨existsUnique_decides rfl, existsUnique_decides rfl, existsUnique_decides rfl,
      existsUnique_decides rfl, Decisions.nonempty overrides loaded, ?_⟩
    intro decisions
    exact ⟨fun _ => decisions.settle_eq_ok_iff, fun _ => decisions.settle_eq_error_iff⟩
  · intro other config config' found roots found' same
    rw [resolve_eq, resolve_eq, found, found', roots]
    exact settle_beneath same (overrides.rootIn tree)

/-- A folder with a configuration that asks for an unknown output mode. -/
def wronglyWordedTree : FileTree where
  top := .folder [("sarif-violations.toml",
    .file "output = \"xml\"\nfail_on = \" WARNING\"\nreporter = \" \"".toUTF8)]
  here := []

/-- A folder with a configuration in the other format that asks for a known one. -/
def wellWordedTree : FileTree where
  top := .folder [("sarif-violations.yaml",
    .file "fail_on: ' WARNING'\nreporter: ' '\noutput: human".toUTF8)]
  here := []

/-- A folder with a configuration that breaks off. -/
def brokenTree : FileTree where
  top := .folder [("sarif-violations.toml", .file "output = [".toUTF8)]
  here := []

/-- With an output mode from the command line both configurations lead to the same settings, in
which the blank reporter is the standard one; the one that breaks off leads to none. -/
theorem resolve_layered_worded :
    ({ output := some "JSON" } : Overrides).resolve wellWordedTree =
      .ok ⟨.here, true, ["**/*.sarif"], .json, "Sarif", .warn⟩ ∧
    ({ output := some "JSON" } : Overrides).resolve wellWordedTree =
      ({ output := some "JSON" } : Overrides).resolve wronglyWordedTree ∧
    ({} : Overrides).resolve wronglyWordedTree = .error (.unknownWord ⟨"output", "xml"⟩) ∧
    ({ output := some "JSON" } : Overrides).resolve brokenTree =
      .error (.malformed (.ofText "./sarif-violations.toml") .toml) := by
  have found : loadConfig wronglyWordedTree (rootIn { output := some "JSON" } wronglyWordedTree) =
      .ok (some { output := some "xml", reporter := some " ", failOn := some " WARNING" }) := by
    decide +kernel
  have found' : loadConfig wellWordedTree (rootIn { output := some "JSON" } wellWordedTree) =
      .ok (some { output := some "human", reporter := some " ", failOn := some " WARNING" }) := by
    decide +kernel
  have roots : rootIn { output := some "JSON" } wellWordedTree =
      rootIn { output := some "JSON" } wronglyWordedTree := by
    decide +kernel
  have same : SameBeneath { output := some "JSON" }
      { output := some "xml", reporter := some " ", failOn := some " WARNING" }
      { output := some "human", reporter := some " ", failOn := some " WARNING" } :=
    ⟨fun _ => rfl, fun none => (nomatch none), fun _ => rfl, fun _ => rfl⟩
  have fails : FileFails brokenTree (rootIn {} brokenTree)
      (.malformed (.ofText "./sarif-violations.toml") .toml) := by
    rw [← loadConfig_eq_error_iff]
    decide +kernel
  refine ⟨by decide +kernel, ?_, by decide +kernel, ?_⟩
  · exact (resolve_layered _ _).2.2 _ _ _ found roots found' same
  · exact ((resolve_layered {} brokenTree).1 _).1 fails { output := some "JSON" } rfl

end Overrides

end SarifDigest
