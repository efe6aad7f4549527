import SarifDigest.Proofs.Settings.RootDetection

/-!
# What is loaded at the root

The way up from a start ends at the first folder that has a configuration file or is the root of a
repository, or it runs out of folders and is back at the start. Looking for the root and loading
the configuration there agree on which files count: at a folder of the first kind the first
configuration file decides, sound or not, and in the other two cases there is none. Nothing above
the folder where the way ends matters, and none of the files that come after the first one.

What a folder has is said of the place in the tree that a path names. It is looked for behind the
spelling of the path, so the spelling of the start has to leave room for the names of the files: a
repository is not seen from a path that is almost as long as the system allows.
-/
namespace SarifDigest

/-- The names of configuration files. -/
def configNames : List String :=
  ["sarif-violations.toml", "sarif-violations.yaml", "sarif-violations.yml"]

namespace FileTree

/-- The entry of a name at a location. -/
def entryAt (tree : FileTree) (location : List String) (name : String) : Option Node :=
  tree.top.at? (location ++ [name])

/-- What a name leads to behind a path. -/
def entryBehind (tree : FileTree) (folder : Path) (name : String) : Option Node :=
  tree.node? (folder.child name)

/-- A location has a configuration file when it has an entry with one of the names, even if that
cannot be read. -/
def HasConfigAt (tree : FileTree) (location : List String) : Prop :=
  ∃ name ∈ configNames, (tree.entryAt location name).isSome = true

/-- A location is the root of a repository when it has the entry for that. -/
def HasRepositoryAt (tree : FileTree) (location : List String) : Prop :=
  (tree.entryAt location ".git").isSome = true

instance (tree : FileTree) (location : List String) : Decidable (tree.HasConfigAt location) :=
  inferInstanceAs (Decidable (∃ name ∈ configNames, (tree.entryAt location name).isSome = true))

instance (tree : FileTree) (location : List String) : Decidable (tree.HasRepositoryAt location) :=
  inferInstanceAs (Decidable ((tree.entryAt location ".git").isSome = true))

end FileTree

/-- A path has a configuration file when the folder that it names has one. -/
def HasConfigFile (tree : FileTree) (folder : Path) : Prop :=
  ∃ location, tree.Names folder location ∧ tree.HasConfigAt location

/-- A path is the root of a repository when it names one. -/
def HasRepository (tree : FileTree) (folder : Path) : Prop :=
  ∃ location, tree.Names folder location ∧ tree.HasRepositoryAt location

/-- A folder at which the way up does not end. -/
structure Unmarked (tree : FileTree) (folder : Path) : Prop where
  noConfig : ¬ HasConfigFile tree folder
  noRepository : ¬ HasRepository tree folder

/-- How the way up ends: at a folder with a configuration file, at the root of a repository
without one, or without a folder. -/
inductive Ending
  | configured (folder : Path)
  | repository (folder : Path)
  | exhausted

namespace Ending

/-- The folder at which the way up ends. -/
def folder? : Ending → Option Path
  | configured folder => some folder
  | repository folder => some folder
  | exhausted => none

/-- The root for a start whose way up ends. -/
def root (start : Path) (ending : Ending) : Path :=
  ending.folder?.getD start

/-- The folder at which the way up ends is of the kind that the ending says. -/
def Justified (tree : FileTree) : Ending → Prop
  | configured folder => HasConfigFile tree folder
  | repository folder => ¬ HasConfigFile tree folder ∧ HasRepository tree folder
  | exhausted => True

end Ending

/-- The way up from a folder, with the folders that it leaves behind. -/
inductive Climb (tree : FileTree) : Path → List Path → Ending → Prop
  | configured {folder : Path} (config : HasConfigFile tree folder) :
      Climb tree folder [] (.configured folder)
  | repository {folder : Path} (noConfig : ¬ HasConfigFile tree folder)
      (repository : HasRepository tree folder) : Climb tree folder [] (.repository folder)
  | exhausted {folder : Path} (unmarked : Unmarked tree folder) (last : folder.parent? = none) :
      Climb tree folder [folder] .exhausted
  | onward {folder parent : Path} {passed : List Path} {ending : Ending}
      (unmarked : Unmarked tree folder) (up : folder.parent? = some parent)
      (climb : Climb tree parent passed ending) : Climb tree folder (folder :: passed) ending

/-- The first configuration file among entries: the one that is there while none that comes before
it is. -/
inductive FirstFile (entry : String → Option Node) : String → ConfigFormat → Node → Prop
  | toml {node : Node} (there : entry "sarif-violations.toml" = some node) :
      FirstFile entry "sarif-violations.toml" .toml node
  | yaml {node : Node} (noToml : entry "sarif-violations.toml" = none)
      (there : entry "sarif-violations.yaml" = some node) :
      FirstFile entry "sarif-violations.yaml" .yaml node
  | yml {node : Node} (noToml : entry "sarif-violations.toml" = none)
      (noYaml : entry "sarif-violations.yaml" = none)
      (there : entry "sarif-violations.yml" = some node) :
      FirstFile entry "sarif-violations.yml" .yaml node

/-- What is loaded from whatever has the path of a configuration file: a file has to hold a text
that is a configuration in its format. -/
inductive LoadedFrom (path : Path) :
    ConfigFormat → Node → Except SettingsFault (Option Config) → Prop
  | folder (format : ConfigFormat) (entries : List (String × Node)) :
      LoadedFrom path format (.folder entries) (.error (.unreadable path .isAFolder))
  | notText (format : ConfigFormat) {bytes : ByteArray}
      (unread : String.fromUTF8? bytes = none) :
      LoadedFrom path format (.file bytes) (.error (.unreadable path .notText))
  | notToml {bytes : ByteArray} {document : String}
      (spelled : String.fromUTF8? bytes = some document)
      (refused : Config.ofToml? document = none) :
      LoadedFrom path .toml (.file bytes) (.error (.malformed path .toml))
  | toml {bytes : ByteArray} {document : String} {config : Config}
      (spelled : String.fromUTF8? bytes = some document)
      (accepted : Config.ofToml? document = some config) :
      LoadedFrom path .toml (.file bytes) (.ok (some config))
  | notYaml {bytes : ByteArray} {document : String}
      (spelled : String.fromUTF8? bytes = some document)
      (refused : Config.ofYaml? document = none) :
      LoadedFrom path .yaml (.file bytes) (.error (.malformed path .yaml))
  | yaml {bytes : ByteArray} {document : String} {config : Config}
      (spelled : String.fromUTF8? bytes = some document)
      (accepted : Config.ofYaml? document = some config) :
      LoadedFrom path .yaml (.file bytes) (.ok (some config))

/-- The first configuration file of the folder that a path names decides what is loaded there: it
is whatever can be loaded from that file, and it stays the same in every tree where the path names
a folder with the same first file. -/
def FirstFileDecides (tree : FileTree) (folder : Path) : Prop :=
  ∃ location name format node, tree.Names folder location ∧
    FirstFile (tree.entryAt location) name format node ∧
    (∀ result, loadConfig tree folder = result ↔
      LoadedFrom (folder.child name) format node result) ∧
    ∀ (other : FileTree) (elsewhere : List String), other.Names folder elsewhere →
      FirstFile (other.entryAt elsewhere) name format node →
      loadConfig other folder = loadConfig tree folder

/-- The first configuration file behind a path is at fault. -/
def FileFails (tree : FileTree) (folder : Path) (fault : SettingsFault) : Prop :=
  ∃ name format node, FirstFile (tree.entryBehind folder) name format node ∧
    LoadedFrom (folder.child name) format node (.error fault)

namespace FirstFile

variable {entry other : String → Option Node} {name : String} {format : ConfigFormat} {node : Node}

/-- The first configuration file is there. -/
theorem there (first : FirstFile entry name format node) : entry name = some node := by
  cases first <;> assumption

/-- Entries that are the same have the same first configuration file. -/
theorem congr (first : FirstFile entry name format node)
    (same : ∀ name ∈ configNames, entry name = other name) : FirstFile other name format node := by
  have toml := same "sarif-violations.toml" (by decide)
  have yaml := same "sarif-violations.yaml" (by decide)
  have yml := same "sarif-violations.yml" (by decide)
  cases first with
  | toml there => exact .toml (toml ▸ there)
  | yaml noToml there => exact .yaml (toml ▸ noToml) (yaml ▸ there)
  | yml noToml noYaml there => exact .yml (toml ▸ noToml) (yaml ▸ noYaml) (yml ▸ there)

end FirstFile

/-- There is a first configuration file exactly when one of the names has an entry. -/
theorem exists_firstFile_iff {entry : String → Option Node} :
    (∃ name format node, FirstFile entry name format node) ↔
      ∃ name ∈ configNames, (entry name).isSome = true := by
  constructor
  · rintro ⟨name, _, node, first⟩
    refine ⟨name, ?_, by rw [first.there]; rfl⟩
    cases first <;> decide
  · rintro ⟨name, listed, given⟩
    cases toml : entry "sarif-violations.toml" with
    | some node => exact ⟨_, _, node, .toml toml⟩
    | none =>
      cases yaml : entry "sarif-violations.yaml" with
      | some node => exact ⟨_, _, node, .yaml toml yaml⟩
      | none =>
        cases yml : entry "sarif-violations.yml" with
        | some node => exact ⟨_, _, node, .yml toml yaml yml⟩
        | none =>
          simp only [configNames, List.mem_cons, List.not_mem_nil, or_false] at listed
          rcases listed with rfl | rfl | rfl <;> simp_all

section Behind

variable {tree : FileTree} {folder : Path} {name : String} {format : ConfigFormat} {node : Node}

/-- Loading reads the first configuration file. -/
theorem loadConfig_of_first (first : FirstFile (tree.entryBehind folder) name format node) :
    loadConfig tree folder = (readConfig tree (folder.child name) format).map some := by
  have looked (name : String) :
      tree.holds (folder.child name) = (tree.entryBehind folder name).isSome := rfl
  have found : (configFiles.find? fun file => tree.holds (folder.child file.1)) =
      some (name, format) := by
    cases first with
    | toml there => simp [configFiles, looked, there]
    | yaml noToml there => simp [configFiles, looked, noToml, there]
    | yml noToml noYaml there => simp [configFiles, looked, noToml, noYaml, there]
  unfold loadConfig
  rw [found]

/-- Nothing is loaded when there is no configuration file. -/
theorem loadConfig_eq_none_iff_behind :
    loadConfig tree folder = .ok none ↔
      ¬ ∃ name ∈ configNames, (tree.entryBehind folder name).isSome = true := by
  constructor
  · intro loaded given
    obtain ⟨name, format, node, first⟩ := exists_firstFile_iff.2 given
    rw [loadConfig_of_first first, map_eq_ok_iff] at loaded
    obtain ⟨_, _, same⟩ := loaded
    cases same
  · intro nothing
    have missing : (configFiles.find? fun file => tree.holds (folder.child file.1)) = none := by
      rw [List.find?_eq_none]
      intro file listed there
      exact nothing ⟨file.1, List.mem_map_of_mem (f := Prod.fst) listed, there⟩
    unfold loadConfig
    rw [missing]

/-- A folder cannot be read. -/
theorem read_of_folder {path : Path} {entries : List (String × Node)}
    (leads : tree.node? path = some (.folder entries)) : tree.read path = .error .isAFolder := by
  obtain ⟨location, followed, found⟩ := FileTree.node?_eq_some_iff.1 leads
  unfold FileTree.read
  simp only [followed, found]

/-- Something can be loaded from everything, if only a fault. -/
theorem exists_loadedFrom (path : Path) (format : ConfigFormat) (node : Node) :
    ∃ result, LoadedFrom path format node result := by
  cases node with
  | folder entries => exact ⟨_, .folder format entries⟩
  | file bytes =>
    cases spelled : String.fromUTF8? bytes with
    | none => exact ⟨_, .notText format spelled⟩
    | some document =>
      cases format with
      | toml =>
        cases accepted : Config.ofToml? document with
        | none => exact ⟨_, .notToml spelled accepted⟩
        | some config => exact ⟨_, .toml spelled accepted⟩
      | yaml =>
        cases accepted : Config.ofYaml? document with
        | none => exact ⟨_, .notYaml spelled accepted⟩
        | some config => exact ⟨_, .yaml spelled accepted⟩

/-- A file with a text is read as its format says. -/
theorem readConfig_of_text {path : Path} {bytes : ByteArray} {document : String}
    (leads : tree.node? path = some (.file bytes))
    (spelled : String.fromUTF8? bytes = some document) :
    readConfig tree path format =
      match format.read? document with
      | some config => .ok config
      | none => .error (.malformed path format) := by
  have text : tree.read path = .ok document := by
    rw [FileTree.read_of_holdsBytes (FileTree.node?_eq_some_iff.1 leads), spelled]
  cases accepted : format.read? document with
  | none => simp only [readConfig, text, accepted]
  | some config => simp only [readConfig, text, accepted]

variable (first : FirstFile (tree.entryBehind folder) name format node)

include first

/-- What can be loaded from the first configuration file is loaded. -/
theorem loadConfig_of_loadedFrom {result : Except SettingsFault (Option Config)}
    (loaded : LoadedFrom (folder.child name) format node result) :
    loadConfig tree folder = result := by
  have leads : tree.node? (folder.child name) = some node := first.there
  rw [loadConfig_of_first first]
  cases loaded with
  | folder _ entries =>
    rw [readConfig, read_of_folder leads]
    rfl
  | notText _ unread =>
    rw [readConfig, FileTree.read_of_holdsBytes (FileTree.node?_eq_some_iff.1 leads), unread]
    rfl
  | notToml spelled other =>
    rw [readConfig_of_text leads spelled, ConfigFormat.read?, other]
    rfl
  | toml spelled other =>
    rw [readConfig_of_text leads spelled, ConfigFormat.read?, other]
    rfl
  | notYaml spelled other =>
    rw [readConfig_of_text leads spelled, ConfigFormat.read?, other]
    rfl
  | yaml spelled other =>
    rw [readConfig_of_text leads spelled, ConfigFormat.read?, other]
    rfl

/-- What is loaded is what can be loaded from the first configuration file. -/
theorem loadConfig_eq_iff {result : Except SettingsFault (Option Config)} :
    loadConfig tree folder = result ↔ LoadedFrom (folder.child name) format node result := by
  constructor
  · rintro rfl
    obtain ⟨result, loaded⟩ := exists_loadedFrom (folder.child name) format node
    rw [loadConfig_of_loadedFrom first loaded]
    exact loaded
  · exact loadConfig_of_loadedFrom first

omit first

/-- Loading fails where the first configuration file is at fault. -/
theorem loadConfig_eq_error_iff {fault : SettingsFault} :
    loadConfig tree folder = .error fault ↔ FileFails tree folder fault := by
  constructor
  · intro failed
    by_cases given : ∃ name ∈ configNames, (tree.entryBehind folder name).isSome = true
    · obtain ⟨name, format, node, first⟩ := exists_firstFile_iff.2 given
      exact ⟨name, format, node, first, (loadConfig_eq_iff first).1 failed⟩
    · rw [loadConfig_eq_none_iff_behind.2 given] at failed
      cases failed
  · rintro ⟨name, format, node, first, loaded⟩
    exact loadConfig_of_loadedFrom first loaded

end Behind

namespace FileTree

variable {tree : FileTree} {folder : Path} {location : List String}

/-- A path names one folder. -/
theorem Names.unique {elsewhere : List String} (named : tree.Names folder location)
    (again : tree.Names folder elsewhere) : location = elsewhere := by
  rcases named with led | ⟨empty, here⟩
  · rcases again with led' | ⟨empty, _⟩
    · exact Except.ok.inj (led.symm.trans led')
    · rw [(fits_of_locate led).2] at empty
      contradiction
  · rcases again with led | ⟨_, here'⟩
    · rw [(fits_of_locate led).2] at empty
      contradiction
    · rw [here, here']

variable (room : folder.text.utf8ByteSize + markBytes < pathLimit)

include room

/-- A mark behind a path with room is an entry of the folder that the path names. -/
theorem entryBehind_of_names (named : tree.Names folder location) {name : String}
    (mark : name ∈ markNames) : tree.entryBehind folder name = tree.entryAt location name := by
  obtain ⟨busy, proper, short, clean⟩ := Path.markNames_plain name mark
  have limit : name.utf8ByteSize ≤ nameLimit := short.trans (by decide)
  rcases named with led | ⟨empty, here⟩
  · have spacious : folder.HasRoom := by
      refine ⟨(Path.fits_iff.1 (fits_of_locate led).1).1, ?_⟩
      rw [Path.utf8ByteSize_text] at room
      omega
    exact node?_of_follow (locate_child (walk_of_locate led) busy (spacious.child_fits mark))
      busy proper limit
  · -- The empty path cannot be followed, but the name alone can.
    have given : (folder.child name).isEmpty = false := Path.isEmpty_child busy
    rw [Path.child_of_empty empty] at given
    have fits : (Path.ofPiece name).Fits := by
      refine Path.fits_iff.2 ⟨by simpa [Path.pieces, Path.ofPiece] using clean, ?_⟩
      have bound : markBytes ≤ pathLimit := by decide
      simp only [Path.bytes, Path.ofPiece, List.map_nil, List.sum_nil, Nat.add_zero]
      omega
    have followed : tree.locate (Path.ofPiece name) = tree.follow tree.here name := by
      rw [locate_of_fits fits given]
      simp [walk, base, Path.pieces, Path.ofPiece, Path.isAbsolute]
    rw [entryBehind, Path.child_of_empty empty, here]
    exact node?_of_follow followed busy proper limit

/-- Only behind a path that names a folder is there anything. -/
theorem exists_names {name : String} {node : Node}
    (found : tree.entryBehind folder name = some node) :
    ∃ location, tree.Names folder location := by
  obtain ⟨reached, led, _⟩ := node?_eq_some_iff.1 found
  obtain ⟨location, walked, _⟩ := exists_follow_of_walk_child (walk_of_locate led)
  refine ⟨location, names_of_walk walked ⟨?_, ?_⟩⟩
  · intro piece inside
    by_cases empty : piece = ""
    · rw [empty]
      decide
    · exact (Path.fits_iff.1 (fits_of_locate led).1).1 piece
        (Path.mem_pieces_child_of_mem empty inside name)
  · rw [Path.utf8ByteSize_text] at room
    omega

/-- A mark is found behind a path when the folder that the path names has it. -/
theorem isSome_entryBehind_iff {name : String} (mark : name ∈ markNames) :
    (tree.entryBehind folder name).isSome = true ↔
      ∃ location, tree.Names folder location ∧ (tree.entryAt location name).isSome = true := by
  constructor
  · intro given
    obtain ⟨node, found⟩ := Option.isSome_iff_exists.1 given
    obtain ⟨location, named⟩ := exists_names room found
    rw [entryBehind_of_names room named mark] at given
    exact ⟨location, named, given⟩
  · rintro ⟨location, named, given⟩
    rw [entryBehind_of_names room named mark]
    exact given

/-- Paths are marked as the folders are that they name. -/
theorem isMarked_iff_names :
    isMarked tree folder = true ↔
      ∃ location, tree.Names folder location ∧ tree.HasMark location := by
  rw [isMarked_iff_holds]
  constructor
  · rintro ⟨name, mark, there⟩
    obtain ⟨location, named, given⟩ := (isSome_entryBehind_iff room mark).1 there
    exact ⟨location, named, name, mark, given⟩
  · rintro ⟨location, named, name, mark, given⟩
    exact ⟨name, mark, (isSome_entryBehind_iff room mark).2 ⟨location, named, given⟩⟩

omit room in
/-- A location is marked when it has a configuration file or is the root of a repository. -/
theorem hasMark_iff : tree.HasMark location ↔
    tree.HasConfigAt location ∨ tree.HasRepositoryAt location := by
  have names : markNames = configNames ++ [".git"] := by decide
  unfold HasMark HasConfigAt HasRepositoryAt entryAt
  rw [names]
  simp only [List.mem_append, List.mem_singleton, or_and_right, exists_or, exists_eq_left]

end FileTree

section Folder

variable {tree : FileTree} {folder : Path}
  (room : folder.text.utf8ByteSize + markBytes < pathLimit)

include room

/-- Folders are marked as the way up takes them. -/
theorem isMarked_iff_of_folder :
    isMarked tree folder = true ↔ HasConfigFile tree folder ∨ HasRepository tree folder := by
  rw [FileTree.isMarked_iff_names room]
  simp only [FileTree.hasMark_iff, and_or_left, exists_or]
  rfl

/-- Folders that are not marked are left behind. -/
theorem isMarked_eq_false_iff : isMarked tree folder = false ↔ Unmarked tree folder := by
  rw [← Bool.not_eq_true, isMarked_iff_of_folder room, not_or]
  exact ⟨fun ⟨noConfig, noRepository⟩ => ⟨noConfig, noRepository⟩,
    fun unmarked => ⟨unmarked.noConfig, unmarked.noRepository⟩⟩

/-- Nothing is loaded where there is no configuration file. -/
theorem loadConfig_eq_none_iff :
    loadConfig tree folder = .ok none ↔ ¬ HasConfigFile tree folder := by
  rw [loadConfig_eq_none_iff_behind, not_iff_not]
  have marks : ∀ name ∈ configNames, name ∈ markNames := by decide
  constructor
  · rintro ⟨name, listed, given⟩
    obtain ⟨location, named, there⟩ :=
      (FileTree.isSome_entryBehind_iff room (marks name listed)).1 given
    exact ⟨location, named, name, listed, there⟩
  · rintro ⟨location, named, name, listed, there⟩
    exact ⟨name, listed,
      (FileTree.isSome_entryBehind_iff room (marks name listed)).2 ⟨location, named, there⟩⟩

/-- The first configuration file of the folder that a path names is the first behind the path. -/
theorem firstFile_entryBehind_iff {location : List String} (named : tree.Names folder location)
    {name : String} {format : ConfigFormat} {node : Node} :
    FirstFile (tree.entryBehind folder) name format node ↔
      FirstFile (tree.entryAt location) name format node := by
  have marks : ∀ name ∈ configNames, name ∈ markNames := by decide
  have same : ∀ name ∈ configNames, tree.entryBehind folder name = tree.entryAt location name :=
    fun name listed => FileTree.entryBehind_of_names room named (marks name listed)
  exact ⟨fun first => first.congr same,
    fun first => first.congr fun name listed => (same name listed).symm⟩

/-- The first configuration file decides where there is one. -/
theorem firstFileDecides_of_hasConfigFile (config : HasConfigFile tree folder) :
    FirstFileDecides tree folder := by
  obtain ⟨location, named, given⟩ := config
  obtain ⟨name, format, node, first⟩ := exists_firstFile_iff.2 given
  have behind := (firstFile_entryBehind_iff room named).2 first
  refine ⟨location, name, format, node, named, first, fun _ => loadConfig_eq_iff behind, ?_⟩
  intro other elsewhere named' first'
  have behind' := (firstFile_entryBehind_iff room named').2 first'
  exact (loadConfig_eq_iff behind').2 ((loadConfig_eq_iff behind).1 rfl)

omit room in
/-- The first configuration file decides only where there is one. -/
theorem hasConfigFile_of_firstFileDecides (decides : FirstFileDecides tree folder) :
    HasConfigFile tree folder := by
  obtain ⟨location, name, format, node, named, first, _⟩ := decides
  exact ⟨location, named, exists_firstFile_iff.1 ⟨name, format, node, first⟩⟩

/-- The folder around leaves room for the names of marks. -/
theorem room_parent {parent : Path} (up : folder.parent? = some parent) :
    parent.text.utf8ByteSize + markBytes < pathLimit := by
  have fewer := Path.bytes_parent_le (Path.parentOf_of_parent? up)
  rw [Path.utf8ByteSize_text] at room ⊢
  omega

end Folder

section Naming

variable {tree : FileTree} {folder : Path} {location : List String}
  (named : tree.Names folder location)

include named

/-- A path has a configuration file when the folder that it names does. -/
theorem hasConfigFile_iff_at : HasConfigFile tree folder ↔ tree.HasConfigAt location := by
  refine ⟨?_, fun given => ⟨location, named, given⟩⟩
  rintro ⟨elsewhere, again, given⟩
  rwa [named.unique again]

/-- A path is the root of a repository when the folder that it names is. -/
theorem hasRepository_iff_at : HasRepository tree folder ↔ tree.HasRepositoryAt location := by
  refine ⟨?_, fun given => ⟨location, named, given⟩⟩
  rintro ⟨elsewhere, again, given⟩
  rwa [named.unique again]

end Naming

section Search

variable {tree : FileTree} {start : Path}

/-- Looking for the root again finds it again. -/
theorem detectRoot_detectRoot (tree : FileTree) (start : Path) :
    detectRoot tree (detectRoot tree start) = detectRoot tree start := by
  cases found : start.ancestors.find? (isMarked tree) with
  | none =>
    have back : detectRoot tree start = start := by rw [detectRoot, found, Option.getD_none]
    rw [back, back]
  | some root =>
    have stopped : detectRoot tree start = root := by rw [detectRoot, found, Option.getD_some]
    have marked : isMarked tree root = true := List.find?_some found
    rw [stopped, detectRoot, FileTree.find?_ancestors_self marked, Option.getD_some]

/-- All folders on the way up from a start with room have room. -/
theorem room_ancestors (room : start.text.utf8ByteSize + markBytes < pathLimit) :
    ∀ folder ∈ start.ancestors, folder.text.utf8ByteSize + markBytes < pathLimit := by
  induction start using Path.ancestors.induct with
  | case1 path parent up less ih =>
    rw [Path.ancestors_of_parent up]
    exact List.forall_mem_cons.2 ⟨room, ih (room_parent room up)⟩
  | case2 path last =>
    rw [Path.ancestors_of_none last]
    exact List.forall_mem_singleton.2 room

/-- The root for a start with room has room. -/
theorem room_detectRoot (tree : FileTree)
    (room : start.text.utf8ByteSize + markBytes < pathLimit) :
    (detectRoot tree start).text.utf8ByteSize + markBytes < pathLimit := by
  unfold detectRoot
  cases found : start.ancestors.find? (isMarked tree) with
  | none => exact room
  | some root => exact room_ancestors room root (List.mem_of_find?_eq_some found)

end Search

section Climbing

variable {tree : FileTree} {start : Path} {passed : List Path} {ending : Ending}

/-- The way up ends at a folder or leaves it behind. -/
theorem ends_or_unmarked (tree : FileTree) (folder : Path) :
    (∃ ending, Climb tree folder [] ending) ∨ Unmarked tree folder := by
  by_cases config : HasConfigFile tree folder
  · exact .inl ⟨_, .configured config⟩
  by_cases repository : HasRepository tree folder
  · exact .inl ⟨_, .repository config repository⟩
  exact .inr ⟨config, repository⟩

/-- Every start has a way up. -/
theorem exists_climb (tree : FileTree) (start : Path) :
    ∃ passed ending, Climb tree start passed ending := by
  induction start using Path.ancestors.induct with
  | case1 folder parent up less ih =>
    rcases ends_or_unmarked tree folder with ends | unmarked
    · exact ⟨_, ends⟩
    · obtain ⟨passed, ending, climb⟩ := ih
      exact ⟨_, _, .onward unmarked up climb⟩
  | case2 folder last =>
    rcases ends_or_unmarked tree folder with ends | unmarked
    · exact ⟨_, ends⟩
    · exact ⟨_, _, .exhausted unmarked last⟩

/-- The folders that are left behind are not marked. -/
theorem Climb.unmarked (climb : Climb tree start passed ending) :
    ∀ folder ∈ passed, Unmarked tree folder := by
  induction climb with
  | configured => simp
  | repository => simp
  | exhausted unmarked => simpa using unmarked
  | onward unmarked _ _ ih => exact List.forall_mem_cons.2 ⟨unmarked, ih⟩

/-- The way up ends as it says. -/
theorem Climb.justified (climb : Climb tree start passed ending) : ending.Justified tree := by
  induction climb with
  | configured config => exact config
  | repository noConfig repository => exact ⟨noConfig, repository⟩
  | exhausted => trivial
  | onward _ _ _ ih => exact ih

/-- A start is left behind by a way up that does not end. -/
theorem Climb.start_mem (climb : Climb tree start passed .exhausted) : start ∈ passed := by
  cases climb with
  | exhausted => exact List.mem_singleton_self start
  | onward => exact List.mem_cons_self

/-- The root has a configuration file when the way up ends at one. -/
theorem Climb.hasConfigFile_root_iff (climb : Climb tree start passed ending) :
    HasConfigFile tree (ending.root start) ↔ ∃ folder, ending = .configured folder := by
  cases ending with
  | configured folder =>
    have config : HasConfigFile tree folder := climb.justified
    simpa [Ending.root, Ending.folder?] using config
  | repository folder =>
    have noConfig : ¬ HasConfigFile tree folder := climb.justified.1
    simpa [Ending.root, Ending.folder?] using noConfig
  | exhausted =>
    have noConfig : ¬ HasConfigFile tree start := (climb.unmarked start climb.start_mem).noConfig
    simpa [Ending.root, Ending.folder?] using noConfig

/-- The first marked folder on the way up from a start with room is the one where it ends. -/
theorem Climb.find?_ancestors (climb : Climb tree start passed ending)
    (room : start.text.utf8ByteSize + markBytes < pathLimit) :
    start.ancestors.find? (isMarked tree) = ending.folder? := by
  induction climb with
  | configured config => exact FileTree.find?_ancestors_self ((isMarked_iff_of_folder room).2 (.inl config))
  | repository noConfig repository =>
    exact FileTree.find?_ancestors_self ((isMarked_iff_of_folder room).2 (.inr repository))
  | exhausted unmarked last =>
    rw [Path.ancestors_of_none last, List.find?_singleton,
      (isMarked_eq_false_iff room).2 unmarked]
    rfl
  | onward unmarked up _ ih =>
    rw [Path.ancestors_of_parent up, List.find?_cons, (isMarked_eq_false_iff room).2 unmarked]
    exact ih (room_parent room up)

/-- The root for a start with room is the folder where the way up ends, or the start. -/
theorem Climb.detectRoot_eq (climb : Climb tree start passed ending)
    (room : start.text.utf8ByteSize + markBytes < pathLimit) :
    detectRoot tree start = ending.root start := by
  rw [detectRoot, climb.find?_ancestors room, Ending.root]

/-- The root of a repository ends the way up, so that nothing above it is the root. -/
theorem detectRoot_mem_of_marked {before above : List Path} {folder : Path}
    (way : start.ancestors = before ++ folder :: above) (marked : isMarked tree folder = true) :
    detectRoot tree start ∈ before ++ [folder] := by
  rw [detectRoot, way, List.find?_append, List.find?_cons_of_pos marked]
  cases found : before.find? (isMarked tree) with
  | none => exact List.mem_append_right before (List.mem_singleton_self folder)
  | some nearer => exact List.mem_append_left [folder] (List.mem_of_find?_eq_some found)

end Climbing

/-- The root is its own root. From a start that leaves room for the names of marks there is a way
up, and what is loaded at the root goes with how it ends. Folders that it leaves behind are not
marked. Nothing is loaded when it ends at the root of a repository or does not end; otherwise the
first configuration file decides. The root of a repository hides everything above it. -/
theorem loadConfig_agrees_with_detectRoot (tree : FileTree) (start : Path) :
    detectRoot tree (detectRoot tree start) = detectRoot tree start ∧
    (start.text.utf8ByteSize + markBytes < pathLimit →
      (∃ passed ending, Climb tree start passed ending) ∧
      (∀ passed ending, Climb tree start passed ending →
        detectRoot tree start = ending.root start ∧
        (∀ folder ∈ passed, Unmarked tree folder) ∧
        (loadConfig tree (detectRoot tree start) = .ok none ↔
          (∃ folder, ending = .repository folder) ∨ ending = .exhausted) ∧
        ((∃ folder, ending = .configured folder) ↔
          FirstFileDecides tree (detectRoot tree start))) ∧
      ∀ before repository above, start.ancestors = before ++ repository :: above →
        HasRepository tree repository →
        detectRoot tree start ∈ before ++ [repository] ∧
        ((∀ folder ∈ before ++ [repository], ¬ HasConfigFile tree folder) →
          loadConfig tree (detectRoot tree start) = .ok none)) := by
  refine ⟨detectRoot_detectRoot tree start, fun room => ⟨exists_climb tree start, ?_, ?_⟩⟩
  · intro passed ending climb
    have configured := climb.hasConfigFile_root_iff
    have spacious := room_detectRoot tree room
    rw [climb.detectRoot_eq room] at spacious ⊢
    refine ⟨rfl, climb.unmarked, ?_, ?_⟩
    · rw [loadConfig_eq_none_iff spacious, configured]
      cases ending <;> simp
    · rw [← configured]
      exact ⟨firstFileDecides_of_hasConfigFile spacious, hasConfigFile_of_firstFileDecides⟩
  · intro before repository above way marked
    have inside : ∀ folder ∈ before ++ [repository],
        folder.text.utf8ByteSize + markBytes < pathLimit := by
      intro folder among
      refine room_ancestors room folder ?_
      rw [way, List.append_cons]
      exact List.mem_append_left above among
    have here : isMarked tree repository = true :=
      (isMarked_iff_of_folder (inside repository (by simp))).2 (.inr marked)
    have among := detectRoot_mem_of_marked way here
    exact ⟨among, fun noConfig =>
      (loadConfig_eq_none_iff (inside _ among)).2 (noConfig _ among)⟩

/-- A repository below a folder with a sound configuration file, and folders where the first
configuration file is a folder itself, is sound, or is malformed, in front of others that are
not. -/
def shieldedTree : FileTree where
  top := .folder [
    ("d", .folder [
      ("sarif-violations.yaml", .file "output: json".toUTF8),
      ("sarif-violations.yml", .file "output: [".toUTF8)]),
    ("m", .folder [
      ("sarif-violations.toml", .file "output: json".toUTF8),
      ("sarif-violations.yaml", .file "output: json".toUTF8)]),
    ("r", .folder [(".git", .folder []), ("a", .folder [])]),
    ("s", .folder [
      ("sarif-violations.toml", .folder []),
      ("sarif-violations.yml", .file "output: json".toUTF8)]),
    ("sarif-violations.toml", .file "output = \"json\"".toUTF8)]
  here := []

/-- From a folder in the repository nothing is loaded, for all that is above. From the other folders
the first configuration file is loaded, whatever it is. -/
theorem loadConfig_shielded :
    Climb shieldedTree (.ofText "/r/a") [.ofText "/r/a"] (.repository (.ofText "/r")) ∧
    loadConfig shieldedTree (detectRoot shieldedTree (.ofText "/r/a")) = .ok none ∧
    FirstFileDecides shieldedTree (detectRoot shieldedTree (.ofText "/d")) ∧
    loadConfig shieldedTree (detectRoot shieldedTree (.ofText "/d")) =
      .ok (some { output := some "json" }) ∧
    FirstFileDecides shieldedTree (detectRoot shieldedTree (.ofText "/m")) ∧
    loadConfig shieldedTree (detectRoot shieldedTree (.ofText "/m")) =
      .error (.malformed (.ofText "/m/sarif-violations.toml") .toml) ∧
    FirstFileDecides shieldedTree (detectRoot shieldedTree (.ofText "/s")) ∧
    loadConfig shieldedTree (detectRoot shieldedTree (.ofText "/s")) =
      .error (.unreadable (.ofText "/s/sarif-violations.toml") .isAFolder) := by
  have agrees (start : Path) (room : start.text.utf8ByteSize + markBytes < pathLimit) :=
    (loadConfig_agrees_with_detectRoot shieldedTree start).2 room
  have configured (start : Path) (location : List String)
      (led : shieldedTree.locate start = .ok location)
      (config : shieldedTree.HasConfigAt location)
      (room : start.text.utf8ByteSize + markBytes < pathLimit) :
      FirstFileDecides shieldedTree (detectRoot shieldedTree start) := by
    have climb : Climb shieldedTree start [] (.configured start) :=
      .configured ⟨location, .inl led, config⟩
    exact ((agrees start room).2.1 _ _ climb).2.2.2.1 ⟨_, rfl⟩
  have inner : shieldedTree.Names (.ofText "/r/a") ["r", "a"] := .inl (by decide +kernel)
  have outer : shieldedTree.Names (.ofText "/r") ["r"] := .inl (by decide +kernel)
  have climb : Climb shieldedTree (.ofText "/r/a") [.ofText "/r/a"]
      (.repository (.ofText "/r")) := by
    refine .onward ⟨?_, ?_⟩ (by decide +kernel) (.repository ?_ ?_)
    · rw [hasConfigFile_iff_at inner]
      decide +kernel
    · rw [hasRepository_iff_at inner]
      decide +kernel
    · rw [hasConfigFile_iff_at outer]
      decide +kernel
    · rw [hasRepository_iff_at outer]
      decide +kernel
  refine ⟨climb, ((agrees _ (by decide +kernel)).2.1 _ _ climb).2.2.1.2 (.inl ⟨_, rfl⟩), ?_, ?_, ?_,
    ?_, ?_, ?_⟩
  · exact configured _ ["d"] (by decide +kernel) (by decide +kernel) (by decide +kernel)
  · decide +kernel
  · exact configured _ ["m"] (by decide +kernel) (by decide +kernel) (by decide +kernel)
  · decide +kernel
  · exact configured _ ["s"] (by decide +kernel) (by decide +kernel) (by decide +kernel)
  · decide +kernel

/-- A path to a folder that is a repository, with dots behind it. -/
def dottedPath (dots : Nat) : Path := ⟨"r", List.replicate dots "."⟩

section Dotted

variable {dots : Nat}

/-- A dot stands for no component. -/
theorem isIdle_of_mem_dots : ∀ piece ∈ List.replicate dots ".", Path.isIdle piece = true := by
  intro piece inside
  rw [List.eq_of_mem_replicate inside]
  decide

/-- Each dot takes two bytes. -/
theorem bytes_dottedPath : (dottedPath dots).bytes = 2 * dots + 1 := by
  have letter : ("r" : String).utf8ByteSize = 1 := by decide
  have dot : ("." : String).utf8ByteSize = 1 := by decide
  simp only [dottedPath, Path.bytes, List.map_replicate, List.sum_replicate_nat, letter, dot]
  omega

/-- A path that is not too long names the folder. -/
theorem names_dottedPath (short : 2 * dots + 1 ≤ pathLimit) :
    shieldedTree.Names (dottedPath dots) ["r"] := by
  have clean : ∀ piece ∈ (dottedPath dots).pieces, '\x00' ∉ piece.toList := by
    intro piece inside
    rcases List.mem_cons.1 inside with first | inside
    · rw [first]
      show '\x00' ∉ "r".toList
      decide
    · rw [List.eq_of_mem_replicate inside]
      decide
  have walked : shieldedTree.walk (dottedPath dots) = .ok ["r"] := by
    have step : shieldedTree.follow [] "r" = .ok ["r"] := by rfl
    have based : shieldedTree.base (dottedPath dots) = [] := by rfl
    have folder : shieldedTree.top.at? ["r"] =
        some (.folder [(".git", .folder []), ("a", .folder [])]) := by rfl
    rw [FileTree.walk, based, Path.pieces, List.foldlM_cons]
    exact bind_eq_ok_iff.2 ⟨["r"], step, FileTree.foldlM_of_idle folder isIdle_of_mem_dots⟩
  have fits : (dottedPath dots).Fits := Path.fits_iff.2 ⟨clean, bytes_dottedPath ▸ short⟩
  exact .inl (FileTree.locate_eq_ok_iff.2 ⟨⟨fits, by rfl⟩, walked⟩)

/-- No mark is found behind a path that is too long for the shortest. -/
theorem isMarked_dottedPath (long : pathLimit < 2 * dots + 6) :
    isMarked shieldedTree (dottedPath dots) = false := by
  rw [Bool.eq_false_iff]
  intro marked
  obtain ⟨name, mark, there⟩ := FileTree.isMarked_iff_holds.1 marked
  obtain ⟨location, led, _⟩ := FileTree.holds_iff.1 there
  have short := (Path.fits_iff.1 (FileTree.fits_of_locate led).1).2
  have least : ∀ name ∈ markNames, 4 ≤ name.utf8ByteSize := by decide
  have kept : Path.dropEndEmpty (dottedPath dots).rest = (dottedPath dots).rest := by
    simp [dottedPath, Path.dropEndEmpty, List.getLast?_replicate]
  have longer : ((dottedPath dots).child name).bytes =
      (dottedPath dots).bytes + (name.utf8ByteSize + 1) := by
    rw [Path.child_of_nonempty (by rfl), kept]
    simp [Path.bytes, Nat.add_assoc]
  have bound := least name mark
  rw [longer, bytes_dottedPath] at short
  omega

/-- The way up leads from the folder to the working folder. -/
theorem ancestors_dottedPath : (dottedPath dots).ancestors = [dottedPath dots, .ofPiece ""] := by
  have up : (dottedPath dots).parent? = some (.ofPiece "") := by
    have idle : Path.dropEndIdle (dottedPath dots).rest = [] := by
      rw [Path.dropEndIdle, List.reverse_eq_nil_iff, List.dropWhile_eq_nil_iff]
      exact fun piece inside => isIdle_of_mem_dots piece (List.mem_reverse.1 inside)
    unfold Path.parent?
    rw [idle]
    rfl
  have last : (Path.ofPiece "").parent? = none := by decide +kernel
  rw [Path.ancestors_of_parent up, Path.ancestors_of_none last]

end Dotted

/-- With two bytes less than the system allows the path names the repository, but leaves room for no
mark. So the search goes on above, and the configuration there is loaded, although the way up ends
at the start. -/
theorem not_loadConfig_shielded_overlong :
    shieldedTree.Names (dottedPath 2046) ["r"] ∧
    Climb shieldedTree (dottedPath 2046) [] (.repository (dottedPath 2046)) ∧
    detectRoot shieldedTree (dottedPath 2046) ≠ dottedPath 2046 ∧
    loadConfig shieldedTree (detectRoot shieldedTree (dottedPath 2046)) =
      .ok (some { output := some "json" }) := by
  have named : shieldedTree.Names (dottedPath 2046) ["r"] := names_dottedPath (by decide)
  have bare : ¬ HasConfigFile shieldedTree (dottedPath 2046) := by
    rw [hasConfigFile_iff_at named]
    decide +kernel
  have repository : HasRepository shieldedTree (dottedPath 2046) := by
    rw [hasRepository_iff_at named]
    decide +kernel
  have above : detectRoot shieldedTree (dottedPath 2046) = .ofPiece "" := by
    have marked : isMarked shieldedTree (.ofPiece "") = true := by decide +kernel
    rw [detectRoot, ancestors_dottedPath, List.find?_cons, isMarked_dottedPath (by decide)]
    simp [marked]
  rw [above]
  exact ⟨named, .repository bare repository, by decide, by decide +kernel⟩

end SarifDigest
