import SarifDigest.Proofs.Glob.Entries
import SarifDigest.Proofs.Glob.Matching

/-!
# What a search finds

The search for the parts of a pattern from a folder finds the files below it that the parts
match, and no others, as long as no part leads up. A file is found when its spelling is short
enough for the system; the dots and empty pieces of the pattern count for this.
-/
namespace SarifDigest.Glob

open SarifDigest.Path

namespace Part

/-- A part stays below the folder that it is looked for in, or in it. -/
def StaysBelow : Part → Prop
  | .name wanted => wanted ≠ ".."
  | .wild tokens => dotEntries tokens = []
  | .folders => True

end Part

variable {tree : FileTree} {path : Path} {location : List String}

/-- A name that leads on can be followed. -/
theorem exists_follow_of_leadsOn (walked : tree.walk path = .ok location) {name : String}
    (on : leadsOn tree path name = true) : ∃ next, tree.follow location name = .ok next := by
  unfold leadsOn at on
  split at on
  · rename_i dots
    unfold FileTree.isFolder at on
    cases found : tree.node? path with
    | none => simp [found] at on
    | some node =>
      cases node with
      | file bytes => simp [found, Node.isFolder] at on
      | folder entries =>
        have folder := FileTree.at?_of_node? walked found
        rcases dots with rfl | rfl
        · exact ⟨location, FileTree.follow_idle folder rfl⟩
        · exact ⟨location.dropLast, FileTree.follow_up folder⟩
  · have next := FileTree.holds_iff.1 on
    obtain ⟨reached, followed, _⟩ := next
    have led := FileTree.walk_of_locate followed
    rw [walk_entryPath walked] at led
    exact ⟨reached, led⟩

/-- A path below another: it is walked to the end of some names behind the location of that, and
the names are all that its spelling adds. -/
structure Below (tree : FileTree) (path : Path) (location : List String) (found : Path)
    (names : List String) : Prop where
  walked : tree.walk found = .ok (location ++ names)
  spelled : found.front = path.front ++ names.map .name

/-- A path is below itself. -/
theorem Below.itself (walked : tree.walk path = .ok location) :
    Below tree path location path [] where
  walked := by rw [List.append_nil, walked]
  spelled := by rw [List.map_nil, List.append_nil]

/-- What is below a path that is below another is below the other. -/
theorem Below.trans {middle found : Path} {names further : List String}
    (first : Below tree path location middle names)
    (second : Below tree middle (location ++ names) found further) :
    Below tree path location found (names ++ further) where
  walked := by rw [← List.append_assoc, second.walked]
  spelled := by rw [second.spelled, first.spelled, List.map_append, List.append_assoc]

/-- An idle piece leads to a path at the same location. -/
theorem Below.idle (walked : tree.walk path = .ok location) {piece : String}
    (idle : isIdle piece = true) {next : List String}
    (step : tree.follow location piece = .ok next) :
    Below tree path location (entryPath path piece) [] where
  walked := by
    obtain ⟨entries, folder⟩ := FileTree.follow_ok_folder step
    rw [walk_entryPath walked, FileTree.follow_idle folder idle, List.append_nil]
  spelled := by
    rw [front_entryPath_of_idle path idle, List.map_nil, List.append_nil]

/-- The path of an entry is below that of its folder. -/
theorem Below.entry (walked : tree.walk path = .ok location) {name : String}
    (busy : isIdle name = false) (inner : name ≠ "..")
    (step : tree.follow location name = .ok (location ++ [name])) :
    Below tree path location (entryPath path name) [name] where
  walked := by rw [walk_entryPath walked, step]
  spelled := front_entryPath_of_busy path busy inner

/-- The path that proper names lead to is below the folder that they start from. -/
theorem Below.of_proper (walked : tree.walk path = .ok location) {names : List String}
    (proper : ∀ name ∈ names, ProperName name) {node : Node}
    (found : tree.top.at? (location ++ names) = some node) :
    Below tree path location (names.foldl entryPath path) names := by
  induction names generalizing path location with
  | nil => exact .itself walked
  | cons name names ih =>
    obtain ⟨properName, properNames⟩ := List.forall_mem_cons.1 proper
    have whole : location ++ name :: names = (location ++ [name]) ++ names := by simp
    rw [whole] at found
    obtain ⟨inner, there, _⟩ := Node.at?_append_eq_some_iff.1 found
    have step := FileTree.follow_of_proper properName (by rw [there]; rfl)
    have first := Below.entry walked properName.busy properName.inner step
    exact first.trans (ih first.walked properNames found)

/-- The paths of entries are below the folder that they are in. -/
theorem Below.entries (lawful : tree.top.Lawful) (walked : tree.walk path = .ok location)
    {names : List String} {node : Node} (found : tree.top.at? (location ++ names) = some node) :
    Below tree path location (names.foldl entryPath path) names := by
  have proper := (lawful.descend found).2
  exact .of_proper walked (fun name inside => proper name (List.mem_append_right _ inside)) found

/-- The path of an entry of a lawful folder is below that of the folder. -/
theorem Below.of_mem (lawful : tree.top.Lawful) (walked : tree.walk path = .ok location)
    {entries : List (String × Node)} (folder : tree.top.at? location = some (.folder entries))
    {name : String} {node : Node} (entry : (name, node) ∈ entries) :
    Below tree path location (entryPath path name) [name] := by
  have lawfulFolder := (lawful.descend folder).1
  have inside : tree.top.at? (location ++ [name]) = some node := by
    rw [Node.at?_snoc, folder]
    exact lawfulFolder.lookup_of_mem entry
  exact .entries lawful walked inside

/-- A file below a folder is not the folder. -/
theorem Below.ne_nil {found : Path} {names : List String}
    (below : Below tree path location found names) {entries : List (String × Node)}
    (folder : tree.top.at? location = some (.folder entries))
    (file : tree.isFile found = true) : names ≠ [] := by
  rintro rfl
  have itself := below.walked
  rw [List.append_nil] at itself
  rw [FileTree.isFile_of_folder itself folder] at file
  contradiction

/-- What is found below a path in the tree: the path of an entry, its name and its node. -/
theorem Below.of_mem_belowPath (lawful : tree.top.Lawful) (walked : tree.walk path = .ok location)
    {found : Path} {name : String} {node : Node}
    (listed : (found, name, node) ∈ belowPath tree path) :
    ∃ names, Below tree path location found (names ++ [name]) ∧
      tree.top.at? (location ++ (names ++ [name])) = some node := by
  unfold belowPath at listed
  cases there : tree.node? path with
  | none => simp [there] at listed
  | some start =>
    rw [there] at listed
    have started := FileTree.at?_of_node? walked there
    obtain ⟨names, spelled, inner⟩ :=
      at?_of_mem_below (lawful.descend started).1 listed
    have whole : tree.top.at? (location ++ (names ++ [name])) = some node :=
      Node.at?_append_eq_some_iff.2 ⟨start, started, inner⟩
    rw [spelled]
    exact ⟨names, .entries lawful walked whole, whole⟩

/-- Every file that the search for parts finds is below the folder that it starts from, and the
parts match it. -/
theorem expandParts_sound (lawful : tree.top.Lawful) {parts : List Part}
    (level : ∀ part ∈ parts, part.StaysBelow) (walked : tree.walk path = .ok location)
    {found : Path} (listed : found ∈ expandParts tree parts path)
    (file : tree.isFile found = true) :
    ∃ names, MatchesFile parts names ∧ Below tree path location found names := by
  fun_induction expandParts tree parts path generalizing location with
  | case1 path =>
    rw [List.mem_singleton.1 listed]
    exact ⟨[], .done, .itself walked⟩
  | case2 name parts path on ih =>
    obtain ⟨inner, others⟩ := List.forall_mem_cons.1 level
    obtain ⟨next, step⟩ := exists_follow_of_leadsOn walked on
    rcases FileTree.follow_ok_cases step inner with ⟨idle, _⟩ | ⟨busy, reached, _⟩
    · -- The file is not the folder that the piece stays in.
      have still := Below.idle walked idle step
      obtain ⟨entries, folder⟩ := FileTree.follow_ok_folder step
      obtain ⟨names, matched, below⟩ := ih others still.walked listed
      have whole := still.trans below
      exact ⟨names, .stay idle (whole.ne_nil folder file) matched, whole⟩
    · rw [reached] at step
      have first := Below.entry walked busy inner step
      obtain ⟨names, matched, below⟩ := ih others first.walked listed
      exact ⟨name :: names, .entry (by simp) rfl matched, first.trans below⟩
  | case3 name parts path off => contradiction
  | case4 tokens parts path entries there _ ih =>
    obtain ⟨undotted, others⟩ := List.forall_mem_cons.1 level
    have none : dotEntries tokens = [] := undotted
    rw [none, List.flatMap_nil, List.nil_append] at listed
    obtain ⟨⟨name, node⟩, entry, listed⟩ := List.mem_flatMap.1 listed
    dsimp only at listed
    split at listed
    · rename_i admitted
      have folder := FileTree.at?_of_node? walked there
      have first := Below.of_mem lawful walked folder entry
      obtain ⟨names, matched, below⟩ := ih name others first.walked listed
      exact ⟨name :: names, .entry (by simp) (matchesName_iff.1 admitted) matched,
        first.trans below⟩
    · contradiction
  | case5 tokens parts path none => contradiction
  | case6 path =>
    -- Two stars at the end lead to folders only.
    obtain ⟨⟨spelled, name, node⟩, inside, kept⟩ := List.mem_filterMap.1 listed
    cases node with
    | file bytes => simp [Node.isFolder] at kept
    | folder entries =>
      have same : spelled = found := by simpa [Node.isFolder] using kept
      obtain ⟨names, below, folder⟩ := Below.of_mem_belowPath lawful walked inside
      rw [same] at below
      rw [FileTree.isFile_of_folder below.walked folder] at file
      contradiction
  | case7 part parts path ih =>
    have others := (List.forall_mem_cons.1 (List.forall_mem_cons.1 level).2).2
    obtain ⟨⟨spelled, name, node⟩, inside, listed⟩ := List.mem_flatMap.1 listed
    dsimp only at listed
    split at listed
    · rename_i admitted
      obtain ⟨between, first, _⟩ := Below.of_mem_belowPath lawful walked inside
      obtain ⟨names, matched, below⟩ := ih spelled others first.walked listed
      have whole := first.trans below
      rw [List.append_assoc] at whole
      exact ⟨between ++ name :: names, .folders (Part.admits_iff.1 admitted) matched, whole⟩
    · contradiction

/-- The bytes that an idle piece has as a part of a pattern, with a separator. -/
def Part.idleBytes : Part → Nat
  | .name piece => if isIdle piece then piece.utf8ByteSize + 1 else 0
  | _ => 0

/-- The bytes that the idle pieces of a pattern have. -/
def idleBytes (parts : List Part) : Nat := (parts.map Part.idleBytes).sum

/-- The bytes of the idle pieces behind another part. -/
theorem idleBytes_le_cons (part : Part) (parts : List Part) :
    idleBytes parts ≤ idleBytes (part :: parts) := by
  simp [idleBytes]

/-- The bytes of an idle piece before others. -/
theorem idleBytes_cons {piece : String} (idle : isIdle piece = true) (parts : List Part) :
    idleBytes (.name piece :: parts) = piece.utf8ByteSize + 1 + idleBytes parts := by
  simp [idleBytes, Part.idleBytes, idle]

/-- Parts are hollow in front when they start with an empty piece, perhaps behind dots. -/
def HollowFront (parts : List Part) : Prop :=
  (parts.dropWhile (· = .name ".")).head? = some (.name "")

instance (parts : List Part) : Decidable (HollowFront parts) :=
  inferInstanceAs (Decidable (_ = _))

/-- The search can go on from a path with parts: from the working folder it cannot follow an
empty piece, since it has left out the dot before it. -/
def Solid (path : Path) (parts : List Part) : Prop :=
  path.front = [] → ¬ HollowFront parts

/-- From a path with a front the search can always go on. -/
theorem Solid.of_front {parts : List Part} (given : path.front ≠ []) : Solid path parts := by
  intro none
  exact absurd none given

/-- The search can go on behind a name. -/
theorem Solid.step {name : String} {parts : List Part}
    (solid : Solid path (.name name :: parts)) : Solid (entryPath path name) parts := by
  intro none hollow
  rw [front_entryPath] at none
  have both := List.append_eq_nil_iff.1 none
  by_cases dots : name = "" ∨ name = "."
  · rcases dots with rfl | rfl
    · exact solid both.1 rfl
    · exact solid both.1 hollow
  · have later := both.2
    unfold Component.ofLater? at later
    rw [if_neg dots] at later
    split at later <;> contradiction

/-- A name that the search can go on with is not empty, or stands behind a front. -/
theorem Solid.given {name : String} {parts : List Part}
    (solid : Solid path (.name name :: parts)) : name ≠ "" ∨ path.front ≠ [] := by
  by_cases front : path.front = []
  · left
    rintro rfl
    exact solid front rfl
  · exact .inr front

/-- From a path below another the search can always go on. -/
theorem Below.solid {found : Path} {names : List String} {parts : List Part}
    (below : Below tree path location found names) (given : names ≠ []) : Solid found parts := by
  apply Solid.of_front
  rw [below.spelled]
  simp [given]

namespace At

/-- A name that can be followed leads on from a path with room for it. -/
theorem leadsOn {name : String} {spare : Nat}
    (here : At tree path location (name.utf8ByteSize + 1 + spare)) {next : List String}
    (step : tree.follow location name = .ok next) (clean : '\x00' ∉ name.toList)
    (given : name ≠ "" ∨ path.front ≠ []) : leadsOn tree path name = true := by
  obtain ⟨entries, folder⟩ := FileTree.follow_ok_folder step
  unfold Glob.leadsOn
  split
  · unfold FileTree.isFolder
    rw [here.node?_eq, folder]
    rfl
  · rename_i undotted
    have inner : name ≠ ".." := by
      intro up
      exact undotted (.inr up)
    have there : (tree.top.at? next).isSome = true := by
      rcases FileTree.follow_ok_cases step inner with ⟨_, still⟩ | ⟨_, _, found⟩
      · rw [still, folder]
        rfl
      · exact found
    exact FileTree.holds_iff.2 ⟨next, (here.step step clean given).locate, there⟩

end At

/-- What the search finds from an entry that a part admits it finds from the folder. -/
theorem mem_expandParts_of_entry {part : Part} {parts : List Part} {name : String} {spare : Nat}
    (here : At tree path location (name.utf8ByteSize + 1 + spare)) (proper : ProperName name)
    {node : Node} (inner : tree.top.at? (location ++ [name]) = some node)
    (single : part ≠ .folders) (admitted : part.Admits name) {found : Path}
    (listed : found ∈ expandParts tree parts (entryPath path name)) :
    found ∈ expandParts tree (part :: parts) path := by
  have step := FileTree.follow_of_proper proper (by rw [inner]; rfl)
  cases part with
  | name wanted =>
    have same : name = wanted := admitted
    rw [← same, expandParts, if_pos (here.leadsOn step proper.clean (.inl proper.given))]
    exact listed
  | wild tokens =>
    obtain ⟨entries, folder⟩ := FileTree.follow_ok_folder step
    rw [Node.at?_snoc, folder] at inner
    have entry : (name, node) ∈ entries := Node.mem_of_lookup inner
    rw [expandParts, here.node?_eq, folder]
    refine List.mem_append_right _ (List.mem_flatMap.2 ⟨(name, node), entry, ?_⟩)
    dsimp only
    rw [if_pos (matchesName_iff.2 admitted)]
    exact listed
  | folders => contradiction

/-- What the search finds from an entry anywhere below a folder it finds from the folder behind
two stars. -/
theorem mem_expandParts_of_folders {part : Part} {parts : List Part} {between : List String}
    {name : String} {spare : Nat} (here : At tree path location spare) {node : Node}
    (inner : tree.top.at? (location ++ (between ++ [name])) = some node)
    (admitted : part.Admits name) {found : Path}
    (listed : found ∈ expandParts tree parts ((between ++ [name]).foldl entryPath path)) :
    found ∈ expandParts tree (.folders :: part :: parts) path := by
  obtain ⟨start, started, onward⟩ := Node.at?_append_eq_some_iff.1 inner
  rw [expandParts, belowPath, here.node?_eq, started]
  refine List.mem_flatMap.2 ⟨_, mem_below_of_at? onward, ?_⟩
  dsimp only
  rw [if_pos (Part.admits_iff.2 admitted)]
  exact listed

/-- Every file below a folder that parts match is found by the search for them, if its spelling
with the idle pieces of the parts is short enough. -/
theorem expandParts_complete (lawful : tree.top.Lawful) {parts : List Part}
    {names : List String} (matched : MatchesFile parts names)
    (here : At tree path location (idleBytes parts + spelling names))
    (solid : Solid path parts) {bytes : ByteArray}
    (file : tree.top.at? (location ++ names) = some (.file bytes)) :
    ∃ found ∈ expandParts tree parts path, tree.locate found = .ok (location ++ names) := by
  induction matched generalizing path location with
  | done =>
    rw [List.append_nil]
    exact ⟨path, List.mem_singleton_self path, here.locate⟩
  | @stay piece parts names idle inFolder onward ih =>
    obtain ⟨entries, folder⟩ := Node.at?_prefix file inFolder
    have step := FileTree.follow_idle folder idle
    have dots : piece = "" ∨ piece = "." := by simpa [isIdle] using idle
    have clean : '\x00' ∉ piece.toList := by
      rcases dots with rfl | rfl <;> decide
    rw [idleBytes_cons idle, Nat.add_assoc] at here
    have next := here.step step clean solid.given
    obtain ⟨found, listed, led⟩ := ih next solid.step file
    refine ⟨found, ?_, led⟩
    rw [expandParts, if_pos (here.leadsOn step clean solid.given)]
    exact listed
  | @entry part parts name names single admitted onward ih =>
    have proper : ProperName name := (lawful.descend file).2 name (by simp)
    have whole : location ++ name :: names = (location ++ [name]) ++ names := by simp
    rw [whole] at file ⊢
    obtain ⟨node, inner, _⟩ := Node.at?_append_eq_some_iff.1 file
    have fewer := idleBytes_le_cons part parts
    rw [spelling_cons] at here
    have room : At tree path location
        (name.utf8ByteSize + 1 + (idleBytes parts + spelling names)) := here.less (by omega)
    have below : Below tree path location (entryPath path name) [name] :=
      .entries lawful here.walked inner
    have step := FileTree.follow_of_proper proper (by rw [inner]; rfl)
    have next := room.step step proper.clean (.inl proper.given)
    obtain ⟨found, listed, led⟩ := ih next (below.solid (by simp)) file
    exact ⟨found, mem_expandParts_of_entry room proper inner single admitted listed, led⟩
  | @folders between part parts name names admitted onward ih =>
    have whole : location ++ (between ++ name :: names) =
        (location ++ (between ++ [name])) ++ names := by simp
    have cost : spelling (between ++ name :: names) =
        spelling (between ++ [name]) + spelling names := by
      rw [← spelling_append]
      simp
    rw [whole] at file ⊢
    obtain ⟨node, inner, _⟩ := Node.at?_append_eq_some_iff.1 file
    have fewer : idleBytes parts ≤ idleBytes (.folders :: part :: parts) :=
      Nat.le_trans (idleBytes_le_cons part parts) (idleBytes_le_cons _ _)
    rw [cost] at here
    have room : At tree path location
        (spelling (between ++ [name]) + (idleBytes parts + spelling names)) :=
      here.less (by omega)
    have below := Below.entries lawful here.walked inner
    obtain ⟨found, listed, led⟩ :=
      ih (room.steps lawful inner) (below.solid (by simp)) file
    exact ⟨found, mem_expandParts_of_folders here inner admitted listed, led⟩

/-- Names without wildcards lead the search to one path only. -/
theorem mem_expandParts_of_names {names : List String} {parts : List Part} {found : Path}
    (listed : found ∈ expandParts tree (names.map .name ++ parts) path) :
    found ∈ expandParts tree parts (names.foldl entryPath path) := by
  induction names generalizing path with
  | nil => exact listed
  | cons name names ih =>
    rw [List.map_cons, List.cons_append, expandParts] at listed
    split at listed
    · exact ih listed
    · contradiction

/-- That path is walked to where the names lead. -/
theorem walk_names (walked : tree.walk path = .ok location) {names next : List String}
    (led : names.foldlM tree.follow location = .ok next) :
    tree.walk (names.foldl entryPath path) = .ok next := by
  induction names generalizing path location with
  | nil =>
    rw [List.foldl_nil, walked]
    exact led
  | cons name names ih =>
    rw [List.foldlM_cons] at led
    obtain ⟨middle, step, onward⟩ := bind_eq_ok_iff.1 led
    have first : tree.walk (entryPath path name) = .ok middle := by
      rw [walk_entryPath walked, step]
    exact ih first onward

/-- The search comes to the end of names that can be followed, from a path with room for them,
and can go on there. -/
theorem At.names {names next : List String} {parts : List Part} {spare : Nat}
    (here : At tree path location (spelling names + spare))
    (led : names.foldlM tree.follow location = .ok next)
    (clean : ∀ name ∈ names, '\x00' ∉ name.toList)
    (solid : Solid path (names.map .name ++ parts)) :
    expandParts tree (names.map .name ++ parts) path =
        expandParts tree parts (names.foldl entryPath path) ∧
      At tree (names.foldl entryPath path) next spare ∧
      Solid (names.foldl entryPath path) parts := by
  induction names generalizing path location with
  | nil =>
    have same : location = next := Except.ok.inj led
    refine ⟨rfl, ?_, solid⟩
    rw [← same]
    exact here.less (Nat.le_add_left spare _)
  | cons name names ih =>
    rw [List.foldlM_cons] at led
    obtain ⟨middle, step, onward⟩ := bind_eq_ok_iff.1 led
    rw [spelling_cons, Nat.add_assoc] at here
    have cleanName := clean name List.mem_cons_self
    have cleanOthers : ∀ other ∈ names, '\x00' ∉ other.toList := by
      intro other inside
      exact clean other (List.mem_cons_of_mem name inside)
    have first := here.step step cleanName solid.given
    obtain ⟨same, there, onSolid⟩ := ih first onward cleanOthers solid.step
    refine ⟨?_, there, onSolid⟩
    rw [List.map_cons, List.cons_append, expandParts,
      if_pos (here.leadsOn step cleanName solid.given)]
    exact same

end SarifDigest.Glob
