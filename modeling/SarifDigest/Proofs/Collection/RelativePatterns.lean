import SarifDigest.Proofs.Collection.Accounting
import SarifDigest.Proofs.Glob.Expansion
import SarifDigest.Proofs.Glob.Syntax
import SarifDigest.Proofs.Ordered.Representatives

/-!
# Patterns below a root

A relative pattern leads to the files below the root that it matches, and to no others, when the
root is spelled without wildcards: then the root stands for itself in the joined pattern. A root
whose name has wildcards is not looked into, or others are in its place, or the joined text is
no pattern at all.
-/
namespace SarifDigest

open Glob

namespace Path

/-- The bytes of the pieces of a path, each with a separator. -/
theorem spelling_pieces (path : Path) : spelling path.pieces = path.bytes + 1 := by
  rw [pieces, spelling_cons]
  unfold bytes spelling
  omega

/-- Fewer names have no more bytes. -/
theorem spelling_le_of_sublist {names others : List String} (fewer : names.Sublist others) :
    spelling names ≤ spelling others :=
  (fewer.map _).sum_le_sum fun size _ => Nat.zero_le size

/-- The labels of a path have no more bytes than its pieces. -/
theorem spelling_labels_le (path : Path) : spelling path.labels ≤ path.bytes + 1 := by
  have sublist := dropEndEmpty_sublist path.rest
  rw [← spelling_pieces]
  unfold labels
  split
  · exact spelling_le_of_sublist (sublist.cons _)
  · exact spelling_le_of_sublist (sublist.cons_cons _)

/-- Where the search for what is joined to a path starts. -/
def origin (path : Path) : Path := if path.isAbsolute then top else here

end Path

namespace Glob

open SarifDigest.Path

/-- A part that is read from a piece has no more bytes as an idle piece than the piece has. -/
theorem idleBytes_le_of_readPiece {piece : String} {part : Part}
    (read : readPiece piece = .ok part) : part.idleBytes ≤ piece.utf8ByteSize + 1 := by
  cases part with
  | wild tokens => exact Nat.zero_le _
  | folders => exact Nat.zero_le _
  | name label =>
    unfold Part.idleBytes
    dsimp only
    split
    · rename_i idle
      have dots : label = "" ∨ label = "." := by simpa [isIdle] using idle
      rcases dots with rfl | rfl
      · have zero : ("" : String).utf8ByteSize = 0 := by decide
        omega
      · have given : piece ≠ "" := by
          rintro rfl
          have alone : readPiece "" = .ok (.name "") := by
            rw [readPiece, tokensOf_of_plain (by simp)]
            rfl
          rw [alone] at read
          simp at read
        have positive : piece.utf8ByteSize ≠ 0 := by simpa using given
        have single : ("." : String).utf8ByteSize = 1 := by decide
        omega
    · exact Nat.zero_le _

/-- The idle pieces of a pattern are among its pieces. -/
theorem idleBytes_le_spelling {pieces : List String} {parts : List Part}
    (read : List.Forall₂ (fun piece part => readPiece piece = .ok part) pieces parts) :
    idleBytes parts ≤ spelling pieces := by
  induction read with
  | nil => exact Nat.le_refl _
  | @cons piece part pieces parts first _ ih =>
    have least := idleBytes_le_of_readPiece first
    rw [spelling_cons]
    simp only [idleBytes, List.map_cons, List.sum_cons] at ih ⊢
    omega

/-- Every part of a pattern is read from a piece. -/
theorem exists_readPiece {pieces : List String} {parts : List Part}
    (read : List.Forall₂ (fun piece part => readPiece piece = .ok part) pieces parts)
    {part : Part} (inside : part ∈ parts) : ∃ piece, readPiece piece = .ok part := by
  induction read with
  | nil => contradiction
  | cons first _ ih =>
    rcases List.mem_cons.1 inside with rfl | inside
    · exact ⟨_, first⟩
    · exact ih inside

/-- The parts of a pattern stay below the folder that they are looked for in, unless the pattern
leads up. -/
theorem staysBelow_of_level {path : Path} {pattern : Pattern}
    (read : Pattern.ofPath path = .ok pattern) (level : ¬ pattern.LeadsUp) :
    ∀ part ∈ pattern.parts, part.StaysBelow := by
  obtain ⟨_, parts, _, pieces, rfl⟩ := ofPath_eq_ok_iff.1 read
  intro part inside
  have levelPart : ¬ part.LeadsUp := by
    intro up
    exact level ⟨part, inside, up⟩
  cases part with
  | name label => exact levelPart
  | folders => trivial
  | wild tokens =>
    have among := (collapse_sublist parts).mem inside
    obtain ⟨piece, first⟩ := exists_readPiece (forall₂_readPiece pieces) among
    obtain ⟨all, _, made⟩ := map_eq_ok_iff.1 first
    exact dotEntries_eq_nil (Part.fixedName?_of_ofTokens made).2 levelPart

/-- The idle pieces of a relative pattern have no more bytes than all its pieces. -/
theorem idleBytes_le_of_ofPath {path : Path} (relative : path.isAbsolute = false)
    (given : path.isEmpty = false) {pattern : Pattern}
    (read : Pattern.ofPath path = .ok pattern) : idleBytes pattern.parts ≤ path.bytes + 1 := by
  obtain ⟨_, parts, _, pieces, rfl⟩ := ofPath_eq_ok_iff.1 read
  have among := idleBytes_le_spelling (forall₂_readPiece pieces)
  have fewer : spelling (patternPieces path) ≤ spelling path.pieces := by
    rw [patternPieces_of_relative relative given]
    exact spelling_le_of_sublist (dropEndEmpty_sublist path.pieces)
  calc
    idleBytes (Part.collapse parts) ≤ idleBytes parts :=
      ((collapse_sublist parts).map _).sum_le_sum fun size _ => Nat.zero_le size
    _ ≤ spelling (patternPieces path) := among
    _ ≤ spelling path.pieces := fewer
    _ = path.bytes + 1 := spelling_pieces path

end Glob

namespace FileTree

variable {tree : FileTree} {root : Path} {location : List String}

/-- A path that is walked is walked from a folder. -/
theorem base_folder (walked : tree.walk root = .ok location) :
    ∃ entries, tree.top.at? (tree.base root) = some (.folder entries) := by
  rw [walk, Path.pieces, List.foldlM_cons] at walked
  obtain ⟨middle, start, _⟩ := bind_eq_ok_iff.1 walked
  exact follow_ok_folder start

/-- From there the labels of the path lead where the path does. -/
theorem foldlM_labels (walked : tree.walk root = .ok location) (nonempty : root.isEmpty = false) :
    root.labels.foldlM tree.follow (tree.base root) = .ok location := by
  obtain ⟨first, rest⟩ := root
  unfold Path.labels
  cases absolute : (Path.mk first rest).isAbsolute with
  | true =>
    have parts : first = "" ∧ rest ≠ [] := by simpa [Path.isAbsolute] using absolute
    rw [parts.1, walk_absolute parts.2] at walked
    rw [if_pos rfl, base, if_pos absolute]
    exact foldlM_dropEndEmpty walked
  | false =>
    rw [walk, Path.pieces, List.foldlM_cons] at walked
    obtain ⟨middle, start, onward⟩ := bind_eq_ok_iff.1 walked
    rw [if_neg (by simp), List.foldlM_cons]
    exact bind_eq_ok_iff.2 ⟨middle, start, foldlM_dropEndEmpty onward⟩

/-- The search starts where the path is walked from, with almost all bytes to spare. -/
theorem at_origin (walked : tree.walk root = .ok location) :
    Glob.At tree root.origin (tree.base root) (pathLimit - 1) := by
  obtain ⟨entries, folder⟩ := base_folder walked
  have based : tree.base root.origin = tree.base root := by
    unfold Path.origin base
    cases root.isAbsolute <;> rfl
  have idle : ∀ piece ∈ root.origin.pieces, Path.isIdle piece = true := by
    unfold Path.origin
    cases root.isAbsolute <;> decide
  constructor
  · rw [walk, based]
    exact foldlM_of_idle folder idle
  all_goals
    unfold Path.origin
    cases root.isAbsolute <;> decide

/-- A pattern is resolved below a folder, where a root leads: it is no failure, it leads to the
files below the folder that it matches, as far as their spellings have room, and to no others,
and to each of them once. -/
structure ResolvesBelow (tree : FileTree) (root : Path) (location : List String)
    (pattern : String) (read : Pattern) : Prop where
  noFailure : patternFailures root [pattern] = []
  sound : ∀ target ∈ (targets tree root [pattern]).toList, ∃ names,
    tree.locate target = .ok (location ++ names) ∧ tree.isFile target = true ∧
      read.MatchesFile names
  complete : ∀ names bytes, tree.top.at? (location ++ names) = some (.file bytes) →
    read.MatchesFile names →
    root.text.utf8ByteSize + pattern.utf8ByteSize + Path.spelling names + 3 ≤ pathLimit →
    ∃ target ∈ (targets tree root [pattern]).toList,
      tree.locate target = .ok (location ++ names)
  once : ∀ target ∈ (targets tree root [pattern]).toList,
    ∀ other ∈ (targets tree root [pattern]).toList,
      tree.locate target = tree.locate other → target = other

section Relative

variable {pattern : String} {read : Pattern}

/-- A text is refused below a root when it is no pattern, or when it is relative and the root is
none. -/
theorem isMalformed_iff (separated : root.Separated) :
    isMalformed root pattern = true ↔ ¬ WellFormed (.ofText pattern) ∨
      (Path.ofText pattern).isAbsolute = false ∧ ¬ WellFormed root := by
  have refused : isMalformed root pattern = true ↔
      ¬ ∃ read, patternBelow root pattern = .ok read := by
    unfold isMalformed
    cases patternBelow root pattern <;> simp [Except.isOk, Except.toBool]
  have read := exists_ofPath_join_iff separated (Path.separated_ofText pattern)
  rw [refused, patternBelow, read, not_and_or, not_or, Bool.not_eq_true]

/-- Below a root without wildcards the texts that are no patterns are refused, and no others. -/
theorem isMalformed_iff_of_plain (plain : root.Plain) (separated : root.Separated) :
    isMalformed root pattern = true ↔ ¬ WellFormed (.ofText pattern) := by
  rw [isMalformed_iff separated]
  simp [wellFormed_of_plain plain separated]

/-- The joined pattern is read: as the empty pattern, which asks for folders, or as the names of
the root and the parts of the pattern. -/
theorem patternBelow_cases (nonempty : root.isEmpty = false) (plain : root.Plain)
    (relative : (Path.ofText pattern).isAbsolute = false)
    (valid : Pattern.ofPath (.ofText pattern) = .ok read) :
    ∃ joined, patternBelow root pattern = .ok joined ∧
      (joined.foldersOnly = true ∧ (Path.ofText pattern).isEmpty = true ∨
        (Path.ofText pattern).isEmpty = false ∧
        joined = ⟨root.isAbsolute, root.labels.map .name ++ read.parts, read.foldersOnly⟩) := by
  unfold patternBelow
  cases empty : (Path.ofText pattern).isEmpty with
  | true =>
    obtain ⟨joined, joinedRead, folders⟩ := ofPath_join_empty nonempty plain empty
    exact ⟨joined, joinedRead, .inl ⟨folders, rfl⟩⟩
  | false => exact ⟨_, ofPath_join nonempty relative plain empty valid, .inr ⟨rfl, rfl⟩⟩

/-- What a relative pattern leads to is below the root, and the pattern matches it. -/
theorem below_of_mem_matchedFiles (lawful : tree.top.Lawful)
    (walked : tree.walk root = .ok location) (nonempty : root.isEmpty = false)
    (plain : root.Plain) (relative : (Path.ofText pattern).isAbsolute = false)
    (valid : Pattern.ofPath (.ofText pattern) = .ok read) (level : ¬ read.LeadsUp)
    {target : Path} (listed : target ∈ matchedFiles tree root pattern) :
    tree.isFile target = true ∧ ∃ names, read.MatchesFile names ∧
      Below tree (root.labels.foldl entryPath root.origin) location target names := by
  obtain ⟨joined, joinedRead, cases⟩ := patternBelow_cases nonempty plain relative valid
  unfold matchedFiles at listed
  rw [joinedRead] at listed
  obtain ⟨expanded, file⟩ := List.mem_filter.1 listed
  refine ⟨file, ?_⟩
  obtain ⟨among, kept⟩ := List.mem_filter.1 expanded
  rw [isFolder_of_isFile file, Bool.or_false] at kept
  have anything : joined.foldersOnly = false := by simpa using kept
  rcases cases with ⟨folders, _⟩ | ⟨_, rfl⟩
  · rw [folders] at anything
    contradiction
  · have started := (at_origin walked).walked
    have led := walk_names started (foldlM_labels walked nonempty)
    have onward := mem_expandParts_of_names among
    have stays := staysBelow_of_level valid level
    obtain ⟨names, matched, below⟩ := expandParts_sound lawful stays led onward file
    exact ⟨names, ⟨anything, matched⟩, below⟩

/-- The empty pattern matches no file. -/
theorem not_matchesFile_empty (lawful : tree.top.Lawful)
    (empty : (Path.ofText pattern).isEmpty = true)
    (valid : Pattern.ofPath (.ofText pattern) = .ok read) {names : List String}
    {bytes : ByteArray} (file : tree.top.at? (location ++ names) = some (.file bytes)) :
    ¬ read.MatchesFile names := by
  have alone : Pattern.ofPath (.ofPiece "") = .ok ⟨false, [.name ""], false⟩ := by
    decide +kernel
  rw [Path.isEmpty_iff.1 empty, alone] at valid
  have same := Except.ok.inj valid
  intro matched
  have parts : MatchesFile [.name ""] names := by
    rw [← same] at matched
    exact matched.2
  cases parts with
  | stay _ inFolder onward =>
    cases onward
    contradiction
  | @entry _ _ name names _ admitted onward =>
    have proper : ProperName name := (lawful.descend file).2 name (by simp)
    exact proper.given admitted

/-- A file below the root that a relative pattern matches is among what the pattern leads to, if
its spelling has room. -/
theorem exists_mem_matchedFiles (lawful : tree.top.Lawful)
    (walked : tree.walk root = .ok location) (nonempty : root.isEmpty = false)
    (clean : ∀ piece ∈ root.pieces, '\x00' ∉ piece.toList)
    (plain : root.Plain) (relative : (Path.ofText pattern).isAbsolute = false)
    (valid : Pattern.ofPath (.ofText pattern) = .ok read)
    (solid : root.isAbsolute = false →
      ¬ HollowFront (root.labels.map .name ++ read.parts))
    {names : List String} {bytes : ByteArray}
    (file : tree.top.at? (location ++ names) = some (.file bytes))
    (matched : read.MatchesFile names)
    (room : root.text.utf8ByteSize + pattern.utf8ByteSize + Path.spelling names + 3 ≤ pathLimit) :
    ∃ target ∈ matchedFiles tree root pattern, tree.locate target = .ok (location ++ names) := by
  obtain ⟨joined, joinedRead, cases⟩ := patternBelow_cases nonempty plain relative valid
  rcases cases with ⟨_, empty⟩ | ⟨given, whole⟩
  · exact absurd matched (not_matchesFile_empty lawful empty valid file)
  · have solidStart : Solid root.origin (root.labels.map .name ++ read.parts) := by
      unfold Path.origin
      cases absolute : root.isAbsolute with
      | true => exact .of_front (by decide)
      | false =>
        intro _
        exact solid absolute
    have bytesRoot := Path.utf8ByteSize_text root
    have bytesPattern := Path.utf8ByteSize_text (.ofText pattern)
    rw [Path.text_ofText] at bytesPattern
    have labels := Path.spelling_labels_le root
    have idle := idleBytes_le_of_ofPath relative given valid
    have start : Glob.At tree root.origin (tree.base root)
        (Path.spelling root.labels + (idleBytes read.parts + Path.spelling names)) :=
      (at_origin walked).less (by omega)
    have cleanLabels : ∀ label ∈ root.labels, '\x00' ∉ label.toList := by
      intro label inside
      exact clean label (Path.mem_pieces_of_mem_labels inside)
    obtain ⟨same, there, solidThere⟩ :=
      start.names (foldlM_labels walked nonempty) cleanLabels solidStart
    obtain ⟨found, listed, led⟩ :=
      expandParts_complete lawful matched.2 there solidThere file
    refine ⟨found, ?_, led⟩
    unfold matchedFiles
    rw [joinedRead, whole]
    refine List.mem_filter.2 ⟨List.mem_filter.2 ⟨?_, ?_⟩, isFile_of_locate led file⟩
    · rw [← same] at listed
      exact listed
    · rw [matched.1]
      rfl

/-- Relative patterns are resolved below a root that is spelled without wildcards, in a lawful
tree. The pattern may not lead up, and the search must be able to follow the joined pattern: not
if it starts with an empty piece behind nothing but dots. -/
theorem resolvesBelow_of_plain (lawful : tree.top.Lawful)
    (named : tree.locate root = .ok location) (folder : tree.isFolder root = true)
    (plain : root.Plain) (relative : (Path.ofText pattern).isAbsolute = false)
    (valid : Pattern.ofPath (.ofText pattern) = .ok read) (level : ¬ read.LeadsUp)
    (solid : root.isAbsolute = false →
      ¬ HollowFront (root.labels.map .name ++ read.parts)) :
    tree.ResolvesBelow root location pattern read := by
  have walked := walk_of_locate named
  obtain ⟨fits, nonempty⟩ := fits_of_locate named
  have clean := (Path.fits_iff.1 fits).1
  have matchedOf {target : Path} (inside : target ∈ (targets tree root [pattern]).toList) :
      target ∈ matchedFiles tree root pattern := by
    have among := OrderedSet.mem_of_mem_ofList inside
    simpa using among
  have belowOf {target : Path} (inside : target ∈ (targets tree root [pattern]).toList) :=
    below_of_mem_matchedFiles lawful walked nonempty plain relative valid level
      (matchedOf inside)
  constructor
  · obtain ⟨joined, joinedRead, _⟩ := patternBelow_cases nonempty plain relative valid
    simp [patternFailures, patternFailure?, joinedRead]
  · intro target inside
    obtain ⟨file, names, matched, below⟩ := belowOf inside
    exact ⟨names, locate_of_isFile below.walked file, file, matched⟩
  · intro names bytes file matched room
    obtain ⟨found, listed, led⟩ := exists_mem_matchedFiles lawful walked nonempty clean plain
      relative valid solid file matched room
    have given : found ∈ [pattern].flatMap (matchedFiles tree root) := by simpa using listed
    obtain ⟨target, inside, same⟩ := OrderedSet.exists_mem_ofList given
    obtain ⟨fileTarget, others, _, below⟩ := belowOf inside
    -- The one that is kept may be spelled differently, but leads to the same file.
    have place := place_of_walk (walk_of_locate led)
    rw [Path.compare_eq_iff.1 same, ← place_of_walk below.walked] at place
    refine ⟨target, inside, ?_⟩
    rw [place]
    exact locate_of_isFile below.walked fileTarget
  · intro target inside other insideOther sameLocation
    obtain ⟨file, names, _, below⟩ := belowOf inside
    obtain ⟨fileOther, others, _, belowOther⟩ := belowOf insideOther
    rw [locate_of_isFile below.walked file, locate_of_isFile belowOther.walked fileOther]
      at sameLocation
    have sameNames : names = others := List.append_cancel_left (Except.ok.inj sameLocation)
    obtain ⟨entries, there⟩ := folder_of_isFolder walked folder
    have given : names ≠ [] := below.ne_nil there file
    have front : target.front = other.front := by
      rw [below.spelled, belowOther.spelled, sameNames]
    have fronted : target.front ≠ [] := by
      rw [below.spelled]
      simp [given]
    have components : target.components = other.components := by
      rw [Path.components_of_front fronted, Path.components_of_front (front ▸ fronted), front]
    exact (targets tree root [pattern]).increasing.eq_of_compare inside insideOther
      (Path.compare_eq_iff.2 components)

end Relative

/-- A pattern that leads to a file elsewhere is not resolved below the folder. -/
theorem not_resolvesBelow_of_outside {pattern : String} {read : Pattern} {target : Path}
    {elsewhere : List String} (inside : target ∈ (targets tree root [pattern]).toList)
    (led : tree.locate target = .ok elsewhere) (outside : ¬ location <+: elsewhere) :
    ¬ tree.ResolvesBelow root location pattern read := by
  intro resolved
  obtain ⟨names, below, _⟩ := resolved.sound target inside
  rw [led] at below
  apply outside
  rw [Except.ok.inj below]
  exact List.prefix_append location names

/-- A file of two bytes. -/
def shortFile : Node := .file "\x7b\x7d".toUTF8

/-- A folder with one file. -/
def singleFolder : Node := .folder [("x.sarif", shortFile)]

/-- Two folders that are called by patterns, one of them by a pattern for the third. -/
def bracketTree : FileTree where
  top := .folder [
    ("a[b", singleFolder),
    ("a[b]", singleFolder),
    ("ab", .folder [
      ("c", .folder [("notes", shortFile), ("y.sarif", shortFile)]),
      ("x.sarif", shortFile)]),
    ("z.sarif", shortFile)]
  here := []

/-- Its names are proper and distinct. -/
theorem bracketTree_lawful : bracketTree.top.Lawful := by
  have file : shortFile.Lawful := .file
  have single : singleFolder.Lawful := .folder (by decide) (by decide) (by simp [file])
  have inner : (Node.folder [("notes", shortFile), ("y.sarif", shortFile)]).Lawful :=
    .folder (by decide) (by decide) (by simp [file])
  have double : (Node.folder [
      ("c", .folder [("notes", shortFile), ("y.sarif", shortFile)]),
      ("x.sarif", shortFile)]).Lawful :=
    .folder (by decide) (by decide) (by simp [file, inner])
  exact .folder (by decide) (by decide) (by simp [file, single, double])

/-- The tokens of a pattern for names with an ending. -/
def anyReport : List Token := .anyChars :: ".sarif".toList.map .char

/-- A pattern for the reports in a folder. -/
def reportsIn : Pattern := ⟨false, [.wild anyReport], false⟩

/-- A pattern for the reports in a folder and below. -/
def reportsBelow : Pattern := ⟨false, [.folders, .wild anyReport], false⟩

/-- A pattern for the reports in hidden folders, which the folder around matches too. -/
def reportsHidden : Pattern := ⟨false, [.wild [.char '.', .anyChars], .wild anyReport], false⟩

/-- Below the folder that is called by a plain name the pattern finds both reports. -/
theorem resolvesBelow_of_plain_nested :
    bracketTree.locate (.ofText "./ab/") = .ok ["ab"] ∧
    (Path.ofText "./ab/").Plain ∧
    Pattern.ofPath (.ofText "**/*.sarif") = .ok reportsBelow ∧ ¬ reportsBelow.LeadsUp ∧
    (targets bracketTree (.ofText "./ab/") ["**/*.sarif"]).toList =
      [.ofText "ab/c/y.sarif", .ofText "ab/x.sarif"] ∧
    bracketTree.ResolvesBelow (.ofText "./ab/") ["ab"] "**/*.sarif" reportsBelow := by
  have named : bracketTree.locate (.ofText "./ab/") = .ok ["ab"] := by decide +kernel
  have folder : bracketTree.isFolder (.ofText "./ab/") = true := by decide +kernel
  have plain : (Path.ofText "./ab/").Plain := by decide +kernel
  have relative : (Path.ofText "**/*.sarif").isAbsolute = false := by decide +kernel
  have valid : Pattern.ofPath (.ofText "**/*.sarif") = .ok reportsBelow := by decide +kernel
  have level : ¬ reportsBelow.LeadsUp := by decide +kernel
  have solid : (Path.ofText "./ab/").isAbsolute = false →
      ¬ HollowFront ((Path.ofText "./ab/").labels.map .name ++ reportsBelow.parts) := by
    decide +kernel
  refine ⟨named, plain, valid, level, by decide +kernel, ?_⟩
  exact resolvesBelow_of_plain bracketTree_lawful named folder plain relative valid level solid

/-- Below a root that is called by a pattern for another folder the files of that folder are
found, and below one that is no pattern nothing is. A plain root does not help a pattern that
matches the folder around, nor a root that starts with an empty piece behind a dot. -/
theorem not_resolvesBelow_bracketed :
    bracketTree.locate (.ofText "a[b]") = .ok ["a[b]"] ∧
    bracketTree.locate (.ofText "a[b") = .ok ["a[b"] ∧
    bracketTree.locate (.ofText ".//ab") = .ok ["ab"] ∧
    Pattern.ofPath (.ofText "*.sarif") = .ok reportsIn ∧ ¬ reportsIn.LeadsUp ∧
    Pattern.ofPath (.ofText ".*/*.sarif") = .ok reportsHidden ∧
    ¬ bracketTree.ResolvesBelow (.ofText "a[b]") ["a[b]"] "*.sarif" reportsIn ∧
    ¬ bracketTree.ResolvesBelow (.ofText "a[b") ["a[b"] "*.sarif" reportsIn ∧
    ¬ bracketTree.ResolvesBelow (.ofText "ab") ["ab"] ".*/*.sarif" reportsHidden ∧
    ¬ bracketTree.ResolvesBelow (.ofText ".//ab") ["ab"] "*.sarif" reportsIn := by
  refine ⟨by decide +kernel, by decide +kernel, by decide +kernel, by decide +kernel,
    by decide +kernel, by decide +kernel, ?_, ?_, ?_, ?_⟩
  · have found : Path.ofText "ab/x.sarif" ∈
        (targets bracketTree (.ofText "a[b]") ["*.sarif"]).toList := by decide +kernel
    have led : bracketTree.locate (.ofText "ab/x.sarif") = .ok ["ab", "x.sarif"] := by
      decide +kernel
    exact not_resolvesBelow_of_outside found led (by decide)
  · intro resolved
    have refused : patternFailures (.ofText "a[b") ["*.sarif"] ≠ [] := by decide +kernel
    exact refused resolved.noFailure
  · have found : Path.ofText "ab/../z.sarif" ∈
        (targets bracketTree (.ofText "ab") [".*/*.sarif"]).toList := by decide +kernel
    have led : bracketTree.locate (.ofText "ab/../z.sarif") = .ok ["z.sarif"] := by
      decide +kernel
    exact not_resolvesBelow_of_outside found led (by decide)
  · intro resolved
    have none : (targets bracketTree (.ofText ".//ab") ["*.sarif"]).toList = [] := by
      decide +kernel
    have covered : Covers anyReport "x.sarif".toList := by decide +kernel
    have matched : reportsIn.MatchesFile ["x.sarif"] :=
      ⟨rfl, .entry (by simp) covered .done⟩
    obtain ⟨target, inside, _⟩ := resolved.complete ["x.sarif"] _ rfl matched (by decide +kernel)
    rw [none] at inside
    contradiction

end FileTree

end SarifDigest
