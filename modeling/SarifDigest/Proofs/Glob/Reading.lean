import SarifDigest.Collection.Targets
import SarifDigest.Proofs.Files.Following
import SarifDigest.Proofs.Glob.Matching

/-!
# Reading patterns below a root

A root and a pattern are joined as texts and read as one pattern. When the root has none of the
characters that stand for others, its pieces are read as the names that they are and the rest
as the pattern would be alone: the text before a place matters only by whether a separator
stands right before it.
-/
namespace SarifDigest

namespace Text

/-- The pieces of a text with separators between them are the text. -/
theorem intercalate_pieces (text : List Char) :
    "/".intercalate
        (.ofList (pieces '/' text).1 :: (pieces '/' text).2.map .ofList) = .ofList text := by
  induction text with
  | nil => decide
  | cons c text ih =>
    by_cases here : c = '/'
    · have split : pieces '/' (c :: text) =
          ([], (pieces '/' text).1 :: (pieces '/' text).2) := by
        rw [pieces, here]
        rfl
      rw [split, List.map_cons, String.intercalate_cons_cons, ih, here]
      have separator : "/" = String.ofList ['/'] := by decide
      rw [separator, ← String.ofList_append, ← String.ofList_append]
      rfl
    · have longer : pieces '/' (c :: text) =
          (c :: (pieces '/' text).1, (pieces '/' text).2) := by
        simp [pieces, here]
      have first : String.ofList (c :: (pieces '/' text).1) =
          String.ofList [c] ++ String.ofList (pieces '/' text).1 := by
        rw [← String.ofList_append]
        rfl
      rw [longer, first, String.intercalate_cons_append, ih, ← String.ofList_append]
      rfl

end Text

namespace Path

/-- The path that a text spells is spelled by it. -/
theorem text_ofText (text : String) : (ofText text).text = text := by
  have spelled := Text.intercalate_pieces text.toList
  rw [String.ofList_toList] at spelled
  exact spelled

end Path

namespace Glob

/-- The characters that stand for others in a pattern. -/
def wildcards : List Char := ['*', '?', '[']

/-- Two texts before a place are alike when both or neither end with a separator or are empty. -/
def Alike (before other : List Char) : Prop :=
  before.head?.all (· = '/') = other.head?.all (· = '/')

/-- Texts that end with the same character are alike. -/
theorem Alike.cons {before other : List Char} (c : Char) : Alike (c :: before) (c :: other) :=
  rfl

/-- Texts that end with the same text are alike, unless it is empty. -/
theorem Alike.append {before other text : List Char} (given : text ≠ []) :
    Alike (text ++ before) (text ++ other) := by
  cases text with
  | nil => contradiction
  | cons c text => exact .cons c

/-- What is read behind a text is read behind every text that is alike. -/
theorem readTokens_ok_of_alike {before other text : List Char} (alike : Alike before other)
    {tokens : List Token} (read : readTokens before text = .ok tokens) :
    readTokens other text = .ok tokens := by
  fun_induction readTokens before text generalizing other tokens with
  | case1 before =>
    rw [readTokens]
    exact read
  | case2 before rest ih =>
    obtain ⟨others, onward, whole⟩ := map_eq_ok_iff.1 read
    rw [readTokens]
    exact map_eq_ok_iff.2 ⟨others, ih (.cons '?') onward, whole⟩
  | case3 => contradiction
  | case4 before alone _ =>
    rw [alike] at alone
    rw [readTokens, if_pos alone]
    exact read
  | case5 before alone rest _ ih =>
    rw [alike] at alone
    obtain ⟨others, onward, whole⟩ := map_eq_ok_iff.1 read
    rw [readTokens, if_pos alone]
    exact map_eq_ok_iff.2 ⟨others, ih (.cons '/') onward, whole⟩
  | case6 => contradiction
  | case7 => contradiction
  | case8 before rest notThree notTwo ih =>
    obtain ⟨others, onward, whole⟩ := map_eq_ok_iff.1 read
    rw [readTokens]
    · exact map_eq_ok_iff.2 ⟨others, ih (.cons '*') onward, whole⟩
    · exact notThree
    · exact notTwo
  | case9 => contradiction
  | case10 before rest token last found shorter =>
    rename_i taken ih
    have given : taken.reverse ≠ [] := by
      have size : taken.reverse.length = rest.length + 1 - last.length := by
        simp [taken]
      intro none
      rw [none, List.length_nil] at size
      omega
    obtain ⟨others, onward, whole⟩ := map_eq_ok_iff.1 read
    have same : readTokens (taken.reverse ++ other) last = .ok others :=
      ih (.append given) onward
    rw [readTokens]
    split
    · rename_i unread
      rw [found] at unread
      contradiction
    · rename_i token' last' read'
      rw [found] at read'
      cases read'
      exact map_eq_ok_iff.2 ⟨others, same, whole⟩
  | case11 before c rest mark three two star bracket ih =>
    obtain ⟨others, onward, whole⟩ := map_eq_ok_iff.1 read
    rw [readTokens]
    · exact map_eq_ok_iff.2 ⟨others, ih (.cons c) onward, whole⟩
    all_goals assumption

/-- Characters that stand for themselves are read as such. -/
theorem readTokens_append {text : List Char} (plain : ∀ c ∈ text, c ∉ wildcards)
    (before rest : List Char) :
    readTokens before (text ++ rest) =
      (readTokens (text.reverse ++ before) rest).map (text.map .char ++ ·) := by
  induction text generalizing before with
  | nil =>
    show readTokens before rest = (readTokens before rest).map fun tokens => tokens
    cases readTokens before rest <;> rfl
  | cons c text ih =>
    have single := plain c List.mem_cons_self
    have others : ∀ other ∈ text, other ∉ wildcards := by
      intro other inside
      exact plain other (List.mem_cons_of_mem c inside)
    have first : readTokens before (c :: (text ++ rest)) =
        (readTokens (c :: before) (text ++ rest)).map (.char c :: ·) := by
      simp only [wildcards, List.mem_cons, List.not_mem_nil, or_false, not_or] at single
      rw [readTokens]
      all_goals grind
    rw [List.cons_append, first, ih others, List.reverse_cons, List.append_assoc,
      List.singleton_append]
    cases readTokens (text.reverse ++ c :: before) rest <;> rfl

/-- A text without wildcards is read as the characters that it has. -/
theorem tokensOf_of_plain {text : List Char} (plain : ∀ c ∈ text, c ∉ wildcards) :
    tokensOf text = .ok (text.map .char) := by
  have read := readTokens_append plain [] []
  rw [List.append_nil, readTokens] at read
  rw [tokensOf, read]
  simp [Except.map]

/-- Characters that stand for themselves are one name. -/
theorem fixedName?_map_char (text : List Char) :
    Part.fixedName? (text.map .char) = some text := by
  induction text with
  | nil => rfl
  | cons c text ih =>
    rw [List.map_cons, Part.fixedName?, ih]
    rfl

/-- A piece without wildcards is read as the name that it is. -/
theorem ofTokens_map_char (text : List Char) :
    Part.ofTokens (text.map .char) = .name (.ofList text) := by
  have single : text.map Token.char ≠ [.anyFolders] := by
    cases text with
    | nil => simp
    | cons c text => simp
  rw [Part.ofTokens, if_neg single, fixedName?_map_char]

/-- Names in front are not among the repeated stars. -/
theorem collapse_append (names : List String) (parts : List Part) :
    Part.collapse (names.map .name ++ parts) = names.map .name ++ Part.collapse parts := by
  induction names with
  | nil => rfl
  | cons name names ih =>
    rw [List.map_cons, List.cons_append, Part.collapse, ih, List.cons_append]
    simp

/-- The part that a piece is read as. -/
def readPiece (piece : String) : Except PatternFault Part :=
  (tokensOf piece.toList).map Part.ofTokens

/-- Pieces without wildcards are read as names. -/
theorem mapM_readPiece {names : List String}
    (plain : ∀ name ∈ names, ∀ c ∈ name.toList, c ∉ wildcards) :
    names.mapM readPiece = .ok (names.map .name) := by
  induction names with
  | nil => rfl
  | cons name names ih =>
    have first : readPiece name = .ok (.name name) := by
      rw [readPiece, tokensOf_of_plain (plain name List.mem_cons_self)]
      show Except.ok (Part.ofTokens (name.toList.map .char)) = _
      rw [ofTokens_map_char, String.ofList_toList]
    have others := ih fun other inside => plain other (List.mem_cons_of_mem name inside)
    rw [List.mapM_cons, first, others]
    rfl

/-- The parts that pieces are read as, one by one. -/
theorem forall₂_readPiece {pieces : List String} {parts : List Part}
    (read : pieces.mapM readPiece = .ok parts) :
    List.Forall₂ (fun piece part => readPiece piece = .ok part) pieces parts := by
  induction pieces generalizing parts with
  | nil =>
    have none : [] = parts := Except.ok.inj read
    rw [← none]
    exact .nil
  | cons piece pieces ih =>
    rw [List.mapM_cons] at read
    obtain ⟨part, first, onward⟩ := bind_eq_ok_iff.1 read
    obtain ⟨others, rest, whole⟩ := bind_eq_ok_iff.1 onward
    have same : part :: others = parts := Except.ok.inj whole
    rw [← same]
    exact .cons first (ih rest)

/-- Leaving out repeated stars adds no part. -/
theorem collapse_sublist (parts : List Part) : (Part.collapse parts).Sublist parts := by
  fun_induction Part.collapse parts with
  | case1 parts ih => exact ih.cons _
  | case2 part parts _ ih => exact ih.cons_cons part
  | case3 => exact .slnil

/-- A path is read as a pattern when its text and its pieces are. -/
theorem ofPath_eq_ok_iff {path : Path} {pattern : Pattern} :
    Pattern.ofPath path = .ok pattern ↔
      ∃ tokens parts, tokensOf path.text.toList = .ok tokens ∧
        (patternPieces path).mapM readPiece = .ok parts ∧
        pattern = ⟨path.isAbsolute, Part.collapse parts, path.rest.getLast? = some ""⟩ := by
  unfold Pattern.ofPath
  rw [bind_eq_ok_iff]
  constructor
  · intro read
    obtain ⟨tokens, whole, onward⟩ := read
    obtain ⟨parts, pieces, made⟩ := bind_eq_ok_iff.1 onward
    exact ⟨tokens, parts, whole, pieces, (Except.ok.inj made).symm⟩
  · intro read
    obtain ⟨tokens, parts, whole, pieces, made⟩ := read
    refine ⟨tokens, whole, bind_eq_ok_iff.2 ⟨parts, pieces, ?_⟩⟩
    rw [made]
    rfl

end Glob

namespace Path

/-- The pieces of a path that stay in front of what is joined to it, but for the empty one that
makes it absolute. -/
def labels (path : Path) : List String :=
  if path.isAbsolute then dropEndEmpty path.rest else path.first :: dropEndEmpty path.rest

/-- A path has nothing that stands for other characters in a pattern. -/
def Plain (path : Path) : Prop :=
  ∀ c ∈ path.text.toList, c ∉ Glob.wildcards

instance (path : Path) : Decidable path.Plain :=
  List.decidableBAll (· ∉ Glob.wildcards) path.text.toList

/-- The labels of a path are pieces of it. -/
theorem mem_pieces_of_mem_labels {path : Path} {label : String} (inside : label ∈ path.labels) :
    label ∈ path.pieces := by
  have sublist := dropEndEmpty_sublist path.rest
  unfold labels at inside
  split at inside
  · exact List.mem_cons_of_mem _ (sublist.mem inside)
  · exact (sublist.cons_cons path.first).mem inside

/-- The pieces of a plain path are plain. -/
theorem Plain.piece {path : Path} (plain : path.Plain) {piece : String}
    (inside : piece ∈ path.pieces) : ∀ c ∈ piece.toList, c ∉ Glob.wildcards := by
  intro c given wild
  have other : c ≠ '/' := by
    rintro rfl
    revert wild
    decide
  exact plain c ((mem_text_iff other).2 ⟨piece, inside, given⟩) wild

/-- The labels of a plain path are plain. -/
theorem Plain.labels {path : Path} (plain : path.Plain) :
    ∀ label ∈ path.labels, ∀ c ∈ label.toList, c ∉ Glob.wildcards := by
  intro label inside
  exact plain.piece (mem_pieces_of_mem_labels inside)

variable {root further : Path}

/-- A relative path behind another that is not empty. -/
theorem join_eq (nonempty : root.isEmpty = false) (relative : further.isAbsolute = false) :
    root.join further = ⟨root.first, dropEndEmpty root.rest ++ further.pieces⟩ := by
  unfold join
  rw [relative, nonempty]
  rfl

/-- What is joined to a path starts where the path does. -/
theorem isAbsolute_join (nonempty : root.isEmpty = false)
    (relative : further.isAbsolute = false) :
    (root.join further).isAbsolute = root.isAbsolute := by
  rw [join_eq nonempty relative]
  unfold isAbsolute
  cases first : decide (root.first = "") with
  | false => simp
  | true =>
    have empty : root.first = "" := of_decide_eq_true first
    have more : root.rest.isEmpty = false := by simpa [isEmpty, empty] using nonempty
    simp [more, pieces]

/-- The text of what is joined to a path is its own text behind one without wildcards. -/
theorem text_join (nonempty : root.isEmpty = false) (relative : further.isAbsolute = false)
    (plain : root.Plain) :
    ∃ before, (∀ c ∈ before ++ ['/'], c ∉ Glob.wildcards) ∧
      (root.join further).text.toList = before ++ ['/'] ++ further.text.toList := by
  have separator : ("/" : String).toList = ['/'] := by decide
  refine ⟨(Path.mk root.first (dropEndEmpty root.rest)).text.toList, ?_, ?_⟩
  · intro c inside wild
    have other : c ≠ '/' := by
      rintro rfl
      revert wild
      decide
    have given : c ∈ (Path.mk root.first (dropEndEmpty root.rest)).text.toList := by
      simpa [other] using inside
    obtain ⟨piece, among, held⟩ := (mem_text_iff other).1 given
    have inRoot : piece ∈ root.pieces :=
      ((dropEndEmpty_sublist root.rest).cons_cons root.first).mem among
    exact plain.piece inRoot c held wild
  · have split : (root.join further).text =
        (Path.mk root.first (dropEndEmpty root.rest)).text ++ "/" ++ further.text := by
      rw [join_eq nonempty relative]
      unfold text
      rw [← List.cons_append]
      exact String.intercalate_append_of_ne_nil (by simp) (by simp [pieces])
    rw [split, String.toList_append, String.toList_append, separator]

/-- An empty piece at the end is dropped from the last of two lists. -/
theorem dropEndEmpty_append (before : List String) {pieces : List String}
    (given : pieces ≠ []) : dropEndEmpty (before ++ pieces) = before ++ dropEndEmpty pieces := by
  unfold dropEndEmpty
  rw [List.getLast?_append_of_ne_nil before given]
  split
  · exact List.dropLast_append_of_ne_nil given
  · rfl

/-- Of the pieces of a path that is not empty some are left without an empty one at the end. -/
theorem dropEndEmpty_pieces (given : further.isEmpty = false) :
    dropEndEmpty further.pieces ≠ [] := by
  intro none
  rcases dropEndEmpty_eq further.pieces with ⟨before, split, left⟩ | left
  · rw [none] at left
    rw [← left, List.nil_append, pieces, List.cons.injEq] at split
    simp [isEmpty, split.1, split.2] at given
  · rw [none] at left
    simp [pieces] at left

/-- The pieces of a pattern are all that a path has behind its top, but for an empty one at the
end, if there are any. -/
theorem patternPieces_eq {path : Path} {pieces : List String}
    (kept : dropEndEmpty (if path.isAbsolute then path.rest else path.first :: path.rest) = pieces)
    (given : pieces ≠ []) : Glob.patternPieces path = pieces := by
  obtain ⟨piece, others, start⟩ := List.exists_cons_of_ne_nil given
  rw [start] at kept ⊢
  unfold Glob.patternPieces
  simp only [kept]

/-- The pieces of a path are those of the pattern, but for empty ones. -/
theorem mem_patternPieces_iff {path : Path} {piece : String} (given : piece ≠ "") :
    piece ∈ Glob.patternPieces path ↔ piece ∈ path.pieces := by
  have kept (pieces : List String) : piece ∈ dropEndEmpty pieces ↔ piece ∈ pieces := by
    rcases dropEndEmpty_eq pieces with ⟨before, split, left⟩ | left
    · rw [left, split]
      simp [given]
    · rw [left]
  have behind : piece ∈ (if path.isAbsolute then path.rest else path.first :: path.rest) ↔
      piece ∈ path.pieces := by
    split
    · rename_i absolute
      have first : path.first = "" := by
        unfold isAbsolute at absolute
        simp_all
      simp [pieces, first, given]
    · rfl
  rw [← behind, ← kept (if path.isAbsolute then path.rest else path.first :: path.rest)]
  by_cases none :
      dropEndEmpty (if path.isAbsolute then path.rest else path.first :: path.rest) = []
  · unfold Glob.patternPieces
    simp only [none]
    simp [given]
  · rw [patternPieces_eq rfl none]

/-- The pieces of a pattern are pieces of the path or empty. -/
theorem mem_patternPieces {path : Path} {piece : String}
    (inside : piece ∈ Glob.patternPieces path) : piece = "" ∨ piece ∈ path.pieces := by
  by_cases empty : piece = ""
  · exact .inl empty
  · exact .inr ((mem_patternPieces_iff empty).1 inside)

/-- The pieces that a relative path has as a pattern. -/
theorem patternPieces_of_relative (relative : further.isAbsolute = false)
    (given : further.isEmpty = false) :
    Glob.patternPieces further = dropEndEmpty further.pieces := by
  apply patternPieces_eq _ (dropEndEmpty_pieces given)
  rw [relative, if_neg (by simp)]
  rfl

/-- The labels of the path stand in front of the pieces of what is joined to it. -/
theorem patternPieces_join (nonempty : root.isEmpty = false)
    (relative : further.isAbsolute = false) (furtherNonempty : further.isEmpty = false) :
    Glob.patternPieces (root.join further) = root.labels ++ Glob.patternPieces further := by
  have kept := dropEndEmpty_pieces furtherNonempty
  have given : further.pieces ≠ [] := by simp [pieces]
  rw [patternPieces_of_relative relative furtherNonempty]
  apply patternPieces_eq _ (List.append_ne_nil_of_right_ne_nil root.labels kept)
  rw [isAbsolute_join nonempty relative, join_eq nonempty relative, labels]
  cases root.isAbsolute with
  | true => exact dropEndEmpty_append (dropEndEmpty root.rest) given
  | false => exact dropEndEmpty_append (root.first :: dropEndEmpty root.rest) given

end Path

namespace Glob

open SarifDigest.Path

variable {root further : Path}

/-- The text of a pattern is read below a plain root when it is read alone. -/
theorem tokensOf_join (nonempty : root.isEmpty = false) (relative : further.isAbsolute = false)
    (plain : root.Plain) {tokens : List Token}
    (read : tokensOf further.text.toList = .ok tokens) :
    ∃ whole, tokensOf (root.join further).text.toList = .ok whole := by
  obtain ⟨before, plainBefore, split⟩ := text_join nonempty relative plain
  have alike : Alike [] ((before ++ ['/']).reverse ++ []) := by
    simp [Alike]
  have onward := readTokens_ok_of_alike alike read
  rw [tokensOf, split, readTokens_append plainBefore, onward]
  exact ⟨_, rfl⟩

/-- Below a plain root a pattern is read as the names of the root and its own parts. -/
theorem ofPath_join (nonempty : root.isEmpty = false) (relative : further.isAbsolute = false)
    (plain : root.Plain) (given : further.isEmpty = false) {pattern : Pattern}
    (read : Pattern.ofPath further = .ok pattern) :
    Pattern.ofPath (root.join further) =
      .ok ⟨root.isAbsolute, root.labels.map .name ++ pattern.parts, pattern.foldersOnly⟩ := by
  obtain ⟨tokens, parts, text, pieces, rfl⟩ := ofPath_eq_ok_iff.1 read
  obtain ⟨whole, wholeText⟩ := tokensOf_join nonempty relative plain text
  have sameEnd : (root.join further).rest.getLast? = some "" ↔
      further.rest.getLast? = some "" := by
    rw [join_eq nonempty relative]
    dsimp only
    rw [List.getLast?_append_of_ne_nil _ (by simp [Path.pieces])]
    cases rest : further.rest with
    | nil =>
      have first : further.first ≠ "" := by simpa [isEmpty, rest] using given
      simp [Path.pieces, rest, first]
    | cons piece others => simp [Path.pieces, rest]
  refine ofPath_eq_ok_iff.2 ⟨whole, root.labels.map .name ++ parts, wholeText, ?_, ?_⟩
  · rw [patternPieces_join nonempty relative given, List.mapM_append,
      mapM_readPiece plain.labels, pieces]
    rfl
  · rw [isAbsolute_join nonempty relative, collapse_append]
    simp only [sameEnd]

/-- Below a plain root the empty pattern is read as one that asks for folders. -/
theorem ofPath_join_empty (nonempty : root.isEmpty = false) (plain : root.Plain)
    (empty : further.isEmpty = true) :
    ∃ pattern, Pattern.ofPath (root.join further) = .ok pattern ∧
      pattern.foldersOnly = true := by
  have single := isEmpty_iff.1 empty
  have relative : further.isAbsolute = false := by rw [single]; decide
  have alone : tokensOf further.text.toList = .ok [] := by
    have nothing : further.text.toList = [] := by rw [single]; decide
    rw [nothing, tokensOf, readTokens]
  obtain ⟨whole, wholeText⟩ := tokensOf_join nonempty relative plain alone
  have plainPieces : ∀ piece ∈ patternPieces (root.join further), ∀ c ∈ piece.toList,
      c ∉ wildcards := by
    intro piece inside
    rcases mem_patternPieces inside with rfl | inside
    · simp
    · rw [join_eq nonempty relative, single] at inside
      have among : piece ∈ root.first :: dropEndEmpty root.rest ++ [""] := inside
      rcases List.mem_append.1 among with front | last
      · have inRoot := ((dropEndEmpty_sublist root.rest).cons_cons root.first).mem front
        exact plain.piece inRoot
      · rw [List.mem_singleton.1 last]
        simp
  refine ⟨_, ofPath_eq_ok_iff.2 ⟨whole, _, wholeText, mapM_readPiece plainPieces, rfl⟩, ?_⟩
  rw [join_eq nonempty relative, single]
  simp [Path.pieces, ofPiece]

end Glob

end SarifDigest
