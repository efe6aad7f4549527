import Mathlib.Data.List.TakeWhile
import SarifDigest.Proofs.Glob.Reading

/-!
# Which texts are patterns

A text is a pattern when each of its pieces is two stars, or one in which no star stands behind
another and each bracket opens a set that the piece closes. A relative text below a root is
refused when it is no pattern, and also when the root is none: the pieces of both are read alike.
-/
namespace SarifDigest

namespace Glob

/-- What stands between the brackets of a set: at least one character, behind the sign of a
negative set if it has one. Only that character may be a closing bracket. -/
inductive SetText : List Char → Prop
  | positive {first : Char} {members : List Char} (unsigned : first ≠ '!')
      (inside : ']' ∉ members) : SetText (first :: members)
  | negative {first : Char} {members : List Char} (inside : ']' ∉ members) :
      SetText ('!' :: first :: members)

/-- A text of single wildcards, of sets, and of characters that stand for themselves. -/
inductive LabelText : List Char → Prop
  | done : LabelText []
  | anyChar {text : List Char} (onward : LabelText text) : LabelText ('?' :: text)
  | anyChars {text : List Char} (single : text.head? ≠ some '*') (onward : LabelText text) :
      LabelText ('*' :: text)
  | set {members text : List Char} (inside : SetText members) (whole : '/' ∉ members)
      (onward : LabelText text) : LabelText ('[' :: members ++ ']' :: text)
  | char {c : Char} {text : List Char} (plain : c ∉ '/' :: wildcards) (onward : LabelText text) :
      LabelText (c :: text)

/-- A piece of a pattern: two stars for any folders, or a text for names. -/
def PieceText (text : List Char) : Prop :=
  text = ['*', '*'] ∨ LabelText text

/-- A path all of whose pieces are pieces of a pattern. -/
def WellFormed (path : Path) : Prop :=
  ∀ piece ∈ path.pieces, PieceText piece.toList

/-- A set with a sign is read from the character behind it. -/
theorem readSet_negative (first : Char) (body : List Char) :
    readSet ('!' :: first :: body) =
      match body.dropWhile (· ≠ ']') with
      | [] => none
      | _ :: last =>
        some (.noneOf (specifiers (first :: body.takeWhile (· ≠ ']'))), last) :=
  rfl

/-- A set without a sign is read from its first character. -/
theorem readSet_positive {first : Char} (unsigned : first ≠ '!') (body : List Char) :
    readSet (first :: body) =
      match body.dropWhile (· ≠ ']') with
      | [] => none
      | _ :: last =>
        some (.oneOf (specifiers (first :: body.takeWhile (· ≠ ']'))), last) := by
  unfold readSet
  split
  rename_i start
  split at start
  · rename_i signed
    exact absurd (List.cons.inj signed).1 unsigned
  · cases start
    rfl

/-- A set is read up to the bracket that closes it. -/
theorem SetText.read {members : List Char} (set : SetText members) (rest : List Char) :
    ∃ token, readSet (members ++ ']' :: rest) = some (token, rest) := by
  have close {members : List Char} (inside : ']' ∉ members) :
      (members ++ ']' :: rest).dropWhile (· ≠ ']') = ']' :: rest := by
    rw [List.dropWhile_append_of_pos (fun c among => by grind)]
    simp
  cases set with
  | positive unsigned inside =>
    rw [List.cons_append, readSet_positive unsigned, close inside]
    exact ⟨_, rfl⟩
  | negative inside =>
    rw [List.cons_append, List.cons_append, readSet_negative, close inside]
    exact ⟨_, rfl⟩

/-- What is read as a set is the text of one and the bracket that closes it. -/
theorem setText_of_readSet {text rest : List Char} {token : Token}
    (read : readSet text = some (token, rest)) :
    ∃ members, SetText members ∧ text = members ++ ']' :: rest := by
  have close {first : Char} {body : List Char} {make : List Specifier → Token}
      (read : (match body.dropWhile (· ≠ ']') with
        | [] => none
        | _ :: last => some (make (specifiers (first :: body.takeWhile (· ≠ ']'))), last)) =
          some (token, rest)) :
      ∃ members, ']' ∉ members ∧ body = members ++ ']' :: rest := by
    refine ⟨body.takeWhile (· ≠ ']'), fun closing => ?_, ?_⟩
    · have kept := List.mem_takeWhile_imp closing
      simp at kept
    · cases behind : body.dropWhile (· ≠ ']') with
      | nil =>
        rw [behind] at read
        contradiction
      | cons bracket last =>
        have found : bracket = ']' := by
          have stopped := List.head?_dropWhile_not (· ≠ ']') body
          rw [behind] at stopped
          simpa using stopped
        have split := List.takeWhile_append_dropWhile (p := (· ≠ ']')) (l := body)
        simp only [behind, Option.some.injEq, Prod.mk.injEq] at read split
        rw [found, read.2] at split
        exact split.symm
  cases text with
  | nil => contradiction
  | cons first body =>
    by_cases signed : first = '!'
    · subst signed
      cases body with
      | nil => contradiction
      | cons first body =>
        obtain ⟨members, inside, whole⟩ := close read
        exact ⟨_, .negative inside, by rw [whole]; rfl⟩
    · rw [readSet_positive signed] at read
      obtain ⟨members, inside, whole⟩ := close read
      exact ⟨_, .positive signed inside, by rw [whole]; rfl⟩

variable {text rest : List Char}

/-- A text for names is read in front of what is read behind any text, if no star is first
there. -/
theorem LabelText.read (label : LabelText text) (single : rest.head? ≠ some '*')
    (onward : ∀ before, ∃ tokens, readTokens before rest = .ok tokens) (before : List Char) :
    ∃ tokens, readTokens before (text ++ rest) = .ok tokens := by
  induction label generalizing before with
  | done => exact onward before
  | anyChar _ ih =>
    obtain ⟨tokens, read⟩ := ih ('?' :: before)
    rw [List.cons_append, readTokens, read]
    exact ⟨_, rfl⟩
  | @anyChars text apart _ ih =>
    have noStar : ∀ behind, text ++ rest ≠ '*' :: behind := by
      intro behind same
      cases text with
      | nil => exact single (by rw [List.nil_append] at same; rw [same]; rfl)
      | cons c text => exact apart (by rw [(List.cons.inj same).1]; rfl)
    obtain ⟨tokens, read⟩ := ih ('*' :: before)
    rw [List.cons_append, readTokens, read]
    · exact ⟨_, rfl⟩
    · exact fun behind => noStar _
    · exact noStar
  | @set members text inside _ _ ih =>
    obtain ⟨token, set⟩ := inside.read (text ++ rest)
    have split : '[' :: members ++ ']' :: text ++ rest =
        '[' :: (members ++ ']' :: (text ++ rest)) := by simp
    rw [split, readTokens]
    split
    · rename_i unread
      rw [set] at unread
      contradiction
    · rename_i read
      rw [set] at read
      cases read
      dsimp only
      generalize List.reverse _ ++ before = behind
      obtain ⟨tokens, onward⟩ := ih behind
      rw [onward]
      exact ⟨_, rfl⟩
  | char plain _ ih =>
    rename_i c text _
    obtain ⟨tokens, read⟩ := ih (c :: before)
    rw [List.cons_append, readTokens, read]
    · exact ⟨_, rfl⟩
    all_goals grind [wildcards]

/-- What is read as a piece without separators is one. -/
theorem pieceText_of_readTokens {before : List Char} {tokens : List Token}
    (read : readTokens before text = .ok tokens) (whole : '/' ∉ text) :
    LabelText text ∨ text = ['*', '*'] ∧ before.head?.all (· = '/') = true := by
  have label {c : Char} {before text : List Char} (other : c ≠ '/')
      (rest : LabelText text ∨ text = ['*', '*'] ∧ (c :: before).head?.all (· = '/') = true) :
      LabelText text := by
    rcases rest with found | ⟨_, separated⟩
    · exact found
    · simp [other] at separated
  fun_induction readTokens before text generalizing tokens with
  | case1 => exact .inl .done
  | case2 before text ih =>
    obtain ⟨_, onward, _⟩ := map_eq_ok_iff.1 read
    exact .inl (.anyChar (label (by decide) (ih onward (List.not_mem_of_not_mem_cons whole))))
  | case3 => contradiction
  | case4 before alone _ => exact .inr ⟨rfl, alone⟩
  | case5 => simp at whole
  | case6 => contradiction
  | case7 => contradiction
  | case8 before text notThree notTwo ih =>
    obtain ⟨_, onward, _⟩ := map_eq_ok_iff.1 read
    have single : text.head? ≠ some '*' := by
      intro star
      obtain ⟨behind, split⟩ := List.head?_eq_some_iff.1 star
      exact notTwo behind split
    exact .inl (.anyChars single
      (label (by decide) (ih onward (List.not_mem_of_not_mem_cons whole))))
  | case9 => contradiction
  | case10 before text token last found shorter =>
    rename_i taken ih
    obtain ⟨_, onward, _⟩ := map_eq_ok_iff.1 read
    obtain ⟨members, inside, rfl⟩ := setText_of_readSet found
    have closed : taken = '[' :: members ++ [']'] := by
      have size : (members ++ ']' :: last).length + 1 - last.length =
          ('[' :: members ++ [']']).length := by
        simp only [List.length_append, List.length_cons, List.length_nil]
        omega
      have split : '[' :: (members ++ ']' :: last) = '[' :: members ++ [']'] ++ last := by simp
      show List.take _ _ = _
      rw [size, split, List.take_left]
    have apart : '/' ∉ members ∧ '/' ∉ last := by simpa using whole
    have rest := ih onward apart.2
    rw [closed, List.reverse_append] at rest
    exact .inl (.set inside apart.1 (label (by decide) rest))
  | case11 before c text mark three two star bracket ih =>
    obtain ⟨_, onward, _⟩ := map_eq_ok_iff.1 read
    have other : c ≠ '/' := by grind
    have plain : c ∉ '/' :: wildcards := by
      simp only [wildcards, List.mem_cons, List.not_mem_nil, or_false, not_or]
      exact ⟨other, star, mark, bracket⟩
    exact .inl (.char plain (label other (ih onward (List.not_mem_of_not_mem_cons whole))))

/-- A piece is read in front of a separator when what is behind it is read. -/
theorem PieceText.read (piece : PieceText text) (before : List Char)
    (alone : before.head?.all (· = '/') = true) (ends : rest.head?.all (· = '/') = true)
    (onward : ∀ before, ∃ tokens, readTokens before rest = .ok tokens) :
    ∃ tokens, readTokens before (text ++ rest) = .ok tokens := by
  rcases piece with rfl | label
  · cases rest with
    | nil =>
      rw [List.append_nil, readTokens, if_pos alone]
      exact ⟨_, rfl⟩
    | cons c rest =>
      have separator : c = '/' := by simpa using ends
      subst separator
      have single : ∀ before, readTokens before ('/' :: rest) =
          (readTokens ('/' :: before) rest).map (.char '/' :: ·) := by
        intro before
        rw [readTokens]
        all_goals simp
      obtain ⟨_, behind⟩ := onward ('*' :: '*' :: before)
      rw [single] at behind
      obtain ⟨tokens, inner, _⟩ := map_eq_ok_iff.1 behind
      simp only [List.cons_append, List.nil_append]
      rw [readTokens, if_pos alone, inner]
      exact ⟨_, rfl⟩
  · refine label.read ?_ onward before
    intro star
    rw [star] at ends
    simp at ends

/-- No separator is in a text for names. -/
theorem LabelText.whole (label : LabelText text) : '/' ∉ text := by
  induction label with
  | done => exact List.not_mem_nil
  | anyChar _ ih => simpa using ih
  | anyChars _ _ ih => simpa using ih
  | set _ whole _ ih => simpa [whole] using ih
  | char plain _ ih =>
    simp only [List.mem_cons, not_or] at plain ⊢
    exact ⟨Ne.symm plain.1, ih⟩

/-- The empty text is read behind any other. -/
theorem exists_readTokens_nil (before : List Char) :
    ∃ tokens, readTokens before [] = .ok tokens := by
  rw [readTokens]
  exact ⟨[], rfl⟩

/-- A text is a piece when it has no separator and is read alone. -/
theorem pieceText_iff :
    PieceText text ↔ '/' ∉ text ∧ ∃ tokens, tokensOf text = .ok tokens := by
  constructor
  · intro piece
    have read := piece.read [] rfl rfl exists_readTokens_nil
    rw [List.append_nil] at read
    refine ⟨?_, read⟩
    rcases piece with rfl | label
    · decide
    · exact label.whole
  · rintro ⟨whole, tokens, read⟩
    rcases pieceText_of_readTokens read whole with label | ⟨stars, _⟩
    · exact .inr label
    · exact .inl stars

instance (text : List Char) : Decidable (PieceText text) :=
  decidable_of_iff ('/' ∉ text ∧ (tokensOf text).isOk = true) <| by
    rw [pieceText_iff]
    cases tokensOf text <;> simp [Except.isOk, Except.toBool]

instance (path : Path) : Decidable (WellFormed path) :=
  inferInstanceAs (Decidable (∀ piece ∈ path.pieces, PieceText piece.toList))

/-- Pieces with separators between them are read when each is a piece of a pattern. -/
theorem exists_readTokens_intercalate {piece : String} {others : List String}
    (each : ∀ other ∈ piece :: others, PieceText other.toList) (before : List Char)
    (alone : before.head?.all (· = '/') = true) :
    ∃ tokens, readTokens before ("/".intercalate (piece :: others)).toList = .ok tokens := by
  have first := each piece List.mem_cons_self
  induction others generalizing piece before with
  | nil =>
    have read := first.read before alone (by rfl) exists_readTokens_nil
    rw [List.append_nil] at read
    rw [String.intercalate_singleton]
    exact read
  | cons next others ih =>
    have later : ∀ other ∈ next :: others, PieceText other.toList := fun other inside =>
      each other (List.mem_cons_of_mem piece inside)
    have split : ("/".intercalate (piece :: next :: others)).toList =
        piece.toList ++ '/' :: ("/".intercalate (next :: others)).toList := by
      have separator : ("/" : String).toList = ['/'] := by decide
      rw [String.intercalate_cons_cons, String.toList_append, String.toList_append, separator]
      simp
    rw [split]
    refine first.read before alone rfl fun before => ?_
    obtain ⟨tokens, read⟩ := ih later ('/' :: before) rfl (later next List.mem_cons_self)
    rw [readTokens, read]
    · exact ⟨_, rfl⟩
    all_goals simp

/-- Pieces are read as parts when each of them is. -/
theorem exists_mapM_readPiece_iff {pieces : List String} :
    (∃ parts, pieces.mapM readPiece = .ok parts) ↔
      ∀ piece ∈ pieces, ∃ part, readPiece piece = .ok part := by
  induction pieces with
  | nil => simp [pure, Except.pure]
  | cons piece pieces ih =>
    rw [List.forall_mem_cons, ← ih, List.mapM_cons]
    constructor
    · rintro ⟨_, read⟩
      obtain ⟨part, first, onward⟩ := bind_eq_ok_iff.1 read
      obtain ⟨parts, others, _⟩ := bind_eq_ok_iff.1 onward
      exact ⟨⟨part, first⟩, parts, others⟩
    · rintro ⟨⟨part, first⟩, parts, others⟩
      rw [first, others]
      exact ⟨_, rfl⟩

/-- A well-formed path is read as a pattern. -/
theorem exists_ofPath {path : Path} (formed : WellFormed path) :
    ∃ pattern, Pattern.ofPath path = .ok pattern := by
  obtain ⟨tokens, whole⟩ := exists_readTokens_intercalate formed [] rfl
  have each : ∀ piece ∈ patternPieces path, ∃ part, readPiece piece = .ok part := by
    intro piece inside
    have given : PieceText piece.toList := by
      rcases Path.mem_patternPieces inside with rfl | inside
      · exact .inr .done
      · exact formed piece inside
    obtain ⟨tokens, read⟩ := (pieceText_iff.1 given).2
    exact ⟨_, map_eq_ok_iff.2 ⟨tokens, read, rfl⟩⟩
  obtain ⟨parts, pieces⟩ := exists_mapM_readPiece_iff.2 each
  exact ⟨_, ofPath_eq_ok_iff.2 ⟨tokens, parts, whole, pieces, rfl⟩⟩

/-- Each piece of a path that is read as a pattern is a piece of a pattern. -/
theorem pieceText_of_ofPath {path : Path} {pattern : Pattern}
    (read : Pattern.ofPath path = .ok pattern) {piece : String} (inside : piece ∈ path.pieces)
    (whole : '/' ∉ piece.toList) : PieceText piece.toList := by
  by_cases empty : piece = ""
  · rw [empty]
    exact .inr .done
  · obtain ⟨_, parts, _, pieces, _⟩ := ofPath_eq_ok_iff.1 read
    have among := (Path.mem_patternPieces_iff empty).2 inside
    obtain ⟨part, made⟩ := exists_mapM_readPiece_iff.1 ⟨parts, pieces⟩ piece among
    obtain ⟨tokens, first, _⟩ := map_eq_ok_iff.1 made
    exact pieceText_iff.2 ⟨whole, tokens, first⟩

end Glob

namespace Path

/-- No piece of a path holds a separator. -/
def Separated (path : Path) : Prop :=
  ∀ piece ∈ path.pieces, '/' ∉ piece.toList

/-- A text is cut at its separators, so none is left in a piece. -/
theorem separated_ofText (text : String) : (ofText text).Separated := by
  have cut (text : List Char) : ∀ piece ∈ (Text.pieces '/' text).1 :: (Text.pieces '/' text).2,
      '/' ∉ piece := by
    induction text with
    | nil => simp [Text.pieces]
    | cons c text ih =>
      rw [List.forall_mem_cons] at ih ⊢
      by_cases here : c = '/'
      · simp only [Text.pieces, here, if_true]
        exact ⟨by simp, List.forall_mem_cons.2 ih⟩
      · simp only [Text.pieces, here, if_false]
        exact ⟨by simp [ih.1, Ne.symm here], ih.2⟩
  intro piece inside
  have among : piece ∈ ((Text.pieces '/' text.toList).1 ::
      (Text.pieces '/' text.toList).2).map String.ofList := inside
  obtain ⟨chars, given, rfl⟩ := List.mem_map.1 among
  rw [String.toList_ofList]
  exact cut _ chars given

/-- No separator comes into a piece where two paths are joined. -/
theorem Separated.join {root further : Path} (separated : root.Separated)
    (given : further.Separated) : (root.join further).Separated := by
  unfold Path.join
  split
  · exact given
  · intro piece inside
    rcases List.mem_cons.1 inside with rfl | inside
    · exact separated _ List.mem_cons_self
    · rcases List.mem_append.1 inside with kept | inside
      · exact separated piece (List.mem_cons_of_mem _ ((dropEndEmpty_sublist root.rest).mem kept))
      · exact given piece inside

end Path

namespace Glob

variable {root further : Path}

/-- A path is read as a pattern when it is well-formed. -/
theorem exists_ofPath_iff {path : Path} (separated : path.Separated) :
    (∃ pattern, Pattern.ofPath path = .ok pattern) ↔ WellFormed path := by
  refine ⟨?_, exists_ofPath⟩
  rintro ⟨pattern, read⟩ piece inside
  exact pieceText_of_ofPath read inside (separated piece inside)

/-- What is joined to a path is well-formed when both are. -/
theorem wellFormed_join_iff (relative : further.isAbsolute = false) :
    WellFormed (root.join further) ↔ WellFormed root ∧ WellFormed further := by
  have emptyPiece : PieceText ("" : String).toList := .inr .done
  cases empty : root.isEmpty with
  | true =>
    have formed : WellFormed root := by
      rw [Path.isEmpty_iff.1 empty]
      exact List.forall_mem_singleton.2 emptyPiece
    have alone : root.join further = further := by simp [Path.join, empty]
    rw [alone, and_iff_right formed]
  | false =>
    have dropped : (∀ piece ∈ Path.dropEndEmpty root.rest, PieceText piece.toList) ↔
        ∀ piece ∈ root.rest, PieceText piece.toList := by
      rcases Path.dropEndEmpty_eq root.rest with ⟨before, split, left⟩ | left
      · rw [left, split, List.forall_mem_append, List.forall_mem_singleton,
          and_iff_left emptyPiece]
      · rw [left]
    have joined : (root.join further).pieces =
        root.first :: (Path.dropEndEmpty root.rest ++ further.pieces) := by
      rw [Path.join_eq empty relative]
      rfl
    have spelled : root.pieces = root.first :: root.rest := rfl
    unfold WellFormed
    rw [joined, spelled, List.forall_mem_cons, List.forall_mem_append, dropped, ← and_assoc,
      List.forall_mem_cons]

/-- What is read behind a root is well-formed, whatever the root is. -/
theorem wellFormed_of_ofPath_join (given : further.Separated) {pattern : Pattern}
    (read : Pattern.ofPath (root.join further) = .ok pattern) : WellFormed further := by
  intro piece inside
  refine pieceText_of_ofPath read ?_ (given piece inside)
  unfold Path.join
  split
  · exact inside
  · exact List.mem_cons_of_mem _ (List.mem_append_right _ inside)

/-- A path is read behind a root when it is well-formed and the root is, or is not needed. -/
theorem exists_ofPath_join_iff (separated : root.Separated) (given : further.Separated) :
    (∃ pattern, Pattern.ofPath (root.join further) = .ok pattern) ↔
      WellFormed further ∧ (further.isAbsolute = true ∨ WellFormed root) := by
  cases absolute : further.isAbsolute with
  | true =>
    have alone : root.join further = further := by simp [Path.join, absolute]
    rw [alone, exists_ofPath_iff given]
    simp
  | false =>
    rw [exists_ofPath_iff (separated.join given), wellFormed_join_iff absolute]
    simp [and_comm]

/-- A path without wildcards is well-formed. -/
theorem wellFormed_of_plain (plain : root.Plain) (separated : root.Separated) :
    WellFormed root := by
  intro piece inside
  have label (text : List Char) (each : ∀ c ∈ text, c ∉ '/' :: wildcards) : LabelText text := by
    induction text with
    | nil => exact .done
    | cons c text ih =>
      rw [List.forall_mem_cons] at each
      exact .char each.1 (ih each.2)
  refine .inr (label piece.toList fun c given => ?_)
  rw [List.mem_cons, not_or]
  refine ⟨?_, plain.piece inside c given⟩
  rintro rfl
  exact separated piece inside given

end Glob

end SarifDigest
