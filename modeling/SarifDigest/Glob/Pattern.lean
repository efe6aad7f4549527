/-!
# Glob patterns

A pattern as a list of tokens, and the names that it matches. A star stands for any characters,
a question mark for one, brackets for one character of a set or not of it, and two stars that
are alone between separators for any folders. Any other character stands for itself; nothing
can be escaped but by brackets.
-/
namespace SarifDigest.Glob

/-- A part of a set of characters. -/
inductive Specifier
  | single (c : Char)
  | range (first last : Char)
deriving DecidableEq

/-- Whether a character is in a part of a set. -/
def Specifier.admits (specifier : Specifier) (c : Char) : Bool :=
  match specifier with
  | single wanted => c == wanted
  | range first last => first ≤ c && c ≤ last

/-- A part of a pattern. -/
inductive Token
  | char (c : Char)
  | anyChar
  | anyChars
  | anyFolders
  | oneOf (specifiers : List Specifier)
  | noneOf (specifiers : List Specifier)
deriving DecidableEq

/-- Whether a token that stands for one character stands for the given one. -/
def Token.admits (token : Token) (c : Char) : Bool :=
  match token with
  | char wanted => c == wanted
  | oneOf specifiers => specifiers.any (·.admits c)
  | noneOf specifiers => !specifiers.any (·.admits c)
  | anyChar => true
  | anyChars => true
  | anyFolders => true

/-- What is left of a text behind each of its beginnings, the text itself first. -/
def suffixes : List Char → List (List Char)
  | [] => [[]]
  | c :: rest => (c :: rest) :: suffixes rest

/-- Whether tokens match the whole of a name. -/
def matchesName : List Token → List Char → Bool
  | [], name => name.isEmpty
  | .anyChars :: tokens, name => (suffixes name).any (matchesName tokens)
  | token :: tokens, c :: rest => token.admits c && matchesName tokens rest
  | _ :: _, [] => false

/-- Why a text is no pattern. -/
inductive PatternCause
  | tooManyStars
  | starsNotAlone
  | unclosedSet
deriving DecidableEq

/-- The wording of each cause. -/
def PatternCause.message : PatternCause → String
  | tooManyStars => "wildcards are either regular `*` or recursive `**`"
  | starsNotAlone => "recursive wildcards must form a single path component"
  | unclosedSet => "invalid range pattern"

/-- A text that is no pattern, with the number of characters before the place that shows it. -/
structure PatternFault where
  position : Nat
  cause : PatternCause
deriving DecidableEq

/-- The wording of a fault. -/
def PatternFault.message (fault : PatternFault) : String :=
  "Pattern syntax error near position " ++ toString fault.position ++ ": " ++ fault.cause.message

/-- The parts of a set; two characters with a dash between them are a range. -/
def specifiers : List Char → List Specifier
  | first :: '-' :: last :: rest => .range first last :: specifiers rest
  | c :: rest => .single c :: specifiers rest
  | [] => []

/-- The set behind an opening bracket and the text behind its closing one. The first character
of a set never closes it. -/
def readSet (text : List Char) : Option (Token × List Char) :=
  let (make, body) : (List Specifier → Token) × List Char :=
    match text with
    | '!' :: body => (.noneOf, body)
    | body => (.oneOf, body)
  match body with
  | [] => none
  | first :: rest =>
    match rest.dropWhile (· ≠ ']') with
    | [] => none
    | _ :: last => some (make (specifiers (first :: rest.takeWhile (· ≠ ']'))), last)

/-- A set takes at least its closing bracket from the text. -/
theorem readSet_shorter {text rest : List Char} {token : Token}
    (read : readSet text = some (token, rest)) : rest.length < text.length := by
  have close (first : Char) (body : List Char) (make : List Specifier → Token)
      (read : (match body.dropWhile (· ≠ ']') with
        | [] => none
        | _ :: last => some (make (specifiers (first :: body.takeWhile (· ≠ ']'))), last)) =
          some (token, rest)) : rest.length < body.length := by
    have bound := (List.dropWhile_sublist (l := body) (· ≠ ']')).length_le
    split at read
    · simp at read
    · rename_i start
      simp only [start, List.length_cons] at bound
      simp only [Option.some.injEq, Prod.mk.injEq] at read
      rw [← read.2]
      omega
  unfold readSet at read
  split at read
  · rename_i make body start
    split at start
    all_goals
      simp only [Prod.mk.injEq] at start
      obtain ⟨rfl, rfl⟩ := start
      split at read
      · simp at read
      · have less := close _ _ _ read
        simp only [List.length_cons]
        omega

/-- The tokens of a text, given the characters before it, the last of them first. -/
def readTokens (before : List Char) (text : List Char) : Except PatternFault (List Token) :=
  match text with
  | [] => .ok []
  | '?' :: rest => (readTokens ('?' :: before) rest).map (.anyChar :: ·)
  | '*' :: '*' :: '*' :: _ => .error ⟨before.length + 2, .tooManyStars⟩
  | '*' :: '*' :: rest =>
    if before.head?.all (· = '/') then
      match rest with
      | [] => .ok [.anyFolders]
      | '/' :: rest =>
        (readTokens ('/' :: '*' :: '*' :: before) rest).map (.anyFolders :: ·)
      | _ => .error ⟨before.length + 2, .starsNotAlone⟩
    else .error ⟨before.length - 1, .starsNotAlone⟩
  | '*' :: rest => (readTokens ('*' :: before) rest).map (.anyChars :: ·)
  | '[' :: rest =>
    match read : readSet rest with
    | none => .error ⟨before.length, .unclosedSet⟩
    | some (token, last) =>
      have := readSet_shorter read
      let taken := ('[' :: rest).take (rest.length + 1 - last.length)
      (readTokens (taken.reverse ++ before) last).map (token :: ·)
  | c :: rest => (readTokens (c :: before) rest).map (.char c :: ·)
termination_by text.length

/-- The tokens of a whole pattern. -/
def tokensOf (pattern : List Char) : Except PatternFault (List Token) :=
  readTokens [] pattern

end SarifDigest.Glob
