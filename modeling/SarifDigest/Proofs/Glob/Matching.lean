import SarifDigest.Glob.Expansion

/-!
# What patterns match

The rules for patterns as relations, apart from how names are compared and folders are searched:
which characters tokens cover, which entries a part of a pattern admits, and which files below
a folder a pattern matches, by the names that lead from the folder to them.
-/
namespace SarifDigest.Glob

/-- Tokens cover characters: a star any number of them, every other token one that it admits. -/
inductive Covers : List Token → List Char → Prop
  | nothing : Covers [] []
  | one {token : Token} {tokens : List Token} {c : Char} {rest : List Char}
      (single : token ≠ .anyChars) (admitted : token.admits c = true)
      (onward : Covers tokens rest) : Covers (token :: tokens) (c :: rest)
  | any {tokens : List Token} {rest name : List Char} (ending : rest <:+ name)
      (onward : Covers tokens rest) : Covers (.anyChars :: tokens) name

/-- What is left behind the beginnings of a text are its ends. -/
theorem mem_suffixes_iff {rest text : List Char} : rest ∈ suffixes text ↔ rest <:+ text := by
  induction text with
  | nil => simp [suffixes]
  | cons c text ih => rw [suffixes, List.mem_cons, ih, List.suffix_cons_iff]

/-- A star followed by tokens covers what ends with something that the tokens cover. -/
theorem covers_anyChars_iff {tokens : List Token} {name : List Char} :
    Covers (.anyChars :: tokens) name ↔ ∃ rest, rest <:+ name ∧ Covers tokens rest := by
  constructor
  · intro covered
    cases covered with
    | one single => contradiction
    | any ending onward => exact ⟨_, ending, onward⟩
  · intro split
    obtain ⟨rest, ending, onward⟩ := split
    exact .any ending onward

/-- A token that is no star covers the first character, and the others the rest. -/
theorem covers_single_iff {token : Token} (single : token ≠ .anyChars) {tokens : List Token}
    {c : Char} {rest : List Char} :
    Covers (token :: tokens) (c :: rest) ↔ token.admits c = true ∧ Covers tokens rest := by
  constructor
  · intro covered
    cases covered with
    | one _ admitted onward => exact ⟨admitted, onward⟩
    | any => contradiction
  · intro both
    exact .one single both.1 both.2

/-- The comparison of a name with tokens finds whether they cover it. -/
theorem matchesName_iff {tokens : List Token} {name : List Char} :
    matchesName tokens name = true ↔ Covers tokens name := by
  induction tokens generalizing name with
  | nil =>
    cases name with
    | nil => exact iff_of_true rfl .nothing
    | cons c rest => exact iff_of_false (by simp [matchesName]) (by intro covered; cases covered)
  | cons token tokens ih =>
    by_cases star : token = .anyChars
    · rw [star, covers_anyChars_iff, matchesName, List.any_eq_true]
      simp only [mem_suffixes_iff, ih]
    · cases name with
      | nil =>
        refine iff_of_false ?_ ?_
        · rw [matchesName]
          · decide
          · exact star
        · intro covered
          cases covered with
          | any => exact star rfl
      | cons c rest =>
        rw [covers_single_iff star, matchesName, Bool.and_eq_true, ih]
        exact star

instance (tokens : List Token) (name : List Char) : Decidable (Covers tokens name) :=
  decidable_of_iff _ matchesName_iff

namespace Part

/-- A part of a pattern admits an entry by its name; two stars admit any. -/
def Admits : Part → String → Prop
  | .name wanted, entry => entry = wanted
  | .wild tokens, entry => Covers tokens entry.toList
  | .folders, _ => True

/-- The comparison of an entry with a part finds whether it is admitted. -/
theorem admits_iff {part : Part} {entry : String} :
    part.admits entry = true ↔ part.Admits entry := by
  cases part with
  | name wanted => exact beq_iff_eq
  | wild tokens => exact matchesName_iff
  | folders => exact iff_of_true rfl trivial

/-- A part leads up when it matches the name for the folder around. Parts with wildcards do so
only if they start with a dot. -/
def LeadsUp : Part → Prop
  | .name wanted => wanted = ".."
  | .wild tokens => tokens.head? = some (.char '.') ∧ Covers tokens "..".toList
  | .folders => False

instance (part : Part) : Decidable part.LeadsUp :=
  match part with
  | .name wanted => inferInstanceAs (Decidable (wanted = ".."))
  | .wild tokens =>
    inferInstanceAs (Decidable (tokens.head? = some (.char '.') ∧ Covers tokens "..".toList))
  | .folders => inferInstanceAs (Decidable False)

end Part

/-- Parts match a file below a folder by the names that lead to it. An empty part or a dot stays
in the folder; two stars stand for any number of folders on the way to an entry, and at the end
of a pattern for folders only. -/
inductive MatchesFile : List Part → List String → Prop
  | done : MatchesFile [] []
  | stay {piece : String} {parts : List Part} {names : List String}
      (idle : Path.isIdle piece = true) (inFolder : names ≠ [])
      (onward : MatchesFile parts names) : MatchesFile (.name piece :: parts) names
  | entry {part : Part} {parts : List Part} {name : String} {names : List String}
      (single : part ≠ .folders) (admitted : part.Admits name)
      (onward : MatchesFile parts names) : MatchesFile (part :: parts) (name :: names)
  | folders {between : List String} {part : Part} {parts : List Part} {name : String}
      {names : List String} (admitted : part.Admits name)
      (onward : MatchesFile parts names) :
      MatchesFile (.folders :: part :: parts) (between ++ name :: names)

namespace Pattern

/-- A pattern matches a file below a folder; one that asks for folders matches none. -/
def MatchesFile (pattern : Pattern) (names : List String) : Prop :=
  pattern.foldersOnly = false ∧ Glob.MatchesFile pattern.parts names

/-- A pattern leads up when one of its parts does. -/
def LeadsUp (pattern : Pattern) : Prop :=
  ∃ part ∈ pattern.parts, part.LeadsUp

instance (pattern : Pattern) : Decidable pattern.LeadsUp :=
  inferInstanceAs (Decidable (∃ part ∈ pattern.parts, part.LeadsUp))

end Pattern

/-- Tokens that cover nothing are all stars. -/
theorem eq_anyChars_of_covers_nil {tokens : List Token} (covered : Covers tokens []) :
    ∀ token ∈ tokens, token = .anyChars := by
  generalize empty : ([] : List Char) = name at covered
  induction covered with
  | nothing => simp
  | one => contradiction
  | any ending onward ih =>
    rw [← empty, List.suffix_nil] at ending
    exact List.forall_mem_cons.2 ⟨rfl, ih ending.symm⟩

/-- A part with wildcards that is read from tokens does not stand for one name. -/
theorem Part.fixedName?_of_ofTokens {tokens wild : List Token}
    (read : Part.ofTokens tokens = .wild wild) : wild = tokens ∧ Part.fixedName? wild = none := by
  unfold Part.ofTokens at read
  split at read
  · contradiction
  · split at read
    · contradiction
    · rename_i loose
      have same := (Part.wild.inj read).symm
      rw [same]
      exact ⟨rfl, loose⟩

/-- A part with wildcards that does not lead up has no entry but those of the folder: if it
matched the dot it would match the two dots too. -/
theorem dotEntries_eq_nil {tokens : List Token} (loose : Part.fixedName? tokens = none)
    (level : ¬ (Part.wild tokens).LeadsUp) : dotEntries tokens = [] := by
  unfold dotEntries
  split
  · rename_i dotted
    have notUp : ¬ Covers tokens "..".toList := by
      intro covered
      exact level ⟨dotted, covered⟩
    have notHere : ¬ Covers tokens ".".toList := by
      intro covered
      obtain ⟨others, rfl⟩ : ∃ others, tokens = .char '.' :: others := by
        cases tokens with
        | nil => contradiction
        | cons token others => exact ⟨others, by rw [Option.some.inj dotted]⟩
      have single : Token.char '.' ≠ .anyChars := by simp
      have rest : Covers others [] := ((covers_single_iff single).1 covered).2
      have stars := eq_anyChars_of_covers_nil rest
      cases others with
      | nil => contradiction
      | cons star others =>
        rw [stars star List.mem_cons_self] at rest notUp
        obtain ⟨behind, ending, onward⟩ := covers_anyChars_iff.1 rest
        rw [List.suffix_nil.1 ending] at onward
        exact notUp (.one single rfl (.any List.nil_suffix onward))
    rw [List.filter_eq_nil_iff]
    intro entry listed
    rw [matchesName_iff]
    simp only [List.mem_cons, List.not_mem_nil, or_false] at listed
    rcases listed with rfl | rfl
    · exact notUp
    · exact notHere
  · rfl

end SarifDigest.Glob
