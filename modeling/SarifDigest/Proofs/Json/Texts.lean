import SarifDigest.Proofs.Json.Grammar

/-!
# Reading texts

The readers of texts accept exactly the texts of the grammar, decoded or passed over. As for
numbers there are two lemmas for each part, but a text has a closing quote, so any rest may
follow it.
-/
namespace SarifDigest.Json

section Escapes

variable {text rest : List Char}

/-- The letters of the table are those that are read. -/
theorem simpleEscape?_eq_some_iff {letter c : Char} :
    simpleEscape? letter = some c ↔ (letter, c) ∈ shortEscapes := by
  simp only [shortEscapes, List.mem_cons, Prod.mk.injEq, List.not_mem_nil, or_false]
  constructor
  · intro found
    unfold simpleEscape? at found
    split at found
    · rename_i itself
      simp only [Option.some.injEq] at found
      subst found
      rcases itself with rfl | rfl | rfl <;> simp
    · repeat' split at found
      all_goals grind
  · rintro (⟨rfl, rfl⟩ | ⟨rfl, rfl⟩ | ⟨rfl, rfl⟩ | ⟨rfl, rfl⟩ | ⟨rfl, rfl⟩ | ⟨rfl, rfl⟩ |
      ⟨rfl, rfl⟩ | ⟨rfl, rfl⟩)
    all_goals rfl

/-- The characters that are read as digits in base sixteen are in ASCII. -/
theorem toNat_lt_of_hexValue? {c : Char} {value : Nat} (digit : hexValue? c = some value) :
    c.toNat < 128 := by
  have below {high : Char} (within : c ≤ high) : c.toNat ≤ high.toNat :=
    UInt32.le_iff_toNat_le.mp within
  unfold hexValue? at digit
  split at digit
  · rename_i decimal
    exact Nat.lt_of_le_of_lt (below decimal.2) (by decide)
  · split at digit
    · rename_i lower
      exact Nat.lt_of_le_of_lt (below lower.2) (by decide)
    · split at digit
      · rename_i upper
        exact Nat.lt_of_le_of_lt (below upper.2) (by decide)
      · simp at digit

/-- The digits in base sixteen that are read are those of the table, with their values. -/
theorem hexValue?_eq_some_iff {c : Char} {value : Nat} :
    hexValue? c = some value ↔ (c, value) ∈ hexValues := by
  constructor
  · intro digit
    have listed : ∀ code < 128, (hexValue? (Char.ofNat code)).all
        (fun value => hexValues.contains (Char.ofNat code, value)) = true := by decide
    have here := listed c.toNat (toNat_lt_of_hexValue? digit)
    rw [Char.ofNat_toNat, digit, Option.all_some] at here
    exact List.contains_iff_mem.mp here
  · intro listed
    have all : (hexValues.all fun digit => hexValue? digit.1 = some digit.2) = true := by decide
    simpa using List.all_eq_true.mp all _ listed

/-- A unit has sixteen bits. -/
theorem UnitText.lt {unit : Nat} {digits : List Char} (written : UnitText unit digits) :
    unit < 0x10000 := by
  have all : (hexValues.all fun digit => digit.2 < 16) = true := by decide
  have small {c : Char} {value : Nat} (listed : (c, value) ∈ hexValues) : value < 16 := by
    simpa using List.all_eq_true.mp all _ listed
  cases written with
  | digits first second third fourth =>
    have := small first
    have := small second
    have := small third
    have := small fourth
    omega

/-- The digits of a unit are read. -/
theorem hexUnit_append {unit : Nat} {digits : List Char} (written : UnitText unit digits) :
    hexUnit (digits ++ rest) = .ok (unit, rest) := by
  cases written with
  | digits first second third fourth =>
    simp [hexUnit, hexValue?_eq_some_iff.mpr first, hexValue?_eq_some_iff.mpr second,
      hexValue?_eq_some_iff.mpr third, hexValue?_eq_some_iff.mpr fourth]

/-- What is read as a unit is four digits. -/
theorem hexUnit_returns {unit : Nat} (read : hexUnit text = .ok (unit, rest)) :
    ∃ digits, UnitText unit digits ∧ text = digits ++ rest := by
  unfold hexUnit at read
  split at read
  · split at read
    · rename_i first second third fourth
      simp only [Except.ok.injEq, Prod.mk.injEq] at read
      obtain ⟨rfl, rfl⟩ := read
      exact ⟨_, .digits (hexValue?_eq_some_iff.mp first) (hexValue?_eq_some_iff.mp second)
        (hexValue?_eq_some_iff.mp third) (hexValue?_eq_some_iff.mp fourth), rfl⟩
    · exact absurd read (refuseUnit_ne_ok _ _)
  · exact absurd read (refuseUnit_ne_ok _ _)

/-- The units that only stand first in a pair have ten bits behind `0xD800`. -/
theorem isLeading_iff {unit : Nat} :
    isLeading unit = true ↔ ∃ half < 0x400, unit = 0xD800 + half := by
  simp only [isLeading, Bool.and_eq_true, decide_eq_true_eq]
  constructor
  · rintro ⟨least, most⟩
    exact ⟨unit - 0xD800, by omega, by omega⟩
  · rintro ⟨half, small, rfl⟩
    omega

/-- The units that only stand second in a pair have ten bits behind `0xDC00`. -/
theorem isTrailing_iff {unit : Nat} :
    isTrailing unit = true ↔ ∃ half < 0x400, unit = 0xDC00 + half := by
  simp only [isTrailing, Bool.and_eq_true, decide_eq_true_eq]
  constructor
  · rintro ⟨least, most⟩
    exact ⟨unit - 0xDC00, by omega, by omega⟩
  · rintro ⟨half, small, rfl⟩
    omega

/-- No unit stands first and second in a pair. -/
theorem isTrailing_of_isLeading {unit : Nat} (leads : isLeading unit = true) :
    isTrailing unit = false := by
  obtain ⟨half, small, rfl⟩ := isLeading_iff.mp leads
  rw [Bool.eq_false_iff, ne_eq, isTrailing_iff]
  rintro ⟨other, _, same⟩
  omega

/-- The code point of two units is the ten bits of the first and those of the second behind all
code points that fit into one unit. -/
theorem pairCode_eq (leading trailing : Nat) :
    pairCode (0xD800 + leading) (0xDC00 + trailing) = 0x10000 + leading * 0x400 + trailing := by
  unfold pairCode
  omega

/-- The code point of a character is no half of a pair. -/
theorem not_half (c : Char) : isLeading c.toNat = false ∧ isTrailing c.toNat = false := by
  have valid := c.valid
  simp only [isLeading, isTrailing, UInt32.isValidChar, Nat.isValidChar, Char.toNat] at valid ⊢
  simp only [Bool.and_eq_false_iff, decide_eq_false_iff_not]
  omega

/-- A number that is a code point is that of its character. -/
theorem toNat_ofNat {code : Nat} (valid : code.isValidChar) : (Char.ofNat code).toNat = code := by
  rw [Char.ofNat, dif_pos valid]
  rfl

/-- Two units that pair up write a code point. -/
theorem pair_valid {leading trailing : Nat} (first : leading < 0x400) (second : trailing < 0x400) :
    (0x10000 + leading * 0x400 + trailing).isValidChar := by
  refine .inr ⟨?_, ?_⟩
  · omega
  · omega

/-- An escape is read as its character. -/
theorem escape_append {c : Char} {form : List Char} (written : EscapeText c form) :
    escape (form ++ rest) = .ok (c, rest) := by
  cases written with
  | @short letter _ listed =>
    have simple := simpleEscape?_eq_some_iff.mpr listed
    have noUnit : letter ≠ 'u' := by
      rintro rfl
      simp [shortEscapes] at listed
    simp [escape, simple]
  | unit digits =>
    have plain := not_half c
    simp [escape, unitEscape, hexUnit_append digits, plain, bind, Except.bind]
  | @pair _ first second high low leading trailing small small' code =>
    have leads := isLeading_iff.mpr ⟨first, small, rfl⟩
    have trails := isTrailing_iff.mpr ⟨second, small', rfl⟩
    have noTrail := isTrailing_of_isLeading leads
    have same : Char.ofNat (pairCode (0xD800 + first) (0xDC00 + second)) = c := by
      rw [pairCode_eq, ← code, Char.ofNat_toNat]
    simp [escape, unitEscape, hexUnit_append leading, hexUnit_append trailing, noTrail, leads,
      trails, same, bind, Except.bind]

/-- What is read as an escape by code point is a unit or a pair of units. -/
theorem unitEscape_returns {c : Char} (read : unitEscape text = .ok (c, rest)) :
    ∃ form, EscapeText c ('u' :: form) ∧ text = form ++ rest := by
  unfold unitEscape at read
  cases first : hexUnit text with
  | error fault => simp [first, bind, Except.bind] at read
  | ok found =>
    obtain ⟨unit, middle⟩ := found
    obtain ⟨high, leading, rfl⟩ := hexUnit_returns first
    have bound := leading.lt
    simp only [first, bind, Except.bind] at read
    split at read
    · simp [refuseAt] at read
    · rename_i noTrail
      split at read
      · rename_i noLead
        simp only [Except.ok.injEq, Prod.mk.injEq] at read
        obtain ⟨rfl, rfl⟩ := read
        have valid : unit.isValidChar := by
          simp only [isLeading, isTrailing, Bool.and_eq_true, decide_eq_true_eq,
            Bool.not_eq_true', Bool.and_eq_false_iff, decide_eq_false_iff_not,
            Nat.isValidChar] at noTrail noLead ⊢
          omega
        exact ⟨high, .unit (by rw [toNat_ofNat valid]; exact leading), rfl⟩
      · rename_i leads
        split at read
        · simp [refuseAt] at read
        · simp [refuseAt] at read
        · rename_i digits
          cases second : hexUnit digits with
          | error fault => simp [second] at read
          | ok found =>
            obtain ⟨other, last⟩ := found
            obtain ⟨low, trailing, rfl⟩ := hexUnit_returns second
            simp only [second] at read
            split at read
            · rename_i trails
              simp only [Except.ok.injEq, Prod.mk.injEq] at read
              obtain ⟨rfl, rfl⟩ := read
              simp only [Bool.not_eq_true', Bool.not_eq_false] at leads
              obtain ⟨first, small, rfl⟩ := isLeading_iff.mp leads
              obtain ⟨second, small', rfl⟩ := isTrailing_iff.mp trails
              have code := toNat_ofNat (pair_valid small small')
              rw [← pairCode_eq] at code
              exact ⟨_, .pair leading trailing small small' (code.trans (pairCode_eq _ _)), by
                rw [List.append_assoc]; rfl⟩
            · simp [refuseAt] at read
        · simp [refuseAfter] at read
        · simp [refuseAfter] at read

/-- What is read as an escape is one of the character. -/
theorem escape_returns {c : Char} (read : escape text = .ok (c, rest)) :
    ∃ form, EscapeText c form ∧ text = form ++ rest := by
  unfold escape at read
  split at read
  · simp [refuseAt] at read
  · obtain ⟨form, written, front⟩ := unitEscape_returns read
    exact ⟨'u' :: form, written, congrArg ('u' :: ·) front⟩
  · rename_i letter others _
    cases simple : simpleEscape? letter with
    | none => simp [simple, refuseAfter] at read
    | some decoded =>
      simp only [simple, Except.ok.injEq, Prod.mk.injEq] at read
      obtain ⟨rfl, rfl⟩ := read
      exact ⟨[letter], .short (simpleEscape?_eq_some_iff.mp simple), rfl⟩

/-- An escape is passed over. -/
theorem passEscape_append {form : List Char} (written : PassedEscape form) :
    passEscape (form ++ rest) = .ok rest := by
  cases written with
  | @short letter c listed =>
    have simple := simpleEscape?_eq_some_iff.mpr listed
    have noUnit : letter ≠ 'u' := by
      rintro rfl
      simp [shortEscapes] at listed
    simp [passEscape, simple]
  | unit digits => simp [passEscape, hexUnit_append digits, Except.map]

/-- What is passed over as an escape is one. -/
theorem passEscape_returns (read : passEscape text = .ok rest) :
    ∃ form, PassedEscape form ∧ text = form ++ rest := by
  unfold passEscape at read
  split at read
  · simp [refuseAt] at read
  · rename_i others
    cases unit : hexUnit others with
    | error fault => simp [unit, Except.map] at read
    | ok found =>
      simp only [unit, Except.map, Except.ok.injEq] at read
      obtain ⟨digits, written, front⟩ := hexUnit_returns unit
      exact ⟨'u' :: digits, .unit written, by rw [front, ← read]; rfl⟩
  · rename_i letter others _
    cases simple : simpleEscape? letter with
    | none => simp [simple, refuseAfter] at read
    | some decoded =>
      simp only [simple, Option.isSome_some, if_true, Except.ok.injEq] at read
      exact ⟨[letter], .short (simpleEscape?_eq_some_iff.mp simple), by simp [read]⟩

end Escapes

section Quoted

variable {text rest : List Char}

/-- The characters that only stand in a text escaped are those before the blank. -/
theorem isControl_eq_false_iff {c : Char} : isControl c = false ↔ 0x20 ≤ c.toNat := by
  simp [isControl]

/-- The characters of a text are decoded up to its closing quote. -/
theorem decodeText_append {chars raw : List Char} (written : CharactersText chars raw) :
    decodeText (raw ++ '"' :: rest) = .ok (chars, rest) := by
  induction written with
  | nil => simp [decodeText]
  | raw noQuote noBackslash plain _ ih =>
    rw [List.cons_append, decodeText, if_neg (by simp [isControl_eq_false_iff.mpr plain]), ih]
    · rfl
    · exact noQuote
    · exact noBackslash
  | escaped escape _ ih =>
    rw [List.cons_append, List.append_assoc, decodeText]
    split
    · rename_i fault refused
      simp [escape_append escape] at refused
    · rename_i decoded next found
      rw [escape_append escape, Except.ok.injEq, Prod.mk.injEq] at found
      obtain ⟨rfl, rfl⟩ := found
      rw [ih]
      rfl

/-- What is decoded stands in front of a closing quote and the rest. -/
theorem decodeText_returns {chars : List Char} (read : decodeText text = .ok (chars, rest)) :
    ∃ raw, CharactersText chars raw ∧ text = raw ++ '"' :: rest := by
  fun_induction decodeText text generalizing chars rest with
  | case1 => simp [refuseAt] at read
  | case2 last =>
    simp only [Except.ok.injEq, Prod.mk.injEq] at read
    obtain ⟨rfl, rfl⟩ := read
    exact ⟨[], .nil, rfl⟩
  | case3 => simp at read
  | case4 last c next found shorter ih =>
    cases tail : decodeText next with
    | error fault => simp [tail, Except.map] at read
    | ok pair =>
      obtain ⟨others, final⟩ := pair
      obtain ⟨raw, written, front⟩ := ih tail
      obtain ⟨form, escape, behind⟩ := escape_returns found
      simp only [tail, Except.map, Except.ok.injEq, Prod.mk.injEq] at read
      obtain ⟨rfl, rfl⟩ := read
      exact ⟨_, .escaped escape written, by simp [behind, front]⟩
  | case5 => simp [refuseAfter] at read
  | case6 c next noQuote noBackslash plain ih =>
    cases tail : decodeText next with
    | error fault => simp [tail, Except.map] at read
    | ok pair =>
      obtain ⟨others, final⟩ := pair
      obtain ⟨raw, written, front⟩ := ih tail
      simp only [tail, Except.map, Except.ok.injEq, Prod.mk.injEq] at read
      obtain ⟨rfl, rfl⟩ := read
      have visible := isControl_eq_false_iff.mp (by simpa using plain)
      exact ⟨_, .raw noQuote noBackslash visible written, by simp [front]⟩

/-- A text is passed over up to its closing quote. -/
theorem passText_append {raw : List Char} (written : PassedCharacters raw) :
    passText (raw ++ '"' :: rest) = .ok rest := by
  induction written with
  | nil => simp [passText]
  | raw noQuote noBackslash plain _ ih =>
    rw [List.cons_append, passText, if_neg (by simp [isControl_eq_false_iff.mpr plain]), ih]
    · exact noQuote
    · exact noBackslash
  | escaped escape _ ih =>
    rw [List.cons_append, List.append_assoc, passText]
    split
    · rename_i fault refused
      simp [passEscape_append escape] at refused
    · rename_i next found
      rw [passEscape_append escape, Except.ok.injEq] at found
      subst found
      exact ih

/-- What is passed over stands in front of a closing quote and the rest. -/
theorem passText_returns (read : passText text = .ok rest) :
    ∃ raw, PassedCharacters raw ∧ text = raw ++ '"' :: rest := by
  fun_induction passText text generalizing rest with
  | case1 => simp [refuseAt] at read
  | case2 last =>
    simp only [Except.ok.injEq] at read
    exact ⟨[], .nil, by rw [read]; rfl⟩
  | case3 => simp at read
  | case4 last next found shorter ih =>
    obtain ⟨raw, written, front⟩ := ih read
    obtain ⟨form, escape, behind⟩ := passEscape_returns found
    exact ⟨_, .escaped escape written, by simp [behind, front]⟩
  | case5 => simp [refuseAt] at read
  | case6 c next noQuote noBackslash plain ih =>
    obtain ⟨raw, written, front⟩ := ih read
    have visible := isControl_eq_false_iff.mp (by simpa using plain)
    exact ⟨_, .raw noQuote noBackslash visible written, by simp [front]⟩

end Quoted

end SarifDigest.Json
