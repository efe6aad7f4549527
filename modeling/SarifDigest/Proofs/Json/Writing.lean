import SarifDigest.Json.Written
import SarifDigest.Proofs.Json.Records

/-!
# Reading written values

What is written of a value is a text of this value in the grammar, in either spacing, so the
value is read back from it. This holds of values whose numbers are integers within the words of
a machine; what is written of a real number is not considered here. The values inside a value
may be nested as deep as the reader allows.
-/
namespace SarifDigest.Json

section Numbers

/-- The decimal digits of a number are digits. -/
theorem digits_toDigits (value : Nat) : Digits (Nat.toDigits 10 value) := by
  constructor
  · exact Nat.toDigits_ne_nil
  · exact fun c inside => Nat.isDigit_of_mem_toDigits (by decide) (by decide) inside

/-- The decimal digits of a positive number do not start with a zero. -/
theorem head?_toDigits {value : Nat} (positive : 0 < value) :
    (Nat.toDigits 10 value).head? ≠ some '0' := by
  induction value using Nat.strongRecOn with
  | ind value ih =>
    rw [Nat.toDigits_eq_if (by decide)]
    by_cases small : value < 10
    · rw [if_pos small]
      simpa [Nat.digitChar_eq_zero] using Nat.ne_of_gt positive
    · have front := ih (value / 10) (by omega) (by omega)
      have some : Nat.toDigits 10 (value / 10) ≠ [] := Nat.toDigits_ne_nil
      rw [if_neg small, List.head?_append_of_ne_nil _ some]
      exact front

/-- The decimal digits of a number are those of an integer. -/
theorem wholeDigits_toDigits (value : Nat) : WholeDigits (Nat.toDigits 10 value) := by
  by_cases zero : value = 0
  · exact .inl (by rw [zero]; rfl)
  · exact .inr ⟨digits_toDigits value, head?_toDigits (Nat.pos_of_ne_zero zero)⟩

/-- The decimal digits of a number write the number. -/
theorem decimal_toDigits (value : Nat) : decimal (Nat.toDigits 10 value) = value :=
  Nat.ofDigitChars_ten_toDigits

/-- The numeral of an integer, given its sign and its size. -/
def Numeral.ofInteger (negative : Bool) (size : Nat) : Numeral :=
  ⟨negative, Nat.toDigits 10 size, [], none⟩

/-- The numeral of an integer has the sign given. -/
@[simp]
theorem Numeral.ofInteger_negative (negative : Bool) (size : Nat) :
    (ofInteger negative size).negative = negative := rfl

/-- The numeral of an integer has no digits behind a point. -/
@[simp]
theorem Numeral.ofInteger_fraction (negative : Bool) (size : Nat) :
    (ofInteger negative size).fraction = [] := rfl

/-- The numeral of an integer has no exponent. -/
@[simp]
theorem Numeral.ofInteger_exponent (negative : Bool) (size : Nat) :
    (ofInteger negative size).exponent = none := rfl

/-- The numeral of an integer is its decimal digits behind the sign. -/
theorem Numeral.written_ofInteger (negative : Bool) (size : Nat) :
    (ofInteger negative size).Written
      ((if negative then ['-'] else []) ++ Nat.toDigits 10 size) := by
  refine ⟨[], [], wholeDigits_toDigits size, .none, .none, ?_⟩
  cases negative <;> simp [ofInteger]

/-- An integer within the words of a machine. -/
def Number.Whole : Number → Prop
  | natural value => value < 2 ^ 64
  | negative size => 0 < size ∧ size ≤ 2 ^ 63
  | real _ _ => False

/-- The text of an integer is a numeral that stands for it. -/
theorem Number.Whole.scalar {number : Number} (whole : number.Whole) :
    ScalarText (.number number) number.text.toList := by
  cases number with
  | natural value =>
    have fits : value < 2 ^ 64 := whole
    have text : (natural value).text.toList =
        (if false then ['-'] else []) ++ Nat.toDigits 10 value := by simp [text]
    rw [text]
    refine .number (Numeral.written_ofInteger false value) ?_
    have digits : decimal (Numeral.ofInteger false value).whole = value := decimal_toDigits value
    have stands := @Numeral.Stands.natural (.ofInteger false value)
      ⟨rfl, rfl, by simpa [digits] using fits⟩ rfl
    rwa [digits] at stands
  | negative size =>
    have fits : 0 < size ∧ size ≤ 2 ^ 63 := whole
    have text : (negative size).text.toList =
        (if true then ['-'] else []) ++ Nat.toDigits 10 size := by simp [text]
    rw [text]
    refine .number (Numeral.written_ofInteger true size) ?_
    have digits : decimal (Numeral.ofInteger true size).whole = size := decimal_toDigits size
    have stands := @Numeral.Stands.negative (.ofInteger true size)
      ⟨rfl, rfl, by simpa [digits] using fits⟩ rfl
    rwa [digits] at stands
  | real => exact whole.elim

end Numbers

section Texts

/-- The digits of base sixteen that are written have their values. -/
theorem hexChar_mem_hexValues {value : Nat} (small : value < 16) :
    (hexChar value, value) ∈ hexValues := by
  have all : ∀ digit : Fin 16, hexValues.contains (hexChar digit, digit.val) = true := by decide
  exact List.contains_iff_mem.mp (all ⟨value, small⟩)

/-- A control character is written as the unit of its code point. -/
theorem unitText_hexChar {c : Char} (control : c.toNat < 0x20) :
    UnitText c.toNat ['0', '0', hexChar (c.toNat / 16), hexChar (c.toNat % 16)] := by
  have zero : ('0', 0) ∈ hexValues := hexChar_mem_hexValues (by decide : 0 < 16)
  have high : (hexChar (c.toNat / 16), c.toNat / 16) ∈ hexValues :=
    hexChar_mem_hexValues (by omega)
  have low : (hexChar (c.toNat % 16), c.toNat % 16) ∈ hexValues :=
    hexChar_mem_hexValues (by omega)
  have unit := UnitText.digits zero zero high low
  have code : ((0 * 16 + 0) * 16 + c.toNat / 16) * 16 + c.toNat % 16 = c.toNat := by omega
  rwa [code] at unit

/-- A character with a short escape is written as that, but for the slash, which needs none. -/
theorem writtenChar_of_short {letter c : Char} (listed : (letter, c) ∈ shortEscapes)
    (other : letter ≠ '/') : writtenChar c = ['\\', letter] := by
  simp only [shortEscapes, List.mem_cons, Prod.mk.injEq, List.not_mem_nil, or_false] at listed
  rcases listed with ⟨rfl, rfl⟩ | ⟨rfl, rfl⟩ | ⟨rfl, rfl⟩ | ⟨rfl, rfl⟩ | ⟨rfl, rfl⟩ | ⟨rfl, rfl⟩ |
    ⟨rfl, rfl⟩ | ⟨rfl, rfl⟩
  all_goals first | rfl | contradiction

/-- Any other character is written as its unit when it is a control character, and as itself
otherwise. -/
theorem writtenChar_of_long {c : Char}
    (long : ∀ letter, (letter, c) ∈ shortEscapes → letter = '/') :
    c ≠ '"' ∧ c ≠ '\\' ∧ writtenChar c =
      if c.toNat < 0x20 then
        ['\\', 'u', '0', '0', hexChar (c.toNat / 16), hexChar (c.toNat % 16)]
      else [c] := by
  have apart : ∀ letter, letter ≠ '/' → ∀ short, (letter, short) ∈ shortEscapes → c ≠ short := by
    intro letter other short listed same
    rw [← same] at listed
    exact other (long letter listed)
  have quote := apart '"' (by decide) '"' (by decide)
  have backslash := apart '\\' (by decide) '\\' (by decide)
  have backspace := apart 'b' (by decide) '\x08' (by decide)
  have formFeed := apart 'f' (by decide) '\x0c' (by decide)
  have lineFeed := apart 'n' (by decide) '\n' (by decide)
  have carriageReturn := apart 'r' (by decide) '\r' (by decide)
  have tab := apart 't' (by decide) '\t' (by decide)
  refine ⟨quote, backslash, ?_⟩
  simp only [writtenChar, quote, backslash, backspace, formFeed, lineFeed, carriageReturn, tab,
    if_false]

/-- What is written of characters stands for them between quotes. -/
theorem charactersText_written (chars : List Char) :
    CharactersText chars (chars.flatMap writtenChar) := by
  induction chars with
  | nil => exact .nil
  | cons c others ih =>
    rw [List.flatMap_cons]
    by_cases short : ∃ letter, (letter, c) ∈ shortEscapes ∧ letter ≠ '/'
    · obtain ⟨letter, listed, other⟩ := short
      rw [writtenChar_of_short listed other]
      exact .escaped (.short listed) ih
    · have long : ∀ letter, (letter, c) ∈ shortEscapes → letter = '/' := by
        intro letter listed
        by_contra other
        exact short ⟨letter, listed, other⟩
      obtain ⟨quote, backslash, written⟩ := writtenChar_of_long long
      rw [written]
      by_cases control : c.toNat < 0x20
      · rw [if_pos control]
        exact .escaped (.unit (unitText_hexChar control)) ih
      · rw [if_neg control]
        exact .raw quote backslash (Nat.le_of_not_lt control) ih

/-- What is written of a text is a text of it. -/
theorem quotedText_written (text : String) : QuotedText text (writtenText text) :=
  ⟨text.toList.flatMap writtenChar, charactersText_written text.toList, rfl⟩

end Texts

section Lists

variable (spacing : Spacing) (level : Nat)

/-- A line break and its indentation are space. -/
theorem Spacing.lineBreak_spaces : Spaces (spacing.lineBreak level) := by
  intro c inside
  cases spacing with
  | compact => simp [lineBreak] at inside
  | indented =>
    simp only [lineBreak, List.mem_cons, List.mem_replicate] at inside
    rcases inside with rfl | ⟨_, rfl⟩
    · decide
    · decide

/-- What stands before an item separates it from the one before. -/
theorem Spacing.separator_beforeItem (first : Bool) :
    Separator first (spacing.beforeItem level first) := by
  cases first with
  | true => exact spacing.lineBreak_spaces level
  | false => exact ⟨[], spacing.lineBreak level, Spaces.nil, spacing.lineBreak_spaces level, rfl⟩

/-- Texts with what stands before each. -/
def Spacing.separated (first : Bool) : List (List Char) → List Char
  | [] => []
  | text :: others => spacing.beforeItem level first ++ text ++ separated false others

/-- Separated texts are listed, with any space before the closing bracket. -/
theorem Spacing.listed_separated {space : List Char} (blank : Spaces space) (close : Char)
    (first : Bool) (texts : List (List Char)) :
    Listed close first texts (spacing.separated level first texts ++ (space ++ [close])) := by
  induction texts generalizing first with
  | nil => exact ⟨space, blank, rfl⟩
  | cons text others ih =>
    refine ⟨spacing.beforeItem level first, _, spacing.separator_beforeItem level first,
      ih false, ?_⟩
    simp only [separated, List.append_assoc]

/-- Texts between brackets are listed behind the opening one. -/
theorem Spacing.enclosed_separated (outer : Nat) (opening close : Char)
    (texts : List (List Char)) :
    ∃ behind, Listed close true texts behind ∧
      spacing.enclosed outer opening close (spacing.separated level true texts) =
        opening :: behind := by
  unfold enclosed
  by_cases empty : (spacing.separated level true texts).isEmpty = true
  · have nothing := List.isEmpty_iff.1 empty
    refine ⟨_, spacing.listed_separated level Spaces.nil close true texts, ?_⟩
    rw [if_pos empty, nothing]
    rfl
  · refine ⟨_, spacing.listed_separated level (spacing.lineBreak_spaces outer) close true texts, ?_⟩
    rw [if_neg empty]
    simp only [List.cons_append, List.append_assoc]

/-- What is written of the items of a sequence is separated. -/
theorem writtenItems_eq (first : Bool) (items : List Value) :
    writtenItems spacing level first items =
      spacing.separated level first (items.map (·.written spacing level)) := by
  induction items generalizing first with
  | nil => rfl
  | cons item others ih =>
    rw [writtenItems, ih]
    rfl

/-- The member of an object as it is written. -/
def writtenEntry (member : String × Value) : Entry String where
  name := member.1
  key := writtenText member.1
  before := []
  after := if spacing = .indented then [' '] else []
  value := member.2.written spacing level

/-- What is written of a member is well formed. -/
theorem writtenEntry_formed (member : String × Value) :
    (writtenEntry spacing level member).Formed QuotedText where
  key := quotedText_written member.1
  before := Spaces.nil
  after := by
    intro c inside
    cases spacing with
    | compact => simp [writtenEntry] at inside
    | indented =>
      have blank : c = ' ' := by simpa [writtenEntry] using inside
      rw [blank]
      decide

/-- What is written of the members of an object is separated. -/
theorem writtenMembers_eq (first : Bool) (members : List (String × Value)) :
    writtenMembers spacing level first members =
      spacing.separated level first
        (members.map fun member => (writtenEntry spacing level member).text) := by
  induction members generalizing first with
  | nil => rfl
  | cons member others ih =>
    rw [writtenMembers, ih]
    cases spacing <;> simp [Spacing.separated, Spacing.colon, Entry.text, writtenEntry]

end Lists

/-- A value that can be read back from what is written of it: its numbers are integers within the
words of a machine, and it opens no more sequences and objects inside each other than given. -/
inductive Value.Writable : Nat → Value → Prop
  | null {depth : Nat} : Writable depth .null
  | boolean {depth : Nat} {value : Bool} : Writable depth (.boolean value)
  | number {depth : Nat} {number : Number} : number.Whole → Writable depth (.number number)
  | text {depth : Nat} {text : String} : Writable depth (.text text)
  | sequence {depth : Nat} {items : List Value} :
      (∀ item ∈ items, Writable depth item) → Writable (depth + 1) (.sequence items)
  | object {depth : Nat} {members : List (String × Value)} :
      (∀ member ∈ members, Writable depth member.2) → Writable (depth + 1) (.object members)

/-- A value without parts is written at any depth. -/
theorem writes_of_scalar {value : Value} {text : List Char} (written : ScalarText value text)
    (depth : Nat) : decoding.Writes depth value text := by
  cases depth with
  | zero => exact .scalar written
  | succ depth => exact .scalar written

/-- What is written of a value, at whatever level and in either spacing, is a text of it. -/
theorem Value.Writable.writes {depth : Nat} {value : Value} (writable : value.Writable depth)
    (spacing : Spacing) (level : Nat) :
    decoding.Writes depth value (value.written spacing level) := by
  induction writable generalizing level with
  | null => exact writes_of_scalar .null _
  | @boolean depth value =>
    cases value with
    | true => exact writes_of_scalar .yes _
    | false => exact writes_of_scalar .no _
  | number whole => exact writes_of_scalar whole.scalar _
  | text => exact writes_of_scalar (.text (quotedText_written _)) _
  | @sequence depth items _ ih =>
    let parts := items.map fun item => (item, item.written spacing (level + 1))
    have values : parts.map (·.1) = items := by simp [parts, Function.comp_def]
    have texts : parts.map (·.2) = items.map (·.written spacing (level + 1)) := by simp [parts]
    obtain ⟨behind, listed, enclosed⟩ := spacing.enclosed_separated (level + 1) level '[' ']'
      (items.map (·.written spacing (level + 1)))
    have forms : ∀ part ∈ parts, decoding.Writes depth part.1 part.2 := by
      intro part inside
      obtain ⟨item, member, rfl⟩ := List.mem_map.1 inside
      exact ih item member (level + 1)
    rw [Value.written, writtenItems_eq, enclosed]
    rw [← texts] at listed
    have layer : decoding.Writes (depth + 1) (.sequence (parts.map (·.1))) ('[' :: behind) :=
      .sequence forms listed
    rw [values] at layer
    exact layer
  | @object depth members _ ih =>
    let parts := members.map fun member => (writtenEntry spacing (level + 1) member, member.2)
    have values : (parts.map fun part => (part.1.name, part.2)) = members := by
      simp [parts, Function.comp_def, writtenEntry]
    have texts : parts.map (·.1.text) =
        members.map fun member => (writtenEntry spacing (level + 1) member).text := by
      simp [parts]
    obtain ⟨behind, listed, enclosed⟩ := spacing.enclosed_separated (level + 1) level '\x7b' '\x7d'
      (members.map fun member => (writtenEntry spacing (level + 1) member).text)
    have forms : ∀ part ∈ parts,
        part.1.Formed decoding.Key ∧ decoding.Writes depth part.2 part.1.value := by
      intro part inside
      obtain ⟨member, listed, rfl⟩ := List.mem_map.1 inside
      exact ⟨writtenEntry_formed spacing (level + 1) member, ih member listed (level + 1)⟩
    rw [Value.written, writtenMembers_eq, enclosed]
    rw [← texts] at listed
    have layer : decoding.Writes (depth + 1)
        (.object (parts.map fun part => (part.1.name, part.2))) ('\x7b' :: behind) :=
      .object forms listed
    rw [values] at layer
    exact layer

/-- The text of a value, with any space behind it, is a document of the value. -/
theorem Value.Writable.document {depth : Nat} {value : Value} (writable : value.Writable depth)
    (spacing : Spacing) {document : String} {space : List Char} (blank : Spaces space)
    (printed : document.toList = (value.render spacing).toList ++ space) :
    DocumentText (decoding.Writes depth) value document := by
  refine ⟨[], value.written spacing 0, space, Spaces.nil, writable.writes spacing 0, blank, ?_⟩
  rw [printed, render, String.toList_ofList, List.nil_append]

end SarifDigest.Json
