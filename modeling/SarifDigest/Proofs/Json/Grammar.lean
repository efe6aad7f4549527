import SarifDigest.Json.Record
import SarifDigest.Json.Value
import SarifDigest.Proofs.Binary64.Nearest

/-!
# The grammar of documents

How values are written, said without a reader: a relation between a value and a text for every
kind of value. There are three regimes. Values of any kind are decoded, up to a depth and within
the range of numbers; values that nobody asked for are passed over, at any depth; and the values
that a schema names are texts, integers, sequences and records, where a record is an object or a
sequence of its members. Space may stand between tokens and is no part of a value. Of the readers
nothing is used here, neither of what they take for a digit or for space nor of what they make of
digits and escapes: that they agree with the grammar is what is proved of them.
-/
namespace SarifDigest.Json

/-- A text of nothing but space: blanks, line feeds, tabs and carriage returns. -/
def Spaces (text : List Char) : Prop :=
  ∀ c ∈ text, c = ' ' ∨ c = '\n' ∨ c = '\t' ∨ c = '\r'

section Numbers

/-- At least one decimal digit, and nothing else. -/
def Digits (text : List Char) : Prop :=
  text ≠ [] ∧ ∀ c ∈ text, c.isDigit = true

/-- The digits of an integer, where a leading zero stands alone. -/
def WholeDigits (text : List Char) : Prop :=
  text = ['0'] ∨ Digits text ∧ text.head? ≠ some '0'

/-- The digits of a fraction, with the point before them if there are any. -/
inductive FractionText : List Char → List Char → Prop
  | none : FractionText [] []
  | some {digits : List Char} : Digits digits → FractionText digits ('.' :: digits)

/-- The sign of an exponent; a positive one may go without. -/
inductive SignText : Bool → List Char → Prop
  | unsigned : SignText false []
  | plus : SignText false ['+']
  | minus : SignText true ['-']

/-- The letter, the sign and the digits of an exponent, if there is one. -/
inductive PowerText : Option (Bool × List Char) → List Char → Prop
  | none : PowerText none []
  | some {letter : Char} {negative : Bool} {sign digits : List Char} :
      letter = 'e' ∨ letter = 'E' → SignText negative sign → Digits digits →
      PowerText (some (negative, digits)) (letter :: (sign ++ digits))

/-- A numeral and its text. -/
def Numeral.Written (numeral : Numeral) (text : List Char) : Prop :=
  ∃ fraction power,
    WholeDigits numeral.whole ∧ FractionText numeral.fraction fraction ∧
      PowerText numeral.exponent power ∧
      text = (if numeral.negative then ['-'] else []) ++ (numeral.whole ++ (fraction ++ power))

/-- The number that digits write. -/
def decimal (digits : List Char) : Nat :=
  Nat.ofDigitChars 10 digits 0

/-- An integer of 64 bits with a sign. A minus stands before positive numbers only. -/
inductive IntegerText : Int → List Char → Prop
  | natural {digits : List Char} :
      WholeDigits digits → decimal digits < 2 ^ 63 → IntegerText (decimal digits) digits
  | negative {digits : List Char} :
      WholeDigits digits → 0 < decimal digits → decimal digits ≤ 2 ^ 63 →
      IntegerText (-decimal digits) ('-' :: digits)

/-- A numeral that writes an integer of 64 bits: it has no fraction and no exponent, and with a
minus it is positive and has a bit for the sign. -/
def Numeral.Integral (numeral : Numeral) : Prop :=
  numeral.fraction = [] ∧ numeral.exponent = none ∧
    if numeral.negative then 0 < decimal numeral.whole ∧ decimal numeral.whole ≤ 2 ^ 63
    else decimal numeral.whole < 2 ^ 64

/-- Digits are cut behind others where they stop fitting into 64 bits: those that are kept do, and
the next one would not. -/
structure CutAt (front digits kept cut : List Char) : Prop where
  whole : digits = kept ++ cut
  fits : decimal (front ++ kept) < 2 ^ 64
  stops : ∀ c, cut.head? = some c → 2 ^ 64 ≤ decimal (front ++ kept ++ [c])

/-- The significand of a numeral and its power of ten while the exponent does not count: the digits
before the point and those behind it, each cut where they stop fitting. Digits before the point
count as places even when they are cut. -/
inductive Numeral.Significand (numeral : Numeral) : Nat → Int → Prop
  | kept {whole cut fraction tail : List Char} :
      CutAt [] numeral.whole whole cut → CutAt whole numeral.fraction fraction tail →
      numeral.Significand (decimal (whole ++ fraction)) (cut.length - fraction.length)

/-- The power of ten that the exponent writes, none without an exponent. -/
def Numeral.power (numeral : Numeral) : Int :=
  match numeral.exponent with
  | none => 0
  | some (negative, digits) => if negative then -decimal digits else decimal digits

/-- The double that a numeral is rounded to: its significand at the power of ten. An exponent past
32 bits leaves nothing but zero, and that only of zero or below one. -/
inductive Numeral.Rounded (numeral : Numeral) : Binary64 → Prop
  | raised {significand : Nat} {places : Int} {start size : Binary64} :
      numeral.Significand significand places → numeral.power.natAbs < 2 ^ 31 →
      Binary64.Nearest significand start → start.Raised (places + numeral.power) size →
      numeral.Rounded size
  | vanishing {significand : Nat} {places : Int} :
      numeral.Significand significand places → 2 ^ 31 ≤ numeral.power.natAbs →
      significand = 0 ∨ numeral.power < 0 → numeral.Rounded .zero

/-- The number that a numeral stands for: an integer of 64 bits itself, and any other number the
double that it is rounded to. One that is past the doubles stands for none. -/
inductive Numeral.Stands (numeral : Numeral) : Number → Prop
  | natural : numeral.Integral → numeral.negative = false →
      numeral.Stands (.natural (decimal numeral.whole))
  | negative : numeral.Integral → numeral.negative = true →
      numeral.Stands (.negative (decimal numeral.whole))
  | real {size : Binary64} : ¬ numeral.Integral → numeral.Rounded size →
      numeral.Stands (.real numeral.negative size)

end Numbers

section Texts

/-- The letters behind a backslash, and the characters that they stand for. -/
def shortEscapes : List (Char × Char) :=
  [('"', '"'), ('\\', '\\'), ('/', '/'), ('b', '\x08'), ('f', '\x0c'), ('n', '\n'),
    ('r', '\r'), ('t', '\t')]

/-- The digits in base sixteen with their values, those past nine as letters of either case. -/
def hexValues : List (Char × Nat) :=
  [('0', 0), ('1', 1), ('2', 2), ('3', 3), ('4', 4), ('5', 5), ('6', 6), ('7', 7), ('8', 8),
    ('9', 9), ('a', 10), ('b', 11), ('c', 12), ('d', 13), ('e', 14), ('f', 15), ('A', 10),
    ('B', 11), ('C', 12), ('D', 13), ('E', 14), ('F', 15)]

/-- Four digits in base sixteen, and the unit that they write. -/
inductive UnitText : Nat → List Char → Prop
  | digits {a b c d : Char} {first second third fourth : Nat} :
      (a, first) ∈ hexValues → (b, second) ∈ hexValues → (c, third) ∈ hexValues →
      (d, fourth) ∈ hexValues →
      UnitText (((first * 16 + second) * 16 + third) * 16 + fourth) [a, b, c, d]

/-- An escaped character, behind the backslash: by a letter, by its code point, or by the pair
of units of a code point too large for one, which have ten bits of it each. -/
inductive EscapeText : Char → List Char → Prop
  | short {letter c : Char} : (letter, c) ∈ shortEscapes → EscapeText c [letter]
  | unit {c : Char} {digits : List Char} :
      UnitText c.toNat digits → EscapeText c ('u' :: digits)
  | pair {c : Char} {leading trailing : Nat} {high low : List Char} :
      UnitText (0xD800 + leading) high → UnitText (0xDC00 + trailing) low →
      leading < 0x400 → trailing < 0x400 → c.toNat = 0x10000 + leading * 0x400 + trailing →
      EscapeText c ('u' :: (high ++ '\\' :: 'u' :: low))

/-- The characters of a text as they stand between its quotes, each escaped or as itself. Control
characters only stand there escaped. -/
inductive CharactersText : List Char → List Char → Prop
  | nil : CharactersText [] []
  | raw {c : Char} {others text : List Char} :
      c ≠ '"' → c ≠ '\\' → 0x20 ≤ c.toNat → CharactersText others text →
      CharactersText (c :: others) (c :: text)
  | escaped {c : Char} {others escape text : List Char} :
      EscapeText c escape → CharactersText others text →
      CharactersText (c :: others) ('\\' :: (escape ++ text))

/-- A text and how it is written, with its quotes. -/
def QuotedText (value : String) (text : List Char) : Prop :=
  ∃ raw, CharactersText value.toList raw ∧ text = '"' :: (raw ++ ['"'])

/-- An escape that is passed over, behind the backslash: any unit will do. -/
inductive PassedEscape : List Char → Prop
  | short {letter c : Char} : (letter, c) ∈ shortEscapes → PassedEscape [letter]
  | unit {unit : Nat} {digits : List Char} : UnitText unit digits → PassedEscape ('u' :: digits)

/-- What stands between the quotes of a text that is passed over. -/
inductive PassedCharacters : List Char → Prop
  | nil : PassedCharacters []
  | raw {c : Char} {text : List Char} :
      c ≠ '"' → c ≠ '\\' → 0x20 ≤ c.toNat → PassedCharacters text →
      PassedCharacters (c :: text)
  | escaped {escape text : List Char} :
      PassedEscape escape → PassedCharacters text → PassedCharacters ('\\' :: (escape ++ text))

/-- A text that is passed over, with its quotes. -/
def PassedText (text : List Char) : Prop :=
  ∃ raw, PassedCharacters raw ∧ text = '"' :: (raw ++ ['"'])

end Texts

section Lists

/-- What stands before an item: space before the first, and a comma with space on both sides
before another. -/
def Separator (first : Bool) (text : List Char) : Prop :=
  if first then Spaces text
  else ∃ before behind, Spaces before ∧ Spaces behind ∧ text = before ++ ',' :: behind

/-- A sequence or an object from an item or its end on: the items with what separates them,
and the closing bracket or brace. -/
def Listed (close : Char) : Bool → List (List Char) → List Char → Prop
  | _, [], text => ∃ space, Spaces space ∧ text = space ++ [close]
  | first, item :: others, text =>
    ∃ separator rest, Separator first separator ∧ Listed close false others rest ∧
      text = separator ++ (item ++ rest)

/-- A member of an object as it is written: its key with the name that this gives, the space
around the colon, and the text of its value. -/
structure Entry (κ : Type) where
  name : κ
  key : List Char
  before : List Char
  after : List Char
  value : List Char

variable {κ : Type}

/-- The text of a member. -/
def Entry.text (entry : Entry κ) : List Char :=
  entry.key ++ (entry.before ++ ':' :: (entry.after ++ entry.value))

/-- A member is well formed when its key writes its name and space surrounds its colon. Of its
value nothing is said. -/
structure Entry.Formed (Key : κ → List Char → Prop) (entry : Entry κ) : Prop where
  key : Key entry.name entry.key
  before : Spaces entry.before
  after : Spaces entry.after

end Lists

section Values

/-- A regime of reading values: which values have no parts and how those are written, how keys
are written, and what the parts of a sequence or an object make. -/
structure Regime (ν κ : Type) where
  Scalar : ν → List Char → Prop
  Key : κ → List Char → Prop
  sequence : List ν → ν
  object : List (κ × ν) → ν

/-- The values of a regime and their texts, where the values inside them are written as given.
There are none inside where the nesting ends. -/
inductive Regime.Layer {ν κ : Type} (regime : Regime ν κ) :
    Option (ν → List Char → Prop) → ν → List Char → Prop
  | scalar {Inner : Option (ν → List Char → Prop)} {value : ν} {text : List Char} :
      regime.Scalar value text → regime.Layer Inner value text
  | sequence {Form : ν → List Char → Prop} {parts : List (ν × List Char)}
      {behind : List Char} :
      (∀ part ∈ parts, Form part.1 part.2) → Listed ']' true (parts.map (·.2)) behind →
      regime.Layer (some Form) (regime.sequence (parts.map (·.1))) ('[' :: behind)
  | object {Form : ν → List Char → Prop} {parts : List (Entry κ × ν)} {behind : List Char} :
      (∀ part ∈ parts, part.1.Formed regime.Key ∧ Form part.2 part.1.value) →
      Listed '\x7d' true (parts.map (·.1.text)) behind →
      regime.Layer (some Form) (regime.object (parts.map fun part => (part.1.name, part.2)))
        ('\x7b' :: behind)

/-- The values of a regime and their texts, as far as these open no more sequences and objects
inside each other than given. -/
def Regime.Writes {ν κ : Type} (regime : Regime ν κ) : Nat → ν → List Char → Prop
  | 0 => regime.Layer none
  | depth + 1 => regime.Layer (some (regime.Writes depth))

/-- A decoded value without parts: a word, a number that is not too large, or a text. -/
inductive ScalarText : Value → List Char → Prop
  | null : ScalarText .null ['n', 'u', 'l', 'l']
  | yes : ScalarText (.boolean true) ['t', 'r', 'u', 'e']
  | no : ScalarText (.boolean false) ['f', 'a', 'l', 's', 'e']
  | number {numeral : Numeral} {number : Number} {text : List Char} :
      numeral.Written text → numeral.Stands number → ScalarText (.number number) text
  | text {value : String} {text : List Char} :
      QuotedText value text → ScalarText (.text value) text

/-- A value without parts that is passed over: a word, a number of any size, or a text. -/
inductive PassedScalar : List Char → Prop
  | null : PassedScalar ['n', 'u', 'l', 'l']
  | yes : PassedScalar ['t', 'r', 'u', 'e']
  | no : PassedScalar ['f', 'a', 'l', 's', 'e']
  | number {numeral : Numeral} {text : List Char} : numeral.Written text → PassedScalar text
  | text {text : List Char} : PassedText text → PassedScalar text

/-- The regime of values that are decoded. -/
def decoding : Regime Value String where
  Scalar := ScalarText
  Key := QuotedText
  sequence := .sequence
  object := .object

/-- The regime of values that are passed over. -/
def passing : Regime Unit Unit where
  Scalar _ text := PassedScalar text
  Key _ text := PassedText text
  sequence := discard
  object := discard

/-- A text that is passed over as a value, however deep it is nested. -/
def Passed (text : List Char) : Prop :=
  ∃ depth, passing.Writes depth () text

end Values

section Records

variable {α σ : Type}

/-- A value or its absence, which null writes. -/
def OptionalText (Form : α → List Char → Prop) : Option α → List Char → Prop
  | none, text => text = ['n', 'u', 'l', 'l']
  | some value, text => Form value text

/-- A sequence of values. -/
def SequenceText (Form : α → List Char → Prop) (values : List α) (text : List Char) : Prop :=
  ∃ (parts : List (α × List Char)) (behind : List Char),
    (∀ part ∈ parts, Form part.1 part.2) ∧ Listed ']' true (parts.map (·.2)) behind ∧
      values = parts.map (·.1) ∧ text = '[' :: behind

/-- A place for a member in the records of a type: the name of the member, how a record
determines its value, and which records may go without it. -/
structure Slot (σ : Type) where
  name : String
  Written : σ → List Char → Prop
  Absent : σ → Prop

/-- The slot of a value that may be absent. -/
def Slot.optional (name : String) (get : σ → Option α) (Form : α → List Char → Prop) :
    Slot σ where
  name := name
  Written record text := OptionalText Form (get record) text
  Absent record := get record = none

/-- A record and the members of an object that it is written as: in any order, those of the
slots once at most and with the values of the record, and any others passed over. -/
structure ObjectForm (slots : List (Slot σ)) (record : σ) (entries : List (Entry String)) :
    Prop where
  formed : ∀ entry ∈ entries, entry.Formed QuotedText
  once : ((entries.map (·.name)).filter (· ∈ slots.map (·.name))).Nodup
  written : ∀ entry ∈ entries, ∀ slot ∈ slots, slot.name = entry.name →
    slot.Written record entry.value
  absent : ∀ slot ∈ slots, slot.name ∉ entries.map (·.name) → slot.Absent record
  passed : ∀ entry ∈ entries, entry.name ∉ slots.map (·.name) → Passed entry.value

/-- A record and the values of a sequence that it is written as: those of its slots in their
order, where the last ones may be left out when they are absent. -/
structure SequenceForm (slots : List (Slot σ)) (record : σ) (values : List (List Char)) :
    Prop where
  fits : values.length ≤ slots.length
  written : ∀ pair ∈ slots.zip values, pair.1.Written record pair.2
  absent : ∀ slot ∈ slots.drop values.length, slot.Absent record

/-- A record and its text, in either form. -/
inductive RecordText (slots : List (Slot σ)) (record : σ) : List Char → Prop
  | object {entries : List (Entry String)} {behind : List Char} :
      ObjectForm slots record entries → Listed '\x7d' true (entries.map (·.text)) behind →
      RecordText slots record ('\x7b' :: behind)
  | sequence {values : List (List Char)} {behind : List Char} :
      SequenceForm slots record values → Listed ']' true values behind →
      RecordText slots record ('[' :: behind)

/-- A whole document: a value with nothing but space around it. -/
def DocumentText (Form : α → List Char → Prop) (value : α) (document : String) : Prop :=
  ∃ before text behind, Spaces before ∧ Form value text ∧ Spaces behind ∧
    document.toList = before ++ (text ++ behind)

end Records

end SarifDigest.Json
