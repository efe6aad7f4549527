import SarifDigest.Text.Loop

/-!
# Cursors

A place in a YAML document: the text from there on, and the line, the column and the number of
characters before it. Five characters end a line; a carriage return and a line feed that follow
each other end one line together.
-/
namespace SarifDigest.Yaml

/-- Whether a character may stand in a document at all. -/
def isAllowed (c : Char) : Bool :=
  let code := c.toNat
  code = 0x09 || code = 0x0A || code = 0x0D || (0x20 ≤ code && code ≤ 0x7E) || code = 0x85 ||
    (0xA0 ≤ code && code ≤ 0xD7FF) || (0xE000 ≤ code && code ≤ 0xFFFD && code ≠ 0xFEFF) ||
    0x10000 ≤ code

/-- Whether a character ends a line. -/
def isBreak (c : Char) : Bool :=
  c = '\r' || c = '\n' || c = '\u0085' || c = '\u2028' || c = '\u2029'

/-- Whether a character is a blank within a line. -/
def isBlank (c : Char) : Bool :=
  c = ' ' || c = '\t'

/-- Whether a character may stand in a name. -/
def isWord (c : Char) : Bool :=
  c.isAlphanum || c = '_' || c = '-'

/-- A place in a document. -/
structure Cursor where
  rest : List Char
  index : Nat := 0
  line : Nat := 0
  column : Nat := 0

namespace Cursor

/-- The characters that are left. -/
def size (cursor : Cursor) : Nat := cursor.rest.length

/-- The next character. -/
def next? (cursor : Cursor) : Option Char := cursor.rest.head?

/-- The character at a distance. -/
def ahead? (cursor : Cursor) (distance : Nat) : Option Char := cursor.rest[distance]?

/-- Whether the next character is the given one. -/
def sees (cursor : Cursor) (c : Char) : Bool := cursor.next? = some c

/-- Whether there is a character at a distance that satisfies a condition. -/
def seesAt (cursor : Cursor) (distance : Nat) (condition : Char → Bool) : Bool :=
  (cursor.ahead? distance).any condition

/-- Whether a word ends at a distance: with a blank, a line end or the end. -/
def wordEndsAt (cursor : Cursor) (distance : Nat) : Bool :=
  (cursor.ahead? distance).all fun c => isBlank c || isBreak c

/-- Whether the line ends here. -/
def atLineEnd (cursor : Cursor) : Bool :=
  cursor.next?.all isBreak

/-- The place some characters on in the same line. -/
def skip (cursor : Cursor) (count : Nat) : Cursor :=
  { cursor with
    rest := cursor.rest.drop count
    index := cursor.index + count
    column := cursor.column + count }

/-- The place at the start of the next line. -/
def nextLine (cursor : Cursor) (rest : List Char) : Cursor where
  rest := rest
  index := cursor.index + (cursor.rest.length - rest.length)
  line := cursor.line + 1
  column := 0

/-- The end of a line here, as it is kept in a text, and the place behind it. -/
def lineBreak? (cursor : Cursor) : Option (List Char × Cursor) :=
  match cursor.rest with
  | '\r' :: '\n' :: rest => some (['\n'], cursor.nextLine rest)
  | c :: rest =>
    if !isBreak c then none
    else
      let kept := if c = '\u2028' || c = '\u2029' then c else '\n'
      some ([kept], cursor.nextLine rest)
  | [] => none

/-- The place behind the end of a line, if one is here. -/
def skipLineBreak (cursor : Cursor) : Cursor :=
  match cursor.lineBreak? with
  | some (_, cursor) => cursor
  | none => cursor

/-- The place behind the characters that satisfy a condition. -/
def skipWhile (cursor : Cursor) (condition : Char → Bool) : Cursor :=
  cursor.skip (cursor.rest.takeWhile condition).length

/-- The characters that satisfy a condition, and the place behind them. -/
def takeWhile (cursor : Cursor) (condition : Char → Bool) : List Char × Cursor :=
  let taken := cursor.rest.takeWhile condition
  (taken, cursor.skip taken.length)

/-- The place behind a comment that may start here. -/
def skipComment (cursor : Cursor) : Cursor :=
  if cursor.sees '#' then cursor.skipWhile (!isBreak ·) else cursor

/-- Whether a line that starts or ends a document begins here. -/
def atDocumentMark (cursor : Cursor) : Bool :=
  let mark := cursor.rest.take 3
  cursor.column = 0 && (mark = ['-', '-', '-'] || mark = ['.', '.', '.']) && cursor.wordEndsAt 3

/-- The place behind the end of a line before which only blanks and a comment may stand. -/
def finishLine? (cursor : Cursor) : Option Cursor :=
  let cursor := (cursor.skipWhile isBlank).skipComment
  if cursor.atLineEnd then some cursor.skipLineBreak else none

/-- Take steps from a state on until one ends the loop. -/
def loop {σ ρ : Type} (step : σ → Cursor → Option (Text.Turn σ ρ × Cursor)) (state : σ)
    (cursor : Cursor) : Option (ρ × Cursor) :=
  Text.loopOn size step state cursor

end Cursor

end SarifDigest.Yaml
