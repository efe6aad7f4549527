import SarifDigest.Yaml.Cursor

/-!
# Scalars of YAML

The five styles of scalars: plain, between single or double quotes, and in a block, as it is
written or folded. Where words are on different lines of a scalar that is not a block, one line
end is a blank and more are one line end fewer.
-/
namespace SarifDigest.Yaml

open Text (Turn)

/-- What stands between two words: blanks, or line ends with the blanks around them. -/
structure Gap where
  blanks : List Char := []
  broken : Bool := false
  first : List Char := []
  others : List Char := []

namespace Gap

/-- What is kept of a gap. -/
def text (gap : Gap) : List Char :=
  if !gap.broken then gap.blanks
  else if gap.first ≠ ['\n'] then gap.first ++ gap.others
  else if gap.others.isEmpty then [' ']
  else gap.others

/-- One step through a gap. Behind a line end no tab may stand left of an indentation. -/
def step (indent : Nat) (gap : Gap) (cursor : Cursor) : Option (Turn Gap Gap × Cursor) :=
  match cursor.lineBreak? with
  | some (kept, next) =>
    if gap.broken then some (.again { gap with others := gap.others ++ kept }, next)
    else some (.again { blanks := [], broken := true, first := kept }, next)
  | none =>
    match cursor.next? with
    | some c =>
      if !isBlank c then some (.done gap, cursor)
      else if gap.broken then
        if c = '\t' && cursor.column < indent then none else some (.again gap, cursor.skip 1)
      else some (.again { gap with blanks := gap.blanks ++ [c] }, cursor.skip 1)
    | none => some (.done gap, cursor)

/-- Read on through a gap. -/
def read (gap : Gap) (indent : Nat) (cursor : Cursor) : Option (Gap × Cursor) :=
  cursor.loop (step indent) gap

end Gap

/-- The characters that a backslash and one character stand for. -/
def simpleEscape? (c : Char) : Option Char :=
  [('0', '\x00'), ('a', '\x07'), ('b', '\x08'), ('t', '\t'), ('\t', '\t'), ('n', '\n'),
    ('v', '\x0b'), ('f', '\x0c'), ('r', '\r'), ('e', '\x1b'), (' ', ' '), ('"', '"'),
    ('/', '/'), ('\\', '\\'), ('N', '\u0085'), ('_', '\u00a0'), ('L', '\u2028'),
    ('P', '\u2029')].lookup c

/-- The digits that an escape by code point has. -/
def codeLength? (c : Char) : Option Nat :=
  [('x', 2), ('u', 4), ('U', 8)].lookup c

/-- The character of an escape, from behind its backslash. -/
def escape (cursor : Cursor) : Option (Char × Cursor) := do
  let c ← cursor.next?
  match codeLength? c with
  | some length =>
    let digits := (cursor.rest.drop 1).take length
    if digits.length < length then none
    else (Text.charOf? digits).map fun c => (c, cursor.skip (length + 1))
  | none => (simpleEscape? c).map fun c => (c, cursor.skip 1)

/-- One step through a scalar between quotes, or its end. -/
def quotedStep (quote : Char) (value : List Char) (cursor : Cursor) :
    Option (Turn (List Char) (List Char) × Cursor) := do
  let c ← cursor.next?
  if cursor.atDocumentMark then none
  else if c = quote then
    if quote = '\'' && cursor.ahead? 1 = some quote then
      some (.again (value ++ [quote]), cursor.skip 2)
    else some (.done value, cursor.skip 1)
  else if c = '\\' && quote = '"' then
    if cursor.seesAt 1 isBreak then do
      let (gap, next) ← Gap.read { broken := true } 0 (cursor.skip 1).skipLineBreak
      some (.again (value ++ gap.text), next)
    else (escape (cursor.skip 1)).map fun (c, next) => (.again (value ++ [c]), next)
  else if isBlank c || isBreak c then do
    let (gap, next) ← Gap.read {} 0 cursor
    some (.again (value ++ gap.text), next)
  else some (.again (value ++ [c]), cursor.skip 1)

/-- A scalar between quotes, from its first quote on. -/
def quotedScalar (quote : Char) (cursor : Cursor) : Option (List Char × Cursor) :=
  (cursor.skip 1).loop (quotedStep quote) []

/-- One step through a word of a plain scalar, or its end. In a flow a colon may not touch an
indicator. -/
def wordStep (inFlow : Bool) (word : List Char) (cursor : Cursor) :
    Option (Turn (List Char) (List Char) × Cursor) :=
  match cursor.next? with
  | none => some (.done word, cursor)
  | some c =>
    let touches := cursor.seesAt 1 [',', '?', '[', ']', '\x7b', '\x7d'].contains
    if isBlank c || isBreak c then some (.done word, cursor)
    else if inFlow && c = ':' && touches then none
    else if (c = ':' && cursor.wordEndsAt 1) ||
        (inFlow && [',', '[', ']', '\x7b', '\x7d'].contains c) then some (.done word, cursor)
    else some (.again (word ++ [c]), cursor.skip 1)

/-- One word of a plain scalar with the gap behind it, or the end of the scalar. The state is
the value so far and the gap behind it. -/
def plainStep (inFlow : Bool) (indent : Nat) (sofar : List Char × Gap) (cursor : Cursor) :
    Option (Turn (List Char × Gap) (List Char × Bool) × Cursor) := do
  let (value, gap) := sofar
  let finish (value : List Char) (gap : Gap) := Turn.done (value, gap.broken)
  if cursor.atDocumentMark || cursor.sees '#' then some (finish value gap, cursor)
  else do
    let (word, next) ← cursor.loop (wordStep inFlow) []
    if word.isEmpty then some (finish value gap, cursor)
    else do
      let value := value ++ gap.text ++ word
      let (gap, last) ← Gap.read {} indent next
      if last.size = next.size || (!inFlow && last.column < indent) then
        some (finish value gap, last)
      else some (.again (value, gap), last)

/-- A plain scalar, and whether it ended at the end of a line. -/
def plainScalar (inFlow : Bool) (indent : Nat) (cursor : Cursor) :
    Option ((List Char × Bool) × Cursor) :=
  cursor.loop (plainStep inFlow indent) ([], {})

/-- What is kept of the line ends behind a block: none, that of its last line, or all. -/
inductive Chomping
  | strip
  | clip
  | keep
deriving DecidableEq

/-- The sign that says what is kept. -/
def chomping? : Option Char → Option Chomping
  | some '+' => some .keep
  | some '-' => some .strip
  | _ => none

/-- The number that a header of a block may give for its indentation. -/
def indentDigit? : Option Char → Option Nat
  | some c => if c.isDigit then some (c.toNat - '0'.toNat) else none
  | none => none

/-- The header of a block from behind its first character, in either order. -/
def blockHeader (cursor : Cursor) : Option ((Chomping × Option Nat) × Cursor) := do
  let ((chomping, digit), cursor) :=
    match chomping? cursor.next? with
    | some chomping =>
      match indentDigit? (cursor.ahead? 1) with
      | some digit => ((chomping, some digit), cursor.skip 2)
      | none => ((chomping, none), cursor.skip 1)
    | none =>
      match indentDigit? cursor.next? with
      | some digit =>
        match chomping? (cursor.ahead? 1) with
        | some chomping => ((chomping, some digit), cursor.skip 2)
        | none => ((Chomping.clip, some digit), cursor.skip 1)
      | none => ((Chomping.clip, none), cursor)
  if digit = some 0 then none
  else (cursor.finishLine?).map fun cursor => ((chomping, digit), cursor)

/-- One empty line of a block, or the start of a line that is not empty. The state is the line
ends so far and the widest indentation. An indentation of zero is not known yet. -/
def emptyLineStep (indent : Nat) (sofar : List Char × Nat) (cursor : Cursor) :
    Option (Turn (List Char × Nat) (List Char × Nat) × Cursor) :=
  let (breaks, widest) := sofar
  let spaces := (cursor.rest.takeWhile (· = ' ')).length
  let cursor := cursor.skip (if indent = 0 then spaces else min spaces (indent - cursor.column))
  let widest := max widest cursor.column
  if (indent = 0 || cursor.column < indent) && cursor.sees '\t' then none
  else
    match cursor.lineBreak? with
    | some (kept, next) => some (.again (breaks ++ kept, widest), next)
    | none => some (.done (breaks, widest), cursor)

/-- A block as far as it is read: its text, the end of the last line, the ends of the empty
lines behind it, and whether the last line starts with a blank. -/
structure Block where
  value : List Char := []
  lineEnd : List Char := []
  breaks : List Char := []
  indented : Bool := false

/-- The text of a block with the line ends before a new line. Folding replaces the end of a
line by a blank, unless that line or the new one is indented further or an empty line is
between them. -/
def Block.joined (block : Block) (folded indented : Bool) : List Char :=
  let between :=
    if folded && block.lineEnd = ['\n'] && !block.indented && !indented then
      if block.breaks.isEmpty then [' '] else []
    else block.lineEnd
  block.value ++ between ++ block.breaks

/-- One line of a block with the empty lines behind it, or the end of the block. -/
def blockStep (folded : Bool) (indent : Nat) (block : Block) (cursor : Cursor) :
    Option (Turn Block Block × Cursor) :=
  if cursor.column ≠ indent || cursor.rest.isEmpty then some (.done block, cursor)
  else do
    let indented := cursor.seesAt 0 isBlank
    let (line, next) := cursor.takeWhile (!isBreak ·)
    let (lineEnd, next) := (next.lineBreak?).getD ([], next)
    let ((breaks, _), next) ← next.loop (emptyLineStep indent) ([], 0)
    some (.again ⟨block.joined folded indented ++ line, lineEnd, breaks, indented⟩, next)

/-- A scalar in a block, from its first character on, inside the given indentation. -/
def blockScalar (parent : Int) (cursor : Cursor) : Option (List Char × Cursor) := do
  let folded := cursor.sees '>'
  let ((chomping, digit), cursor) ← blockHeader (cursor.skip 1)
  let given := match digit with
    | some digit => (max parent 0).toNat + digit
    | none => 0
  let ((breaks, widest), cursor) ← cursor.loop (emptyLineStep given) ([], 0)
  let indent := if given = 0 then max (max widest (parent + 1).toNat) 1 else given
  let (block, cursor) ← cursor.loop (blockStep folded indent) { breaks }
  some (block.value ++ match chomping with
    | .strip => []
    | .clip => block.lineEnd
    | .keep => block.lineEnd ++ block.breaks, cursor)

end SarifDigest.Yaml
