import SarifDigest.Yaml.Scalar

/-!
# Tokens of YAML

A document in tokens. In a block the indentation of lines takes the place of brackets and
gives tokens of its own. A key needs no sign in front of it: whatever may be one is remembered,
and when a colon follows on the same line a token is put before it.
-/
namespace SarifDigest.Yaml

open Text (Turn)

/-- A token. -/
inductive Token
  | version (major minor : Nat)
  | tagHandle (handle base : String)
  | documentStart
  | documentEnd
  | blockSequenceStart
  | blockMappingStart
  | blockEnd
  | flowSequenceStart
  | flowSequenceEnd
  | flowMappingStart
  | flowMappingEnd
  | blockEntry
  | flowEntry
  | key
  | value
  | alias (name : String)
  | anchor (name : String)
  | tag (handle suffix : String)
  | scalar (plain : Bool) (text : String)
deriving DecidableEq

/-- Something that may turn out to be a key: where it is, the number of tokens before it, and
whether it has to be one. -/
structure KeyPlace where
  required : Bool
  tokens : Nat
  line : Nat
  column : Nat
  index : Nat

/-- What has been read of a stream: the tokens, the columns of the open blocks from the
innermost on, and the possible key of each open flow from the innermost on, with that of the
blocks at the end. -/
structure Scanner where
  cursor : Cursor
  tokens : List Token := []
  indents : List Nat := []
  keyAllowed : Bool := true
  keys : List (Option KeyPlace) := [none]

namespace Scanner

/-- The column of the innermost block, -1 outside all. -/
def indent (scanner : Scanner) : Int :=
  match scanner.indents with
  | column :: _ => column
  | [] => -1

/-- Whether a flow is open. -/
def inFlow (scanner : Scanner) : Bool :=
  1 < scanner.keys.length

/-- Add a token. -/
def push (scanner : Scanner) (token : Token) : Scanner :=
  { scanner with tokens := scanner.tokens ++ [token] }

/-- Add a token that takes the next characters. -/
def pushOver (scanner : Scanner) (token : Token) (count : Nat) : Scanner :=
  { scanner.push token with cursor := scanner.cursor.skip count }

/-- Say whether a key may come next. -/
def allowKey (scanner : Scanner) (allowed : Bool) : Scanner :=
  { scanner with keyAllowed := allowed }

/-- Whether something is too far back to be a key here: on another line, or 1024 characters. -/
def isStale (cursor : Cursor) (place : KeyPlace) : Bool :=
  place.line < cursor.line || place.index + 1024 < cursor.index

/-- Give up the possible keys that are too far back, of which none may be required. -/
def dropStaleKeys (scanner : Scanner) : Option Scanner :=
  let stale (key : Option KeyPlace) : Bool := key.any (isStale scanner.cursor)
  if scanner.keys.any fun key => stale key && key.any (·.required) then none
  else some { scanner with
    keys := scanner.keys.map fun key => if stale key then none else key }

/-- Give up the innermost possible key, which may not be required. -/
def dropKey (scanner : Scanner) : Option Scanner :=
  match scanner.keys with
  | some place :: outer =>
    if place.required then none else some { scanner with keys := none :: outer }
  | _ => some scanner

/-- Remember a possible key here, if a key may come next. It is required where a line starts at
the column of its block. -/
def saveKey (scanner : Scanner) : Option Scanner :=
  if !scanner.keyAllowed then some scanner
  else do
    let cursor := scanner.cursor
    let scanner ← scanner.dropKey
    some { scanner with keys := some {
      required := !scanner.inFlow && scanner.indent = cursor.column
      tokens := scanner.tokens.length
      line := cursor.line
      column := cursor.column
      index := cursor.index } :: scanner.keys.drop 1 }

/-- Open a block at a column with a token at a position, unless one is open at that column or
further in. -/
def openBlock (scanner : Scanner) (column position : Nat) (token : Token) : Scanner :=
  if scanner.inFlow || (column : Int) ≤ scanner.indent then scanner
  else { scanner with
    indents := column :: scanner.indents
    tokens := scanner.tokens.insertIdx position token }

/-- Close the blocks further in than a column. -/
def closeBlocks (scanner : Scanner) (column : Int) : Scanner :=
  if scanner.inFlow then scanner
  else
    let closed := scanner.indents.takeWhile fun (indent : Nat) => column < (indent : Int)
    { scanner with
      indents := scanner.indents.drop closed.length
      tokens := scanner.tokens ++ closed.map fun _ => Token.blockEnd }

/-- One step over what may stand between tokens. A line end lets a key come next in a block. A
tab is no space where it could pass for indentation. -/
def spaceStep (inFlow : Bool) (keyAllowed : Bool) (cursor : Cursor) :
    Option (Turn Bool Bool × Cursor) :=
  let isSpace (c : Char) := c = ' ' || (c = '\t' && (inFlow || !keyAllowed))
  let next := (cursor.skipWhile isSpace).skipComment
  match next.lineBreak? with
  | some (_, next) => some (.again (keyAllowed || !inFlow), next)
  | none => some (.done keyAllowed, next)

/-- The scanner at the next token. -/
def skipSpace (scanner : Scanner) : Option Scanner :=
  (scanner.cursor.loop (spaceStep scanner.inFlow) scanner.keyAllowed).map
    fun (keyAllowed, cursor) => { scanner with keyAllowed, cursor }

/-- The scanner outside all blocks, without a possible key. -/
def reset (scanner : Scanner) : Option Scanner :=
  ((scanner.closeBlocks (-1)).dropKey).map (·.allowKey false)

/-- A token that a possible key may start with. -/
def mayBeKey (scanner : Scanner) (read : Cursor → Option (Token × Cursor)) : Option Scanner := do
  let scanner ← scanner.saveKey
  let (token, cursor) ← read scanner.cursor
  some { (scanner.push token).allowKey false with cursor }

/-- A number of a version. -/
def versionNumber (cursor : Cursor) : Option (Nat × Cursor) :=
  let (digits, cursor) := cursor.takeWhile Char.isDigit
  if digits.isEmpty || 9 < digits.length then none
  else (Text.numberOf? 10 digits).map fun number => (number, cursor)

/-- The two numbers of a version. -/
def versionValue (cursor : Cursor) : Option (Token × Cursor) := do
  let (major, cursor) ← versionNumber (cursor.skipWhile isBlank)
  if !cursor.sees '.' then none
  else do
    let (minor, cursor) ← versionNumber (cursor.skip 1)
    some (.version major minor, cursor)

/-- The handle of a tag: an exclamation mark, and perhaps a word and a second one. -/
def tagHandle? (cursor : Cursor) : Option (List Char × Cursor) :=
  if !cursor.sees '!' then none
  else
    let (word, cursor) := (cursor.skip 1).takeWhile isWord
    if cursor.sees '!' then some ('!' :: word ++ ['!'], cursor.skip 1)
    else some ('!' :: word, cursor)

/-- The characters of a tag; some only where it is written in full. -/
def isTagChar (full : Bool) (c : Char) : Bool :=
  isWord c || [';', '/', '?', ':', '@', '&', '=', '+', '$', '.', '!', '~', '*', '\'', '(', ')',
    '%'].contains c || (full && [',', '[', ']'].contains c)

/-- The bytes that the escapes at the front of a text give, as far as there are escapes. -/
def escapedBytes : List Char → List UInt8
  | '%' :: a :: b :: rest =>
    match Text.numberOf? 16 [a, b] with
    | some byte => byte.toUInt8 :: escapedBytes rest
    | none => []
  | _ => []

/-- The bytes of the character that starts with a byte. -/
def encodedLength (first : UInt8) : Nat :=
  if first < 0x80 then 1
  else if 0xC0 ≤ first && first < 0xE0 then 2
  else if 0xE0 ≤ first && first < 0xF0 then 3
  else if 0xF0 ≤ first && first < 0xF8 then 4
  else 0

/-- The character that escapes at the front of a text give, and the text behind them. -/
def escapedChar (text : List Char) : Option (Char × List Char) := do
  let bytes := escapedBytes text
  let first ← bytes.head?
  let length := encodedLength first
  let decoded ← String.fromUTF8? ⟨(bytes.take length).toArray⟩
  let c ← decoded.toList.head?
  if bytes.length < length then none else some (c, text.drop (3 * length))

/-- One character of a tag, or its end. -/
def tagStep (full : Bool) (sofar : List Char) (cursor : Cursor) :
    Option (Turn (List Char) (List Char) × Cursor) :=
  match cursor.next? with
  | some c =>
    if c = '%' then do
      let (c, rest) ← escapedChar cursor.rest
      some (.again (sofar ++ [c]), cursor.skip (cursor.rest.length - rest.length))
    else if isTagChar full c then some (.again (sofar ++ [c]), cursor.skip 1)
    else some (.done sofar, cursor)
  | none => some (.done sofar, cursor)

/-- The rest of a tag behind what is read of it, which is not empty in all. -/
def tagText (full : Bool) (before : List Char) (cursor : Cursor) :
    Option (List Char × Cursor) := do
  let (text, next) ← cursor.loop (tagStep full) (before.drop 1)
  if before.isEmpty && text.isEmpty then none else some (text, next)

/-- The handle and the base of tags that a directive gives. -/
def tagValue (cursor : Cursor) : Option (Token × Cursor) := do
  let (handle, cursor) ← tagHandle? (cursor.skipWhile isBlank)
  if handle.length ≠ 1 && handle.getLast? ≠ some '!' || !cursor.seesAt 0 isBlank then none
  else do
    let (base, cursor) ← tagText true [] (cursor.skipWhile isBlank)
    if !cursor.wordEndsAt 0 then none
    else some (.tagHandle (.ofList handle) (.ofList base), cursor)

/-- A directive, up to the end of its line. -/
def directive (scanner : Scanner) : Option Scanner := do
  let scanner ← scanner.reset
  let (name, cursor) := (scanner.cursor.skip 1).takeWhile isWord
  if !cursor.wordEndsAt 0 then none
  else do
    let (token, cursor) ←
      if name = ['Y', 'A', 'M', 'L'] then versionValue cursor
      else if name = ['T', 'A', 'G'] then tagValue cursor
      else none
    some { scanner.push token with cursor := ← cursor.finishLine? }

/-- The name of an anchor or an alias, from its sign on. -/
def anchorName (make : String → Token) (cursor : Cursor) : Option (Token × Cursor) :=
  let (name, next) := (cursor.skip 1).takeWhile isWord
  let ends :=
    next.wordEndsAt 0 || next.seesAt 0 ['?', ':', ',', ']', '\x7d', '%', '@', '`'].contains
  if name.isEmpty || !ends then none else some (make (.ofList name), next)

/-- A tag without what has to follow it: in full, behind a handle, or behind the primary
handle. An exclamation mark alone is a tag of its own. -/
def tagToken (cursor : Cursor) : Option (Token × Cursor) :=
  if cursor.ahead? 1 = some '<' then do
    let (suffix, next) ← tagText true [] (cursor.skip 2)
    if next.sees '>' then some (.tag "" (.ofList suffix), next.skip 1) else none
  else do
    let (handle, next) ← tagHandle? cursor
    if handle.length ≠ 1 && handle.getLast? = some '!' then do
      let (suffix, next) ← tagText false [] next
      some (.tag (.ofList handle) (.ofList suffix), next)
    else do
      let (suffix, next) ← tagText false handle next
      if suffix.isEmpty then some (.tag "" "!", next)
      else some (.tag "!" (.ofList suffix), next)

/-- A tag. -/
def tagName (inFlow : Bool) (cursor : Cursor) : Option (Token × Cursor) := do
  let (token, next) ← tagToken cursor
  if next.wordEndsAt 0 || (inFlow && next.sees ',') then some (token, next) else none

/-- The sign of a sequence entry in a block. In a flow it is left to who reads the tokens. -/
def blockEntry (scanner : Scanner) : Option Scanner := do
  if !scanner.inFlow && !scanner.keyAllowed then none
  else do
    let opened :=
      scanner.openBlock scanner.cursor.column scanner.tokens.length .blockSequenceStart
    let scanner ← opened.dropKey
    some ((scanner.allowKey true).pushOver .blockEntry 1)

/-- The sign of a key. -/
def keySign (scanner : Scanner) : Option Scanner := do
  if !scanner.inFlow && !scanner.keyAllowed then none
  else do
    let opened :=
      scanner.openBlock scanner.cursor.column scanner.tokens.length .blockMappingStart
    let scanner ← opened.dropKey
    some ((scanner.allowKey (!scanner.inFlow)).pushOver .key 1)

/-- The sign of a value. If a possible key is in front of it, that is one. -/
def valueSign (scanner : Scanner) : Option Scanner :=
  match scanner.keys with
  | some place :: outer =>
    let scanner := { scanner with
      keys := none :: outer
      tokens := scanner.tokens.insertIdx place.tokens .key }
    let opened := scanner.openBlock place.column place.tokens .blockMappingStart
    some ((opened.allowKey false).pushOver .value 1)
  | _ =>
    if !scanner.inFlow && !scanner.keyAllowed then none
    else
      let opened :=
        scanner.openBlock scanner.cursor.column scanner.tokens.length .blockMappingStart
      some ((opened.allowKey (!scanner.inFlow)).pushOver .value 1)

/-- The bracket that opens a flow. -/
def openFlow (scanner : Scanner) (token : Token) : Option Scanner := do
  let scanner ← scanner.saveKey
  some (({ scanner with keys := none :: scanner.keys }.allowKey true).pushOver token 1)

/-- The bracket that closes a flow. -/
def closeFlow (scanner : Scanner) (token : Token) : Option Scanner := do
  let scanner ← scanner.dropKey
  let keys := if scanner.inFlow then scanner.keys.drop 1 else scanner.keys
  some (({ scanner with keys }.allowKey false).pushOver token 1)

/-- The sign between the entries of a flow. -/
def flowEntry (scanner : Scanner) : Option Scanner :=
  scanner.dropKey.map fun scanner => (scanner.allowKey true).pushOver .flowEntry 1

/-- A scalar in a block. -/
def block (scanner : Scanner) : Option Scanner := do
  let scanner ← scanner.dropKey
  let (text, cursor) ← blockScalar scanner.indent scanner.cursor
  some { (scanner.push (.scalar false (.ofList text))).allowKey true with cursor }

/-- A scalar between quotes. -/
def quoted (scanner : Scanner) (quote : Char) : Option Scanner :=
  scanner.mayBeKey fun cursor =>
    (quotedScalar quote cursor).map fun (text, cursor) => (.scalar false (.ofList text), cursor)

/-- A plain scalar. Behind one that ends with a line a key may come next. -/
def plain (scanner : Scanner) : Option Scanner := do
  let scanner ← scanner.saveKey
  let ((text, ended), cursor) ←
    plainScalar scanner.inFlow (scanner.indent + 1).toNat scanner.cursor
  some { (scanner.push (.scalar true (.ofList text))).allowKey ended with cursor }

/-- Whether a plain scalar may start here. -/
def startsPlain (scanner : Scanner) (c : Char) : Bool :=
  let cursor := scanner.cursor
  let indicators := ['-', '?', ':', ',', '[', ']', '\x7b', '\x7d', '#', '&', '*', '!', '|', '>',
    '\'', '"', '%', '@', '`']
  !(isBlank c || isBreak c || indicators.contains c) ||
    (c = '-' && !cursor.seesAt 1 isBlank) ||
    (!scanner.inFlow && (c = '?' || c = ':') && !cursor.wordEndsAt 1)

/-- The token that starts with a character. -/
def token (scanner : Scanner) (c : Char) : Option Scanner :=
  let cursor := scanner.cursor
  let inFlow := scanner.inFlow
  if cursor.column = 0 && c = '%' then scanner.directive
  else if cursor.atDocumentMark then
    scanner.reset.map (·.pushOver (if c = '-' then .documentStart else .documentEnd) 3)
  else if c = '[' then scanner.openFlow .flowSequenceStart
  else if c = '\x7b' then scanner.openFlow .flowMappingStart
  else if c = ']' then scanner.closeFlow .flowSequenceEnd
  else if c = '\x7d' then scanner.closeFlow .flowMappingEnd
  else if c = ',' then scanner.flowEntry
  else if c = '-' && cursor.wordEndsAt 1 then scanner.blockEntry
  else if c = '?' && (inFlow || cursor.wordEndsAt 1) then scanner.keySign
  else if c = ':' && (inFlow || cursor.wordEndsAt 1) then scanner.valueSign
  else if c = '*' then scanner.mayBeKey (anchorName .alias)
  else if c = '&' then scanner.mayBeKey (anchorName .anchor)
  else if c = '!' then scanner.mayBeKey (tagName inFlow)
  else if (c = '|' || c = '>') && !inFlow then scanner.block
  else if c = '\'' || c = '"' then scanner.quoted c
  else if scanner.startsPlain c then scanner.plain
  else none

/-- Read the next token, or end the stream with the tokens read. -/
def step (_ : Unit) (scanner : Scanner) : Option (Turn Unit (List Token) × Scanner) := do
  let scanner ← scanner.skipSpace
  let scanner ← scanner.dropStaleKeys
  let scanner := scanner.closeBlocks scanner.cursor.column
  match scanner.cursor.next? with
  | some c => (scanner.token c).map fun scanner => (.again (), scanner)
  | none => do
    let scanner ← scanner.reset
    some (.done scanner.tokens, scanner)

end Scanner

/-- The tokens of a document. A mark of the byte order may stand in front. -/
def tokens? (document : String) : Option (List Token) :=
  let text := match document.toList with
    | '\ufeff' :: text => text
    | text => text
  if text.all isAllowed then
    (Text.loopOn (·.cursor.size) Scanner.step () { cursor := { rest := text } : Scanner }).map (·.1)
  else none

end SarifDigest.Yaml
