import SarifDigest.Toml.Scalar
import SarifDigest.Toml.Table
import SarifDigest.Toml.Text

/-!
# Documents of TOML

A document is read line by line: a header, a key with its value, or nothing, each followed by
at most a comment. Inside brackets and braces line ends and comments may stand anywhere
between items, and a comma may stand behind the last. Arrays and inline tables nest up to a
limit.
-/
namespace SarifDigest.Toml

open Text (Scan Turn)

/-- How deep arrays and inline tables may nest. -/
def nestingLimit : Nat := 80

/-- The text behind the blanks in front of it. -/
def skipBlanks (text : List Char) : List Char :=
  text.dropWhile isBlankInLine

/-- The text behind a comment that may stand in front of it; the line end is not part of it. -/
def skipComment : List Char → List Char
  | '#' :: rest => rest.dropWhile isPlain
  | text => text

/-- The text behind the end of a line, before which blanks and a comment may stand. -/
def lineEnd? (text : List Char) : Option (List Char) :=
  match skipComment (skipBlanks text) with
  | [] => some []
  | text => newline? text

/-- One step over what may stand between the items of an array. -/
def triviaStep (_ : Unit) (text : List Char) : Option (Turn Unit Unit × List Char) :=
  let text := skipComment (skipBlanks text)
  match newline? text with
  | some rest => some (.again (), rest)
  | none => some (.done (), text)

/-- The text behind blanks, line ends and comments. -/
def skipTrivia (text : List Char) : List Char :=
  match Text.loop triviaStep () text with
  | some (_, rest) => rest
  | none => text

/-- The characters of a key without quotes. -/
def isBare (c : Char) : Bool :=
  c.isAlphanum || c = '_' || c = '-'

/-- A key without dots. -/
def simpleKey : Scan String
  | '"' :: rest => lineText '"' rest
  | '\'' :: rest => lineText '\'' rest
  | text =>
    match text.takeWhile isBare with
    | [] => none
    | key => some (.ofList key, text.drop key.length)

/-- One key of a key with dots, and whether a further one follows. -/
def keyStep (sofar : List String) (text : List Char) :
    Option (Turn (List String) (List String × String) × List Char) := do
  let (key, rest) ← simpleKey (skipBlanks text)
  match skipBlanks rest with
  | '.' :: rest => some (.again (sofar ++ [key]), rest)
  | rest => some (.done (sofar, key), rest)

/-- A key with its dots: the keys before the last, and the last. -/
def dottedKey : Scan (List String × String) :=
  Text.loop keyStep []

/-- The characters of scalars without quotes. -/
def isWordChar (c : Char) : Bool :=
  c.isAlphanum || ['_', '-', '+', '.', ':'].contains c

/-- A word, or a date and a time with a blank between them. -/
def scalarWord (text : List Char) : List Char :=
  let word := text.takeWhile isWordChar
  match text.drop word.length with
  | ' ' :: c :: rest =>
    if isDate word && c.isDigit then word ++ ' ' :: (c :: rest).takeWhile isWordChar else word
  | _ => word

/-- A scalar without quotes. -/
def scalar : Scan Value := fun text =>
  let word := scalarWord text
  if isScalar word then some (.scalar, text.drop word.length) else none

/-- The next item of an array, or its end. -/
def itemStep (value : Scan Value) (items : List Value) (text : List Char) :
    Option (Turn (List Value) Value × List Char) :=
  match skipTrivia text with
  | ']' :: rest => some (.done (.array false items), rest)
  | text => do
    let (item, rest) ← value text
    match skipTrivia rest with
    | ',' :: rest => some (.again (items ++ [item]), rest)
    | ']' :: rest => some (.done (.array false (items ++ [item])), rest)
    | _ => none

/-- A key and its value. -/
def assignment (value : Scan Value) : Scan ((List String × String) × Value) := fun text => do
  let (key, rest) ← dottedKey text
  match rest with
  | '=' :: rest => do
    let (value, rest) ← value (skipBlanks rest)
    some ((key, value), rest)
  | _ => none

/-- The next member of an inline table, or its end. -/
def memberStep (value : Scan Value) (members : Members) (text : List Char) :
    Option (Turn Members Value × List Char) :=
  match skipTrivia text with
  | '\x7d' :: rest => some (.done (.table .inline members), rest)
  | text => do
    let (((path, key), value), rest) ← assignment value text
    let members ← members.assign path key value
    match skipTrivia rest with
    | ',' :: rest => some (.again members, rest)
    | '\x7d' :: rest => some (.done (.table .inline members), rest)
    | _ => none

/-- A value that opens at most the given number of brackets and braces inside each other. -/
def value : Nat → Scan Value
  | depth, c :: rest =>
    if c = '"' || c = '\'' then
      (anyText (c :: rest)).map fun (text, rest) => (.text text, rest)
    else if c = '[' then
      match depth with
      | 0 => none
      | depth + 1 => Text.loop (itemStep (value depth)) [] rest
    else if c = '\x7b' then
      match depth with
      | 0 => none
      | depth + 1 => Text.loop (memberStep (value depth)) [] rest
    else scalar (c :: rest)
  | _, [] => none

/-- A header, from behind its first bracket. -/
def header : Scan Header := fun text => do
  let (ofArray, text) := match text with
    | '[' :: rest => (true, rest)
    | text => (false, text)
  let ((path, key), rest) ← dottedKey text
  let rest ← Text.behind? (if ofArray then [']', ']'] else [']']) rest
  some (⟨path, key, ofArray⟩, rest)

/-- One line of a document, or its end. -/
def documentStep (draft : Draft) (text : List Char) : Option (Turn Draft Members × List Char) := do
  match skipBlanks text with
  | [] => do
    let members ← draft.close
    some (.done members, [])
  | '[' :: rest => do
    let (header, rest) ← header rest
    let draft ← draft.start header
    some (.again draft, ← lineEnd? rest)
  | c :: rest =>
    if c = '#' || (newline? (c :: rest)).isSome then
      some (.again draft, ← lineEnd? (c :: rest))
    else do
      let (((path, key), value), rest) ← assignment (value nestingLimit) (c :: rest)
      let current ← draft.current.assign path key value
      some (.again { draft with current }, ← lineEnd? rest)

/-- The members of a document, if it is one. A mark of the byte order may stand in front. -/
def read? (document : String) : Option Members :=
  let text := match document.toList with
    | '\ufeff' :: text => text
    | text => text
  (Text.loop documentStep {} text).map (·.1)

end SarifDigest.Toml
