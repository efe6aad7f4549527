import SarifDigest.Text.Loop

/-!
# Texts of TOML

The four kinds of text: between double quotes, where a backslash starts an escape, or between
single quotes, where it does not; and on one line or, between three quotes, on several.
-/
namespace SarifDigest.Toml

open Text (Scan Turn)

/-- A character that a text or a comment may hold as it is. Line feeds, and carriage returns
before them, are up to who reads them. -/
def isPlain (c : Char) : Bool :=
  c = '\t' || (0x20 ≤ c.toNat && c.toNat ≠ 0x7F)

/-- The text behind a line end. -/
def newline? : List Char → Option (List Char)
  | '\n' :: rest => some rest
  | '\r' :: '\n' :: rest => some rest
  | _ => none

/-- Blanks within a line. -/
def isBlankInLine (c : Char) : Bool :=
  c = ' ' || c = '\t'

/-- The characters that a backslash and one letter stand for. -/
def letterEscape? (c : Char) : Option Char :=
  [('b', '\x08'), ('t', '\t'), ('n', '\n'), ('f', '\x0c'), ('r', '\r'), ('e', '\x1b'),
    ('"', '"'), ('\\', '\\')].lookup c

/-- The character of an escape, from behind its backslash. -/
def escape : Scan Char
  | 'x' :: rest => Text.scanCode 2 rest
  | 'u' :: rest => Text.scanCode 4 rest
  | 'U' :: rest => Text.scanCode 8 rest
  | c :: rest => (letterEscape? c).map fun c => (c, rest)
  | [] => none

/-- One character of a text on a single line, or its end. The text so far is reversed. -/
def lineStep (quote : Char) (sofar : List Char) : Scan (Turn (List Char) String)
  | [] => none
  | c :: rest =>
    if c = quote then some (.done (.ofList sofar.reverse), rest)
    else if c = '\\' && quote = '"' then
      (escape rest).map fun (c, rest) => (.again (c :: sofar), rest)
    else if isPlain c then some (.again (c :: sofar), rest)
    else none

/-- A text on a single line, from behind its opening quote. -/
def lineText (quote : Char) : Scan String :=
  Text.loop (lineStep quote) []

/-- The text behind the blanks and line ends that an escaped line end takes with it; there has
to be a line end in front. -/
def escapedNewline? (text : List Char) : Option (List Char) :=
  (newline? (text.dropWhile isBlankInLine)).map fun rest =>
    rest.dropWhile fun c => isBlankInLine c || c = '\n' || c = '\r'

/-- Whether three quotes come next. -/
def closes (quote : Char) (text : List Char) : Bool :=
  [quote, quote, quote].isPrefixOf text

/-- One character of a text on several lines, or its end. Of up to five quotes in a row the
last three end the text. -/
def linesStep (quote : Char) (sofar : List Char) (text : List Char) :
    Option (Turn (List Char) String × List Char) :=
  if closes quote text then
    let count := min (text.takeWhile (· = quote)).length 5
    some (.done (.ofList (sofar.reverse ++ List.replicate (count - 3) quote)), text.drop count)
  else
    match newline? text with
    | some rest => some (.again ((text.take (text.length - rest.length)).reverse ++ sofar), rest)
    | none =>
      match text with
      | [] => none
      | c :: rest =>
        if c = '\\' && quote = '"' then
          match escapedNewline? rest with
          | some rest => some (.again sofar, rest)
          | none => (escape rest).map fun (c, rest) => (.again (c :: sofar), rest)
        else if isPlain c then some (.again (c :: sofar), rest)
        else none

/-- A text on several lines, from behind its opening quotes; a line end right there is not
part of it. -/
def linesText (quote : Char) : Scan String := fun text =>
  Text.loop (linesStep quote) [] ((newline? text).getD text)

/-- A text of any kind. -/
def anyText : Scan String
  | c :: rest =>
    if c ≠ '"' && c ≠ '\'' then none
    else if closes c (c :: rest) then linesText c (rest.drop 2)
    else lineText c rest
  | [] => none

end SarifDigest.Toml
