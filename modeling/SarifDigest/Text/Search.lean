/-!
# Searching text

Whether a text occurs inside another, and the first line of a text.
-/
namespace SarifDigest.Text

/-- Whether the pattern occurs somewhere in the characters; the empty pattern always does. -/
def occursIn (pattern : List Char) : List Char → Bool
  | [] => pattern.isEmpty
  | c :: rest => pattern.isPrefixOf (c :: rest) || occursIn pattern rest

/-- Whether the second text contains the first. -/
def contains (text pattern : String) : Bool :=
  occursIn pattern.toList text.toList

/-- The characters before the first line feed, without a carriage return that stands right
before that line feed. A text without a line feed is one line, carriage returns included. -/
def headlineChars (text : List Char) : List Char :=
  let line := text.takeWhile (· != '\n')
  if line.length = text.length then line
  else if line.getLast? = some '\r' then line.dropLast
  else line

/-- The first line of a text. -/
def headline (text : String) : String :=
  String.ofList (headlineChars text.toList)

end SarifDigest.Text
