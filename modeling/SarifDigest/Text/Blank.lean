/-!
# Blank text

The white space of Unicode, and a text without the white space at its two ends. Trimming is
defined on the characters of a text; the version on strings goes through them.
-/
namespace SarifDigest.Text

/-- The characters with the Unicode property White_Space, 25 code points in all. -/
def isBlank (c : Char) : Bool :=
  let code := c.toNat
  (9 ≤ code && code ≤ 13) || code == 0x20 || code == 0x85 || code == 0xA0 || code == 0x1680 ||
    (0x2000 ≤ code && code ≤ 0x200A) || code == 0x2028 || code == 0x2029 || code == 0x202F ||
    code == 0x205F || code == 0x3000

/-- The characters without the blanks at their end. -/
def dropEndBlanks (text : List Char) : List Char :=
  (text.reverse.dropWhile isBlank).reverse

/-- The characters without the blanks at either end. -/
def trimChars (text : List Char) : List Char :=
  dropEndBlanks (text.dropWhile isBlank)

/-- A text without the blanks at either end. -/
def trim (text : String) : String :=
  String.ofList (trimChars text.toList)

/-- A text that holds nothing but blanks; the empty text is one. -/
def isBlankText (text : String) : Bool :=
  text.toList.all isBlank

/-- The text in lower case, where only the letters of ASCII have a case. -/
def toAsciiLower (text : String) : String :=
  String.ofList (text.toList.map Char.toLower)

end SarifDigest.Text
