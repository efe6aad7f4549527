import SarifDigest.Text.Visible

/-!
# Quoted text

The form in which a diagnostic shows a text: between double quotes, with the quote, the
backslash and the four usual controls written as two characters, and every other character
without a visible form written by its code point.
-/
namespace SarifDigest.Text

/-- The digits of a code point in base sixteen, in lower case and without leading zeros. -/
def hexDigits (code : Nat) : List Char :=
  Nat.toDigits 16 code

/-- One character as it stands inside quotes. -/
def quoteChar (c : Char) : List Char :=
  if c = '"' then ['\\', '"']
  else if c = '\\' then ['\\', '\\']
  else if c = '\x00' then ['\\', '0']
  else if c = '\t' then ['\\', 't']
  else if c = '\r' then ['\\', 'r']
  else if c = '\n' then ['\\', 'n']
  else if isVisible c then [c]
  else ['\\', 'u', '\x7b'] ++ hexDigits c.toNat ++ ['\x7d']

/-- A text between double quotes. -/
def quoted (text : String) : String :=
  String.ofList ('"' :: text.toList.flatMap quoteChar ++ ['"'])

end SarifDigest.Text
