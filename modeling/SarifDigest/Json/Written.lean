import SarifDigest.Json.Value

/-!
# Written values

The text of a value, in two spacings: without any space, or with each item and member on a line
of its own, indented by two blanks a level. Texts are written with the shortest escapes, and
only the characters that need one are escaped.
-/
namespace SarifDigest.Json

/-- A digit in base sixteen, in lower case. -/
def hexChar (value : Nat) : Char :=
  Nat.digitChar value

/-- One character of a text as it is written. -/
def writtenChar (c : Char) : List Char :=
  if c = '"' then ['\\', '"']
  else if c = '\\' then ['\\', '\\']
  else if c = '\x08' then ['\\', 'b']
  else if c = '\x0c' then ['\\', 'f']
  else if c = '\n' then ['\\', 'n']
  else if c = '\r' then ['\\', 'r']
  else if c = '\t' then ['\\', 't']
  else if c.toNat < 0x20 then
    ['\\', 'u', '0', '0', hexChar (c.toNat / 16), hexChar (c.toNat % 16)]
  else [c]

/-- A text between quotes. -/
def writtenText (text : String) : List Char :=
  '"' :: text.toList.flatMap writtenChar ++ ['"']

/-- The text of a number. -/
def Number.text : Number → String
  | natural value => toString value
  | negative size => "-" ++ toString size
  | real below size => realText below size

/-- Where space is put. -/
inductive Spacing
  | compact
  | indented
deriving DecidableEq

namespace Spacing

/-- What stands before an item at a level, and before the closing bracket. -/
def lineBreak : Spacing → Nat → List Char
  | compact, _ => []
  | indented, level => '\n' :: List.replicate (2 * level) ' '

/-- What stands between the name of a member and its value. -/
def colon : Spacing → List Char
  | compact => [':']
  | indented => [':', ' ']

/-- What stands before an item. -/
def beforeItem (spacing : Spacing) (level : Nat) (first : Bool) : List Char :=
  (if first then [] else [',']) ++ spacing.lineBreak level

/-- Items between brackets, which touch when there are none. -/
def enclosed (spacing : Spacing) (level : Nat) (opening closing : Char) (items : List Char) :
    List Char :=
  if items.isEmpty then [opening, closing]
  else opening :: items ++ spacing.lineBreak level ++ [closing]

end Spacing

mutual

/-- The characters of a value that starts at a level of nesting. -/
def Value.written (spacing : Spacing) (level : Nat) : Value → List Char
  | .null => ['n', 'u', 'l', 'l']
  | .boolean true => ['t', 'r', 'u', 'e']
  | .boolean false => ['f', 'a', 'l', 's', 'e']
  | .number value => value.text.toList
  | .text value => writtenText value
  | .sequence items =>
    spacing.enclosed level '[' ']' (writtenItems spacing (level + 1) true items)
  | .object members =>
    spacing.enclosed level '\x7b' '\x7d' (writtenMembers spacing (level + 1) true members)

/-- The characters of the items of a sequence. -/
def writtenItems (spacing : Spacing) (level : Nat) (first : Bool) : List Value → List Char
  | [] => []
  | item :: rest =>
    spacing.beforeItem level first ++ item.written spacing level ++
      writtenItems spacing level false rest

/-- The characters of the members of an object. -/
def writtenMembers (spacing : Spacing) (level : Nat) (first : Bool) :
    List (String × Value) → List Char
  | [] => []
  | (name, value) :: rest =>
    spacing.beforeItem level first ++ writtenText name ++ spacing.colon ++
      value.written spacing level ++ writtenMembers spacing level false rest

end

/-- The text of a value. -/
def Value.render (spacing : Spacing) (value : Value) : String :=
  String.ofList (value.written spacing 0)

end SarifDigest.Json
