import SarifDigest.Json.Reader

/-!
# Values of any kind

A document as a value, and the reader of one. An object keeps its members in order. Nesting
has a limit, which counts the sequences and objects that may still be opened.
-/
namespace SarifDigest.Json

/-- A value of a document. -/
inductive Value
  | null
  | boolean (value : Bool)
  | number (value : Number)
  | text (value : String)
  | sequence (items : List Value)
  | object (members : List (String × Value))

namespace Value

/-- The text that a value is, if it is one. -/
def text? : Value → Option String
  | text value => some value
  | _ => none

/-- Read one value; the reader given is for the values inside it, and there is none where the
nesting ends. -/
def read (inside : Option (Reader Value)) (document : List Char) :
    Except Fault (Value × List Char) :=
  match document with
  | [] => refuseAt .endInValue []
  | 'n' :: rest => giving null (readWord ['u', 'l', 'l'] rest)
  | 't' :: rest => giving (boolean true) (readWord ['r', 'u', 'e'] rest)
  | 'f' :: rest => giving (boolean false) (readWord ['a', 'l', 's', 'e'] rest)
  | '"' :: rest => changing (text ∘ String.ofList) (decodeText rest)
  | '[' :: rest =>
    match inside with
    | none => refuseAfter .tooDeep ('[' :: rest)
    | some inner =>
      changing sequence (readItems .decoding inner true rest)
  | '\x7b' :: rest =>
    match inside with
    | none => refuseAfter .tooDeep ('\x7b' :: rest)
    | some inner =>
      let choose (members : List (String × Value)) (key : String) :=
        Except.ok (inner.map fun value => members ++ [(key, value)])
      changing object (readMembers .decoding decodedKey choose true [] rest)
  | c :: rest =>
    if c = '-' || isDigit c then
      changing number (readNumber (c :: rest))
    else refuseAfter .expectedValue (c :: rest)

/-- A value takes something from the text. -/
theorem read_shorter {inside : Option (Reader Value)} {document : List Char} {value : Value}
    {rest : List Char} (found : read inside document = .ok (value, rest)) :
    rest.length < document.length := by
  unfold read at found
  split at found
  · simp [refuseAt] at found
  · exact Nat.lt_succ_of_le (giving_length found fun _ inner => readWord_length inner)
  · exact Nat.lt_succ_of_le (giving_length found fun _ inner => readWord_length inner)
  · exact Nat.lt_succ_of_le (giving_length found fun _ inner => readWord_length inner)
  · exact changing_shorter found fun _ _ inner => Nat.lt_succ_of_lt (decodeText_shorter inner)
  · split at found
    · simp [refuseAfter] at found
    · exact changing_shorter found fun _ _ inner => Nat.lt_succ_of_lt (readItems_shorter inner)
  · split at found
    · simp [refuseAfter] at found
    · exact changing_shorter found fun _ _ inner => Nat.lt_succ_of_lt (readMembers_shorter inner)
  · split at found
    · exact changing_shorter found fun _ _ inner => readNumber_shorter inner
    · simp [refuseAfter] at found

/-- Read a value that opens at most the given number of sequences and objects inside each
other. -/
def readerWithin : Nat → Reader Value
  | 0 => .spaced (read none) read_shorter
  | depth + 1 => .spaced (read (some (readerWithin depth))) read_shorter

end Value

end SarifDigest.Json
