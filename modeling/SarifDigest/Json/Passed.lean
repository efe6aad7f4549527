import SarifDigest.Json.Reader

/-!
# Values that are passed over

A value that no one asked for has to be well formed and nothing more: its numbers may be of
any size, its escapes need not pair up, and it may be nested as deeply as it likes. A bound on
the nesting serves the definition only; the length of the text is one that is never reached.
-/
namespace SarifDigest.Json

/-- What is kept of a value that is passed over. -/
def discard {α : Type} (_ : α) : Unit := ()

/-- Pass over one value; the reader given is for the values inside it, and there is none where
the nesting ends. -/
def passValue (inside : Option (Reader Unit)) (text : List Char) :
    Except Fault (Unit × List Char) :=
  match text with
  | [] => refuseAt .endInValue []
  | 'n' :: rest => giving () (readWord ['u', 'l', 'l'] rest)
  | 't' :: rest => giving () (readWord ['r', 'u', 'e'] rest)
  | 'f' :: rest => giving () (readWord ['a', 'l', 's', 'e'] rest)
  | '"' :: rest => giving () (passText rest)
  | '[' :: rest =>
    match inside with
    | none => refuseAfter .tooDeep ('[' :: rest)
    | some inner =>
      changing discard (readItems .passing inner true rest)
  | '\x7b' :: rest =>
    match inside with
    | none => refuseAfter .tooDeep ('\x7b' :: rest)
    | some inner => readMembers .passing passedKey (fun _ _ => .ok inner) true () rest
  | c :: rest =>
    if c = '-' || isDigit c then
      changing discard (readNumeral .badNumber (c :: rest))
    else refuseAfter .expectedValue (c :: rest)

/-- A value that is passed over takes something from the text. -/
theorem passValue_shorter {inside : Option (Reader Unit)} {text : List Char} {value : Unit}
    {rest : List Char} (read : passValue inside text = .ok (value, rest)) :
    rest.length < text.length := by
  unfold passValue at read
  split at read
  · simp [refuseAt] at read
  · exact Nat.lt_succ_of_le (giving_length read fun _ inner => readWord_length inner)
  · exact Nat.lt_succ_of_le (giving_length read fun _ inner => readWord_length inner)
  · exact Nat.lt_succ_of_le (giving_length read fun _ inner => readWord_length inner)
  · exact Nat.lt_succ_of_le
      (giving_length read fun _ inner => Nat.le_of_lt (passText_shorter inner))
  · split at read
    · simp [refuseAfter] at read
    · exact changing_shorter read fun _ _ inner => Nat.lt_succ_of_lt (readItems_shorter inner)
  · split at read
    · simp [refuseAfter] at read
    · exact Nat.lt_succ_of_lt (readMembers_shorter read)
  · split at read
    · exact changing_shorter read fun _ _ inner => readNumeral_shorter inner
    · simp [refuseAfter] at read

/-- Pass over a value nested at most as deeply as given. -/
def passedWithin : Nat → Reader Unit
  | 0 => .spaced (passValue none) passValue_shorter
  | depth + 1 => .spaced (passValue (some (passedWithin depth))) passValue_shorter

/-- Pass over a value of any nesting. -/
def passed : Reader Unit where
  run text := (passedWithin text.length).run text
  shorter {text _ _} read := (passedWithin text.length).shorter read

end SarifDigest.Json
