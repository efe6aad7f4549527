import SarifDigest.Json.Fault

/-!
# Texts of a document

The characters between two quotes. A text that matters is decoded: escapes are replaced, and
those of surrogates have to pair up. A text that does not matter is only passed over, where an
escape by code point needs four digits and nothing more.
-/
namespace SarifDigest.Json

/-- The value of a digit in base sixteen, either case. -/
def hexValue? (c : Char) : Option Nat :=
  if '0' ≤ c ∧ c ≤ '9' then some (c.toNat - '0'.toNat)
  else if 'a' ≤ c ∧ c ≤ 'f' then some (c.toNat - 'a'.toNat + 10)
  else if 'A' ≤ c ∧ c ≤ 'F' then some (c.toNat - 'A'.toNat + 10)
  else none

/-- The refusal of a text that does not start with four digits. Fewer than four bytes are an
end of the document; four bytes that are not digits are read before they are refused. -/
def refuseUnit {α : Type} (text : List Char) : Except Fault α :=
  if (bytes text).length < 4 then refuseAt .endInText []
  else .error ⟨.badEscape, text, 4⟩

/-- The four digits behind `\u`, as the value of a unit. -/
def hexUnit (text : List Char) : Except Fault (Nat × List Char) :=
  match text with
  | a :: b :: c :: d :: rest =>
    match hexValue? a, hexValue? b, hexValue? c, hexValue? d with
    | some a, some b, some c, some d => .ok (((a * 16 + b) * 16 + c) * 16 + d, rest)
    | _, _, _, _ => refuseUnit text
  | _ => refuseUnit text

/-- The characters that a backslash and one more character stand for. -/
def simpleEscape? (c : Char) : Option Char :=
  if c = '"' ∨ c = '\\' ∨ c = '/' then some c
  else if c = 'b' then some '\x08'
  else if c = 'f' then some '\x0c'
  else if c = 'n' then some '\n'
  else if c = 'r' then some '\r'
  else if c = 't' then some '\t'
  else none

/-- The units that only stand first in a pair. -/
def isLeading (unit : Nat) : Bool :=
  0xD800 ≤ unit && unit ≤ 0xDBFF

/-- The units that only stand second in a pair. -/
def isTrailing (unit : Nat) : Bool :=
  0xDC00 ≤ unit && unit ≤ 0xDFFF

/-- The code point of a pair of units. -/
def pairCode (leading trailing : Nat) : Nat :=
  0x10000 + (leading - 0xD800) * 0x400 + (trailing - 0xDC00)

/-- The character of the escape by code point whose digits come next. -/
def unitEscape (text : List Char) : Except Fault (Char × List Char) := do
  let (unit, rest) ← hexUnit text
  if isTrailing unit then refuseAt .loneSurrogate rest
  else if !isLeading unit then .ok (Char.ofNat unit, rest)
  else
    match rest with
    | [] => refuseAt .endInText []
    | '\\' :: [] => refuseAt .endInText []
    | '\\' :: 'u' :: digits => do
      let (second, rest) ← hexUnit digits
      if isTrailing second then .ok (Char.ofNat (pairCode unit second), rest)
      else refuseAt .loneSurrogate rest
    | '\\' :: other => refuseAfter .unfinishedSurrogate other
    | other => refuseAfter .unfinishedSurrogate other

/-- The character of the escape whose backslash has been read. -/
def escape : List Char → Except Fault (Char × List Char)
  | [] => refuseAt .endInText []
  | 'u' :: rest => unitEscape rest
  | c :: rest =>
    match simpleEscape? c with
    | some decoded => .ok (decoded, rest)
    | none => refuseAfter .badEscape (c :: rest)

/-- A refusal gives no unit. -/
theorem refuseUnit_ne_ok {α : Type} (text : List Char) (value : α) :
    refuseUnit text ≠ .ok value := by
  unfold refuseUnit refuseAt
  split <;> simp

/-- A unit takes its four digits from the text. -/
theorem hexUnit_shorter {text rest : List Char} {unit : Nat}
    (read : hexUnit text = .ok (unit, rest)) : rest.length < text.length := by
  unfold hexUnit at read
  split at read
  · split at read
    · simp only [Except.ok.injEq, Prod.mk.injEq] at read
      simp only [← read.2, List.length_cons]
      omega
    · exact absurd read (refuseUnit_ne_ok _ _)
  · exact absurd read (refuseUnit_ne_ok _ _)

/-- One unit or a pair of them takes its digits from the text. -/
theorem unitEscape_shorter {text rest : List Char} {decoded : Char}
    (read : unitEscape text = .ok (decoded, rest)) : rest.length < text.length := by
  unfold unitEscape at read
  cases first : hexUnit text with
  | error fault => simp [first, bind, Except.bind] at read
  | ok found =>
    obtain ⟨unit, middle⟩ := found
    have shorter := hexUnit_shorter first
    simp only [first, bind, Except.bind] at read
    split at read
    · simp [refuseAt] at read
    · split at read
      · simp only [Except.ok.injEq, Prod.mk.injEq] at read
        simp [← read.2, shorter]
      · split at read
        · simp [refuseAt] at read
        · simp [refuseAt] at read
        · rename_i digits
          cases second : hexUnit digits with
          | error fault => simp [second] at read
          | ok found =>
            obtain ⟨trailing, last⟩ := found
            have shorterLast := hexUnit_shorter second
            simp only [second] at read
            split at read
            · simp only [Except.ok.injEq, Prod.mk.injEq] at read
              simp only [List.length_cons] at shorter
              simp [← read.2]
              omega
            · simp [refuseAt] at read
        · simp [refuseAfter] at read
        · simp [refuseAfter] at read

/-- An escape takes at least a character from the text. -/
theorem escape_shorter {text rest : List Char} {decoded : Char}
    (read : escape text = .ok (decoded, rest)) : rest.length < text.length := by
  unfold escape at read
  split at read
  · simp [refuseAt] at read
  · have := unitEscape_shorter read
    simp only [List.length_cons]
    omega
  · split at read
    · simp only [Except.ok.injEq, Prod.mk.injEq] at read
      simp [← read.2]
    · simp [refuseAfter] at read

/-- The characters that may not stand in a text as themselves. -/
def isControl (c : Char) : Bool :=
  c.toNat < 0x20

/-- Decode a text whose opening quote has been read. A control character is read before it is
refused. -/
def decodeText (text : List Char) : Except Fault (List Char × List Char) :=
  match text with
  | [] => refuseAt .endInText []
  | '"' :: rest => .ok ([], rest)
  | '\\' :: rest =>
    match read : escape rest with
    | .error fault => .error fault
    | .ok (decoded, next) =>
      have := escape_shorter read
      (decodeText next).map fun (others, last) => (decoded :: others, last)
  | c :: rest =>
    if isControl c then refuseAfter .controlCharacter (c :: rest)
    else (decodeText rest).map fun (others, last) => (c :: others, last)
termination_by text.length
decreasing_by all_goals (simp only [List.length_cons]; omega)

/-- The text behind the escape whose backslash has been read. -/
def passEscape : List Char → Except Fault (List Char)
  | [] => refuseAt .endInText []
  | 'u' :: rest => (hexUnit rest).map (·.2)
  | c :: rest =>
    if (simpleEscape? c).isSome then .ok rest else refuseAfter .badEscape (c :: rest)

/-- An escape that is passed over takes at least a character from the text. -/
theorem passEscape_shorter {text rest : List Char} (read : passEscape text = .ok rest) :
    rest.length < text.length := by
  unfold passEscape at read
  split at read
  · simp [refuseAt] at read
  · rename_i digits
    cases unit : hexUnit digits with
    | error fault => simp [unit, Except.map] at read
    | ok found =>
      obtain ⟨value, last⟩ := found
      have := hexUnit_shorter unit
      simp only [unit, Except.map, Except.ok.injEq] at read
      subst read
      simp only [List.length_cons]
      omega
  · split at read
    · simp only [Except.ok.injEq] at read
      simp [← read]
    · simp [refuseAfter] at read

/-- Pass over a text whose opening quote has been read. A control character is refused before
it is read. -/
def passText (text : List Char) : Except Fault (List Char) :=
  match text with
  | [] => refuseAt .endInText []
  | '"' :: rest => .ok rest
  | '\\' :: rest =>
    match read : passEscape rest with
    | .error fault => .error fault
    | .ok next =>
      have := passEscape_shorter read
      passText next
  | c :: rest =>
    if isControl c then refuseAt .controlCharacter (c :: rest)
    else passText rest
termination_by text.length
decreasing_by all_goals (simp only [List.length_cons]; omega)

/-- A text takes at least its closing quote. -/
theorem decodeText_shorter {text decoded rest : List Char}
    (read : decodeText text = .ok (decoded, rest)) : rest.length < text.length := by
  fun_induction decodeText text generalizing decoded rest with
  | case1 => simp [refuseAt] at read
  | case2 last =>
    simp only [Except.ok.injEq, Prod.mk.injEq] at read
    simp [← read.2]
  | case3 => simp at read
  | case4 last c next found shorter ih =>
    cases tail : decodeText next with
    | error fault => simp [tail, Except.map] at read
    | ok pair =>
      obtain ⟨others, final⟩ := pair
      have := ih tail
      simp only [tail, Except.map, Except.ok.injEq, Prod.mk.injEq] at read
      simp only [← read.2, List.length_cons]
      omega
  | case5 => simp [refuseAfter] at read
  | case6 c next noQuote noBackslash plain ih =>
    cases tail : decodeText next with
    | error fault => simp [tail, Except.map] at read
    | ok pair =>
      obtain ⟨others, final⟩ := pair
      have := ih tail
      simp only [tail, Except.map, Except.ok.injEq, Prod.mk.injEq] at read
      simp only [← read.2, List.length_cons]
      omega

/-- A text that is passed over takes at least its closing quote. -/
theorem passText_shorter {text rest : List Char} (read : passText text = .ok rest) :
    rest.length < text.length := by
  fun_induction passText text generalizing rest with
  | case1 => simp [refuseAt] at read
  | case2 last =>
    simp only [Except.ok.injEq] at read
    simp [← read]
  | case3 => simp at read
  | case4 last next found shorter ih =>
    have := ih read
    simp only [List.length_cons]
    omega
  | case5 => simp [refuseAt] at read
  | case6 c next noQuote noBackslash plain ih =>
    have := ih read
    simp only [List.length_cons]
    omega

end SarifDigest.Json
