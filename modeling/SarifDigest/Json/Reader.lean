import SarifDigest.Json.Numeral
import SarifDigest.Json.Text

/-!
# Readers of values

A reader takes a value from the front of a text and returns the text behind it, which is
shorter. Space before a value belongs to it. The loops over the items of a sequence and over
the members of an object are written once, for any reader of what they hold, and end because
every reader shortens the text. What a comma may be followed by differs between values that
are decoded and values that are passed over, and is a parameter (`Manner`).
-/
namespace SarifDigest.Json

/-- Reading a value from the front of a text, which consumes some of it. -/
structure Reader (α : Type) where
  /-- The value and the text behind it. -/
  run : List Char → Except Fault (α × List Char)
  /-- The text behind a value is shorter. -/
  shorter : ∀ {text value rest}, run text = .ok (value, rest) → rest.length < text.length

/-- Apply a function to the value of a result. -/
def changing {α β : Type} (change : α → β) (result : Except Fault (α × List Char)) :
    Except Fault (β × List Char) :=
  result.map fun (found, rest) => (change found, rest)

/-- A changed result leaves a shorter text when the result does. -/
theorem changing_shorter {α β : Type} {result : Except Fault (α × List Char)} {change : α → β}
    {value : β} {rest text : List Char} (read : changing change result = .ok (value, rest))
    (shorter : ∀ found last, result = .ok (found, last) → last.length < text.length) :
    rest.length < text.length := by
  cases result with
  | error fault => simp [changing, Except.map] at read
  | ok found =>
    have := shorter found.1 found.2 rfl
    simp only [changing, Except.map, Except.ok.injEq, Prod.mk.injEq] at read
    rw [← read.2]
    exact this

/-- Give a value to a result that is only the text behind it. -/
def giving {α : Type} (value : α) (result : Except Fault (List Char)) :
    Except Fault (α × List Char) :=
  result.map fun rest => (value, rest)

/-- A result that is given a value leaves the same text. -/
theorem giving_length {α : Type} {result : Except Fault (List Char)} {given value : α}
    {rest text : List Char} (read : giving given result = .ok (value, rest))
    (length : ∀ last, result = .ok last → last.length ≤ text.length) :
    rest.length ≤ text.length := by
  cases result with
  | error fault => simp [giving, Except.map] at read
  | ok last =>
    have := length last rfl
    simp only [giving, Except.map, Except.ok.injEq, Prod.mk.injEq] at read
    rw [← read.2]
    exact this

namespace Reader

variable {α β : Type}

/-- Apply a function to the value read. -/
def map (reader : Reader α) (change : α → β) : Reader β where
  run text := changing change (reader.run text)
  shorter read := changing_shorter read fun _ _ inner => reader.shorter inner

end Reader

/-- The characters that may stand between tokens. -/
def isSpace (c : Char) : Bool :=
  c = ' ' || c = '\n' || c = '\t' || c = '\r'

/-- The text from its first character that is no space. -/
def skipSpace (text : List Char) : List Char :=
  text.dropWhile isSpace

/-- Skipping space leaves no more than the text. -/
theorem skipSpace_length (text : List Char) : (skipSpace text).length ≤ text.length :=
  (List.dropWhile_sublist (l := text) isSpace).length_le

/-- The text behind a word. -/
def readWord : List Char → List Char → Except Fault (List Char)
  | [], rest => .ok rest
  | _ :: _, [] => refuseAt .endInValue []
  | w :: word, c :: rest =>
    if c = w then readWord word rest else refuseAfter .expectedWord (c :: rest)

/-- Reading a word leaves no more than the text. -/
theorem readWord_length {word text rest : List Char} (read : readWord word text = .ok rest) :
    rest.length ≤ text.length := by
  fun_induction readWord word text with
  | case1 => simp_all
  | case2 => simp [refuseAt] at read
  | case3 w word rest' ih =>
    have := ih read
    simp only [List.length_cons]
    omega
  | case4 => simp [refuseAfter] at read

/-- The refusal of a value of another kind than the one wanted. The kinds without parts are
read first, and a fault in one of them wins; a sequence or an object is refused unread. -/
def mismatch (wanted : String) (text : List Char) : Fault :=
  let word (rest : Except Fault (List Char)) (found : Found) : Fault :=
    match rest with
    | .ok rest => ⟨.wrongKind found wanted, rest, 0⟩
    | .error fault => fault
  match text with
  | [] => ⟨.endInValue, [], 0⟩
  | 'n' :: rest => word (readWord ['u', 'l', 'l'] rest) .null
  | 't' :: rest => word (readWord ['r', 'u', 'e'] rest) (.boolean true)
  | 'f' :: rest => word (readWord ['a', 'l', 's', 'e'] rest) (.boolean false)
  | '[' :: rest => ⟨.wrongKind .sequence wanted, '[' :: rest, 0⟩
  | '\x7b' :: rest => ⟨.wrongKind .map wanted, '\x7b' :: rest, 0⟩
  | '"' :: rest =>
    match decodeText rest with
    | .ok (found, rest) => ⟨.wrongKind (.text (String.ofList found)) wanted, rest, 0⟩
    | .error fault => fault
  | c :: rest =>
    if c = '-' || isDigit c then
      match readNumber (c :: rest) with
      | .ok (number, rest) => ⟨.wrongKind (.number number) wanted, rest, 0⟩
      | .error fault => fault
    else ⟨.expectedValue, c :: rest, 1⟩

/-- A reader that passes over space first. -/
def Reader.spaced {α : Type} (body : List Char → Except Fault (α × List Char))
    (shorter : ∀ {text value rest}, body text = .ok (value, rest) → rest.length < text.length) :
    Reader α where
  run text := body (skipSpace text)
  shorter {text _ _} read := Nat.lt_of_lt_of_le (shorter read) (skipSpace_length text)

/-- How a comma that nothing follows is refused. -/
structure Manner where
  /-- A bracket right behind a comma. -/
  closedSequence : Cause
  /-- A brace right behind a comma. -/
  closedObject : Cause
  /-- The end of the document behind a comma of an object. -/
  endedObject : Cause

/-- The manner of values that are decoded. -/
def Manner.decoding : Manner := ⟨.trailingComma, .trailingComma, .endInValue⟩

/-- The manner of values that are passed over. -/
def Manner.passing : Manner := ⟨.expectedValue, .keyNotText, .endInObject⟩

/-- What comes next in a sequence or an object: its end, with the text behind it, or one more
item or member, with the text that it starts. -/
inductive Next
  | closed (rest : List Char)
  | more (rest : List Char)

/-- What comes next in a sequence; its first item needs no comma. -/
def nextItem (manner : Manner) (first : Bool) (text : List Char) : Except Fault Next :=
  match skipSpace text with
  | [] => refuseAt .endInSequence []
  | ']' :: rest => .ok (.closed rest)
  | c :: rest =>
    if first then .ok (.more (c :: rest))
    else if c = ',' then
      match skipSpace rest with
      | [] => refuseAt .endInValue []
      | ']' :: rest => refuseAfter manner.closedSequence (']' :: rest)
      | next => .ok (.more next)
    else refuseAfter .expectedCommaOrBracket (c :: rest)

/-- The opening quote of a key, where a member has to come. -/
def keyStart (text : List Char) : Except Fault Next :=
  match text with
  | '"' :: rest => .ok (.more rest)
  | _ => refuseAfter .keyNotText text

/-- What comes next in an object; a member is given by the text behind its opening quote. -/
def nextKey (manner : Manner) (first : Bool) (text : List Char) : Except Fault Next :=
  match skipSpace text with
  | [] => refuseAt .endInObject []
  | '\x7d' :: rest => .ok (.closed rest)
  | c :: rest =>
    if first then keyStart (c :: rest)
    else if c = ',' then
      match skipSpace rest with
      | [] => refuseAt manner.endedObject []
      | '\x7d' :: rest => refuseAfter manner.closedObject ('\x7d' :: rest)
      | next => keyStart next
    else refuseAfter .expectedCommaOrBrace (c :: rest)

/-- The text behind the colon of a member. -/
def readColon (text : List Char) : Except Fault (List Char) :=
  match skipSpace text with
  | [] => refuseAt .endInObject []
  | ':' :: rest => .ok rest
  | rest => refuseAfter .expectedColon rest

/-- Finding an item leaves no more than the text, and the end of a sequence takes its bracket. -/
theorem nextItem_length {manner : Manner} {first : Bool} {text : List Char} :
    (∀ rest, nextItem manner first text = .ok (.closed rest) → rest.length < text.length) ∧
    ∀ rest, nextItem manner first text = .ok (.more rest) → rest.length ≤ text.length := by
  have bound := skipSpace_length text
  constructor
  all_goals
    intro rest read
    unfold nextItem at read
    split at read
    · simp [refuseAt] at read
    · rename_i last start
      rw [start, List.length_cons] at bound
      simp only [Except.ok.injEq, Next.closed.injEq, reduceCtorEq] at read
      try (subst read; omega)
    · rename_i c last _ start
      rw [start] at bound
      simp only [List.length_cons] at bound
      split at read
      · simp only [Except.ok.injEq, Next.more.injEq, reduceCtorEq] at read
        try (subst read; simp only [List.length_cons]; omega)
      · split at read
        · have tail := skipSpace_length last
          split at read
          · simp [refuseAt] at read
          · simp [refuseAfter] at read
          · simp only [Except.ok.injEq, Next.more.injEq, reduceCtorEq] at read
            try (subst read; omega)
        · simp [refuseAfter] at read

/-- The start of a key takes its quote from the text. -/
theorem keyStart_shorter {text rest : List Char} (read : keyStart text = .ok (.more rest)) :
    rest.length < text.length := by
  unfold keyStart at read
  split at read
  · simp only [Except.ok.injEq, Next.more.injEq] at read
    simp [← read]
  · simp [refuseAfter] at read

/-- The start of a key is no end of an object. -/
theorem keyStart_ne_closed {text rest : List Char} : keyStart text ≠ .ok (.closed rest) := by
  unfold keyStart
  split <;> simp [refuseAfter]

/-- Finding a key takes its quote from the text, and the end of an object its brace. -/
theorem nextKey_shorter {manner : Manner} {first : Bool} {text : List Char} :
    (∀ rest, nextKey manner first text = .ok (.closed rest) → rest.length < text.length) ∧
    ∀ rest, nextKey manner first text = .ok (.more rest) → rest.length < text.length := by
  have bound := skipSpace_length text
  constructor
  all_goals
    intro rest read
    unfold nextKey at read
    split at read
    · simp [refuseAt] at read
    · rename_i last start
      rw [start, List.length_cons] at bound
      simp only [Except.ok.injEq, Next.closed.injEq, reduceCtorEq] at read
      try (subst read; omega)
    · rename_i c last _ start
      rw [start] at bound
      simp only [List.length_cons] at bound
      split at read
      · first
          | exact absurd read keyStart_ne_closed
          | (have less := keyStart_shorter read
             simp only [List.length_cons] at less
             omega)
      · split at read
        · have tail := skipSpace_length last
          split at read
          · simp [refuseAt] at read
          · simp [refuseAfter] at read
          · first
              | exact absurd read keyStart_ne_closed
              | (have less := keyStart_shorter read
                 omega)
        · simp [refuseAfter] at read

/-- Reading a colon takes it from the text. -/
theorem readColon_shorter {text rest : List Char} (read : readColon text = .ok rest) :
    rest.length < text.length := by
  have bound := skipSpace_length text
  unfold readColon at read
  split at read
  · simp [refuseAt] at read
  · rename_i last start
    simp only [Except.ok.injEq] at read
    subst read
    rw [start] at bound
    simp only [List.length_cons] at bound
    omega
  · simp [refuseAfter] at read

section Loops

variable {α κ σ : Type}

/-- The items of a sequence from an item or its end on, and the text behind the bracket. -/
def readItems (manner : Manner) (item : Reader α) (first : Bool) (text : List Char) :
    Except Fault (List α × List Char) :=
  match start : nextItem manner first text with
  | .error fault => .error fault
  | .ok (.closed rest) => .ok ([], rest)
  | .ok (.more next) =>
    match read : item.run next with
    | .error fault => .error fault
    | .ok (value, rest) =>
      have := item.shorter read
      have := nextItem_length.2 next start
      (readItems manner item false rest).map fun (others, last) => (value :: others, last)
termination_by text.length

/-- Items take at least the closing bracket from the text. -/
theorem readItems_shorter {manner : Manner} {item : Reader α} {first : Bool}
    {text rest : List Char} {values : List α}
    (read : readItems manner item first text = .ok (values, rest)) :
    rest.length < text.length := by
  fun_induction readItems manner item first text generalizing values rest with
  | case1 => simp at read
  | case2 first text last start =>
    have := nextItem_length.1 last start
    simp only [Except.ok.injEq, Prod.mk.injEq] at read
    rw [← read.2]
    exact this
  | case3 => simp at read
  | case4 first text next start value middle found shorter length ih =>
    cases tail : readItems manner item false middle with
    | error fault => simp [tail, Except.map] at read
    | ok pair =>
      obtain ⟨others, final⟩ := pair
      have := ih tail
      simp only [tail, Except.map, Except.ok.injEq, Prod.mk.injEq] at read
      rw [← read.2]
      omega

/-- The text behind the space after a key and behind the brace that may follow it. -/
def behindKey (text : List Char) : List Char :=
  match skipSpace text with
  | '\x7d' :: rest => rest
  | rest => rest

/-- The members of an object from a member or its end on, and the text behind the brace. A
state goes from member to member. The state and the key choose the reader of the value, which
gives the next state, or refuse the key. -/
def readMembers (manner : Manner) (key : Reader κ) (choose : σ → κ → Except Cause (Reader σ))
    (first : Bool) (state : σ) (text : List Char) : Except Fault (σ × List Char) :=
  match start : nextKey manner first text with
  | .error fault => .error fault
  | .ok (.closed rest) => .ok (state, rest)
  | .ok (.more next) =>
    match name : key.run next with
    | .error fault => .error fault
    | .ok (found, rest) =>
      match choose state found with
      | .error cause => refuseAt cause (behindKey rest)
      | .ok value =>
        match colon : readColon rest with
        | .error fault => .error fault
        | .ok rest =>
          match read : value.run rest with
          | .error fault => .error fault
          | .ok (state, rest) =>
            have := nextKey_shorter.2 next start
            have := key.shorter name
            have := readColon_shorter colon
            have := value.shorter read
            readMembers manner key choose false state rest
termination_by text.length

/-- Members take at least the closing brace from the text. -/
theorem readMembers_shorter {manner : Manner} {key : Reader κ}
    {choose : σ → κ → Except Cause (Reader σ)} {first : Bool} {state final : σ}
    {text rest : List Char}
    (read : readMembers manner key choose first state text = .ok (final, rest)) :
    rest.length < text.length := by
  fun_induction readMembers manner key choose first state text with
  | case1 => simp at read
  | case2 first state text last start =>
    have := nextKey_shorter.1 last start
    simp only [Except.ok.injEq, Prod.mk.injEq] at read
    rw [← read.2]
    exact this
  | case3 => simp at read
  | case4 => simp [refuseAt] at read
  | case5 => simp at read
  | case6 => simp at read
  | case7 =>
    rename_i ih
    have := ih read
    omega

end Loops

/-- A decoded key, from behind its opening quote. -/
def decodedKey : Reader String where
  run text := changing String.ofList (decodeText text)
  shorter read := changing_shorter read fun _ _ inner => decodeText_shorter inner

/-- A key that is passed over, from behind its opening quote. -/
def passedKey : Reader Unit where
  run text := giving () (passText text)
  shorter {text value rest} read := by
    cases inner : passText text with
    | error fault => simp [giving, inner, Except.map] at read
    | ok last =>
      simp only [giving, inner, Except.map, Except.ok.injEq, Prod.mk.injEq] at read
      rw [← read.2]
      exact passText_shorter inner

end SarifDigest.Json
