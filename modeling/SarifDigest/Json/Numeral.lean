import SarifDigest.Json.Fault

/-!
# Reading numbers

A numeral is read part by part, longest first; what it stands for is decided afterwards. The
cause of a numeral cut short by the end of the document is a parameter, because a number that
is only passed over is then malformed rather than incomplete.
-/
namespace SarifDigest.Json

/-- The exponent whose letter has been read: a sign and at least one digit. -/
def readExponent (atEnd : Cause) (text : List Char) :
    Except Fault ((Bool × List Char) × List Char) :=
  let (negative, unsigned) :=
    match text with
    | '+' :: rest => (false, rest)
    | '-' :: rest => (true, rest)
    | _ => (false, text)
  match unsigned with
  | [] => refuseAt atEnd []
  | c :: _ =>
    if isDigit c then
      .ok ((negative, unsigned.takeWhile isDigit), unsigned.dropWhile isDigit)
    else refuseAfter .badNumber unsigned

/-- The exponent that may follow a number. -/
def readPower (atEnd : Cause) (text : List Char) :
    Except Fault (Option (Bool × List Char) × List Char) :=
  match text with
  | 'e' :: rest | 'E' :: rest =>
    (readExponent atEnd rest).map fun (power, last) => (some power, last)
  | _ => .ok (none, text)

/-- The digits behind the point that may follow an integer; a point needs at least one. -/
def readFraction (atEnd : Cause) (text : List Char) : Except Fault (List Char × List Char) :=
  match text with
  | '.' :: [] => refuseAt atEnd []
  | '.' :: c :: rest =>
    if isDigit c then .ok ((c :: rest).takeWhile isDigit, (c :: rest).dropWhile isDigit)
    else refuseAfter .badNumber (c :: rest)
  | _ => .ok ([], text)

/-- The digits before the point. A leading zero stands alone. -/
def readWhole (atEnd : Cause) (text : List Char) : Except Fault (List Char × List Char) :=
  match text with
  | [] => refuseAt atEnd []
  | '0' :: c :: rest =>
    if isDigit c then refuseAfter .badNumber (c :: rest) else .ok (['0'], c :: rest)
  | c :: rest =>
    if isDigit c then .ok (c :: rest.takeWhile isDigit, rest.dropWhile isDigit)
    else refuseAfter .badNumber (c :: rest)

/-- The numeral at the front of a text. -/
def readNumeral (atEnd : Cause) (text : List Char) : Except Fault (Numeral × List Char) := do
  let (negative, unsigned) :=
    match text with
    | '-' :: rest => (true, rest)
    | _ => (false, text)
  let (whole, rest) ← readWhole atEnd unsigned
  let (fraction, rest) ← readFraction atEnd rest
  let (exponent, rest) ← readPower atEnd rest
  .ok (⟨negative, whole, fraction, exponent⟩, rest)

/-- The number at the front of a text. -/
def readNumber (text : List Char) : Except Fault (Number × List Char) := do
  let (numeral, rest) ← readNumeral .endInValue text
  match numeral.number with
  | .ok number => .ok (number, rest)
  | .error unread => refuseAt .numberOutOfRange (unread ++ rest)

/-- An exponent takes at least a digit from the text. -/
theorem readExponent_shorter {atEnd : Cause} {text rest : List Char} {power : Bool × List Char}
    (read : readExponent atEnd text = .ok (power, rest)) : rest.length < text.length := by
  have drops : ∀ c (tail : List Char), isDigit c = true →
      ((c :: tail).dropWhile isDigit).length < (c :: tail).length := by
    intro c tail digit
    have := (List.dropWhile_sublist (l := tail) isDigit).length_le
    simp only [List.dropWhile_cons, digit, if_true, List.length_cons]
    omega
  unfold readExponent at read
  split at read
  rename_i negative unsigned split
  have unsignedLength : unsigned.length ≤ text.length := by
    split at split <;> simp only [Prod.mk.injEq] at split <;> simp [← split.2]
  split at read
  · simp [refuseAt] at read
  · rename_i c tail
    split at read
    · rename_i digit
      have := drops c tail digit
      simp only [Except.ok.injEq, Prod.mk.injEq] at read
      rw [← read.2]
      omega
    · simp [refuseAfter] at read

/-- What may be an exponent leaves no more than the text. -/
theorem readPower_length {atEnd : Cause} {text rest : List Char}
    {power : Option (Bool × List Char)} (read : readPower atEnd text = .ok (power, rest)) :
    rest.length ≤ text.length := by
  unfold readPower at read
  split at read
  all_goals first
    | (simp only [Except.ok.injEq, Prod.mk.injEq] at read
       simp [← read.2])
    | (rename_i tail
       cases inner : readExponent atEnd tail with
       | error fault => simp [inner, Except.map] at read
       | ok found =>
         have := readExponent_shorter inner
         simp only [inner, Except.map, Except.ok.injEq, Prod.mk.injEq] at read
         simp only [← read.2, List.length_cons]
         omega)

/-- What may be a fraction leaves no more than the text. -/
theorem readFraction_length {atEnd : Cause} {text rest fraction : List Char}
    (read : readFraction atEnd text = .ok (fraction, rest)) : rest.length ≤ text.length := by
  unfold readFraction at read
  split at read
  · simp [refuseAt] at read
  · rename_i c tail
    split at read
    · have := (List.dropWhile_sublist (l := c :: tail) isDigit).length_le
      simp only [Except.ok.injEq, Prod.mk.injEq] at read
      simp only [← read.2, List.length_cons]
      simp only [List.length_cons] at this
      omega
    · simp [refuseAfter] at read
  · simp only [Except.ok.injEq, Prod.mk.injEq] at read
    simp [← read.2]

/-- The digits in front of the point are at least one. -/
theorem readWhole_shorter {atEnd : Cause} {text rest whole : List Char}
    (read : readWhole atEnd text = .ok (whole, rest)) : rest.length < text.length := by
  unfold readWhole at read
  split at read
  · simp [refuseAt] at read
  · split at read
    · simp [refuseAfter] at read
    · simp only [Except.ok.injEq, Prod.mk.injEq] at read
      simp [← read.2]
  · rename_i c tail _
    split at read
    · have := (List.dropWhile_sublist (l := tail) isDigit).length_le
      simp only [Except.ok.injEq, Prod.mk.injEq] at read
      simp only [← read.2, List.length_cons]
      omega
    · simp [refuseAfter] at read

/-- A numeral takes at least a digit from the text. -/
theorem readNumeral_shorter {atEnd : Cause} {text rest : List Char} {numeral : Numeral}
    (read : readNumeral atEnd text = .ok (numeral, rest)) : rest.length < text.length := by
  unfold readNumeral at read
  split at read
  rename_i negative unsigned split
  have unsignedLength : unsigned.length ≤ text.length := by
    split at split <;> simp only [Prod.mk.injEq] at split <;> simp [← split.2]
  simp only [bind, Except.bind] at read
  split at read
  · simp at read
  rename_i whole first
  split at read
  · simp at read
  rename_i fraction second
  split at read
  · simp at read
  rename_i power third
  simp only [Except.ok.injEq, Prod.mk.injEq] at read
  have := readWhole_shorter first
  have := readFraction_length second
  have := readPower_length third
  rw [← read.2]
  omega

/-- A number takes at least a digit from the text. -/
theorem readNumber_shorter {text rest : List Char} {number : Number}
    (read : readNumber text = .ok (number, rest)) : rest.length < text.length := by
  unfold readNumber at read
  simp only [bind, Except.bind] at read
  split at read
  · simp at read
  rename_i found first
  split at read
  · simp only [Except.ok.injEq, Prod.mk.injEq] at read
    have := readNumeral_shorter first
    rw [← read.2]
    omega
  · simp [refuseAt] at read

end SarifDigest.Json
