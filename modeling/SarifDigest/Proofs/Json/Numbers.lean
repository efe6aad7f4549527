import SarifDigest.Proofs.Binary64.Rounding
import SarifDigest.Proofs.Json.Grammar

/-!
# Reading space and numbers

The readers of space and numbers accept exactly the texts of the grammar. Each part of a number
has two lemmas: in front of any rest that does not go on with the number it is read and the rest
is left (`_append`), and what is read is such a part with the rest behind it (`_returns`). The
number that is found for a numeral is the one that it stands for in the grammar, or it stands for
none; so the integers of a schema are the numbers whose digits fit.
-/
namespace SarifDigest.Json

section Space

/-- The characters that are skipped are blanks, line feeds, tabs and carriage returns. -/
theorem isSpace_iff {c : Char} : isSpace c = true ↔ c = ' ' ∨ c = '\n' ∨ c = '\t' ∨ c = '\r' := by
  simp [isSpace, or_assoc]

/-- Space is what is skipped. -/
theorem spaces_iff {text : List Char} : Spaces text ↔ ∀ c ∈ text, isSpace c = true := by
  simp only [Spaces, isSpace_iff]

/-- No characters are space. -/
theorem Spaces.nil : Spaces [] := by
  simp [Spaces]

/-- Space behind space is space. -/
theorem Spaces.append {left right : List Char} (first : Spaces left) (second : Spaces right) :
    Spaces (left ++ right) := by
  intro c inside
  cases List.mem_append.mp inside with
  | inl before => exact first c before
  | inr behind => exact second c behind

/-- Space in front of a text is skipped. -/
theorem skipSpace_append {space text : List Char} (blank : Spaces space) :
    skipSpace (space ++ text) = skipSpace text :=
  List.dropWhile_append_of_pos (spaces_iff.mp blank)

/-- Nothing is skipped in front of a character that is no space. -/
theorem skipSpace_cons {c : Char} {text : List Char} (solid : isSpace c = false) :
    skipSpace (c :: text) = c :: text := by
  simp [skipSpace, solid]

/-- What is skipped is space. -/
theorem skipSpace_split (text : List Char) :
    ∃ space, Spaces space ∧ text = space ++ skipSpace text := by
  refine ⟨text.takeWhile isSpace, spaces_iff.mpr ?_, List.takeWhile_append_dropWhile.symm⟩
  exact fun c inside => List.all_eq_true.mp List.all_takeWhile c inside

/-- Nothing is left of a text behind its space exactly when it is all space. -/
theorem skipSpace_eq_nil_iff {text : List Char} : skipSpace text = [] ↔ Spaces text := by
  constructor
  · intro nothing
    obtain ⟨space, blank, front⟩ := skipSpace_split text
    rw [front, nothing, List.append_nil]
    exact blank
  · intro blank
    have skipped : skipSpace (text ++ []) = skipSpace [] := skipSpace_append blank
    rwa [List.append_nil] at skipped

end Space

section Numbers

/-- A text that does not go on with digits. -/
def Stops (rest : List Char) : Prop :=
  ∀ c, rest.head? = some c → isDigit c = false

/-- A text that does not go on with the parts of a number. -/
def Ended (rest : List Char) : Prop :=
  ∀ c, rest.head? = some c → isDigit c = false ∧ c ≠ '.' ∧ c ≠ 'e' ∧ c ≠ 'E'

/-- A text that does not go on with a number does not go on with digits. -/
theorem Ended.stops {rest : List Char} (ended : Ended rest) : Stops rest :=
  fun c head => (ended c head).1

/-- The end of a document does not go on with a number. -/
theorem Ended.nil : Ended [] := by
  simp [Ended]

/-- Another character ends digits. -/
theorem stops_cons {c : Char} {rest : List Char} (other : isDigit c = false) :
    Stops (c :: rest) := by
  intro head same
  simp only [List.head?_cons, Option.some.injEq] at same
  rw [← same]
  exact other

/-- Digits are taken up to a text that does not go on with them. -/
theorem takeWhile_digits {digits rest : List Char} (all : ∀ c ∈ digits, isDigit c = true)
    (stops : Stops rest) : (digits ++ rest).takeWhile isDigit = digits := by
  rw [List.takeWhile_append_of_pos all]
  cases rest with
  | nil => simp
  | cons c others => simp [stops c rfl]

/-- Behind digits the text that does not go on with them is left. -/
theorem dropWhile_digits {digits rest : List Char} (all : ∀ c ∈ digits, isDigit c = true)
    (stops : Stops rest) : (digits ++ rest).dropWhile isDigit = rest := by
  rw [List.dropWhile_append_of_pos all]
  cases rest with
  | nil => simp
  | cons c others => simp [stops c rfl]

/-- The digits in front of a text, and the text behind them. -/
theorem takeWhile_split (text : List Char) :
    text = text.takeWhile isDigit ++ text.dropWhile isDigit :=
  List.takeWhile_append_dropWhile.symm

/-- The digits in front of a text that starts with one are digits. -/
theorem digits_takeWhile {c : Char} (text : List Char) (digit : isDigit c = true) :
    Digits ((c :: text).takeWhile isDigit) := by
  refine ⟨by simp [digit], ?_⟩
  exact fun c inside => List.all_eq_true.mp List.all_takeWhile c inside

/-- Digits start with a digit. -/
theorem Digits.cons {digits : List Char} (written : Digits digits) :
    ∃ c others, digits = c :: others ∧ isDigit c = true := by
  cases digits with
  | nil => exact absurd rfl written.1
  | cons c others => exact ⟨c, others, rfl, written.2 c List.mem_cons_self⟩

/-- Zero is a digit. -/
theorem isDigit_zero : isDigit '0' = true := by
  decide

/-- The digits of an integer are digits. -/
theorem WholeDigits.digits {digits : List Char} (written : WholeDigits digits) :
    Digits digits := by
  cases written with
  | inl zero => simp [zero, Digits]
  | inr other => exact other.1

variable {atEnd : Cause} {text rest : List Char}

/-- The exponent in front of a text that does not go on with digits is read. -/
theorem readExponent_append (atEnd : Cause) {negative : Bool} {sign digits : List Char}
    (signed : SignText negative sign) (written : Digits digits) (stops : Stops rest) :
    readExponent atEnd (sign ++ (digits ++ rest)) = .ok ((negative, digits), rest) := by
  obtain ⟨c, others, rfl, digit⟩ := written.cons
  have taken := takeWhile_digits written.2 stops
  have left := dropWhile_digits written.2 stops
  simp only [List.cons_append] at taken left
  have noPlus : c ≠ '+' := by rintro rfl; exact absurd digit (by decide)
  have noMinus : c ≠ '-' := by rintro rfl; exact absurd digit (by decide)
  cases signed with
  | unsigned => simp [readExponent, noPlus, noMinus, digit, taken, left]
  | plus => simp [readExponent, digit, taken, left]
  | minus => simp [readExponent, digit, taken, left]

/-- What is read as an exponent is a sign and digits. -/
theorem readExponent_returns {power : Bool × List Char}
    (read : readExponent atEnd text = .ok (power, rest)) :
    ∃ sign, SignText power.1 sign ∧ Digits power.2 ∧ text = sign ++ (power.2 ++ rest) := by
  unfold readExponent at read
  split at read
  rename_i negative unsigned signed
  split at read
  · simp [refuseAt] at read
  · rename_i c others
    split at read
    · rename_i digit
      simp only [Except.ok.injEq, Prod.mk.injEq] at read
      obtain ⟨rfl, rfl⟩ := read
      have whole := takeWhile_split (c :: others)
      have written := digits_takeWhile others digit
      split at signed
      · simp only [Prod.mk.injEq] at signed
        obtain ⟨rfl, rfl⟩ := signed
        exact ⟨['+'], .plus, written, by simp [← whole]⟩
      · simp only [Prod.mk.injEq] at signed
        obtain ⟨rfl, rfl⟩ := signed
        exact ⟨['-'], .minus, written, by simp [← whole]⟩
      · simp only [Prod.mk.injEq] at signed
        obtain ⟨rfl, rfl⟩ := signed
        exact ⟨[], .unsigned, written, by simp [← whole]⟩
    · simp [refuseAfter] at read

/-- The power in front of a text that does not go on with a number is read. -/
theorem readPower_append (atEnd : Cause) {power : Option (Bool × List Char)}
    (written : PowerText power text) (ended : Ended rest) :
    readPower atEnd (text ++ rest) = .ok (power, rest) := by
  cases written with
  | none =>
    rw [List.nil_append]
    unfold readPower
    split
    · rename_i same
      exact absurd rfl (ended _ rfl).2.2.1
    · exact absurd rfl (ended _ rfl).2.2.2
    · rfl
  | some letter signed digits =>
    have exponent := readExponent_append atEnd signed digits ended.stops
    cases letter with
    | inl lower => simp [lower, readPower, exponent, Except.map]
    | inr upper => simp [upper, readPower, exponent, Except.map]

/-- What is read as an exponent behind its letter is a power. -/
theorem readExponent_power {power : Option (Bool × List Char)} {letter : Char} {others : List Char}
    (marks : letter = 'e' ∨ letter = 'E')
    (read : (readExponent atEnd others).map (fun (power, last) => (some power, last)) =
      .ok (power, rest)) :
    ∃ form, PowerText power form ∧ letter :: others = form ++ rest := by
  cases exponent : readExponent atEnd others with
  | error fault => simp [exponent, Except.map] at read
  | ok pair =>
    obtain ⟨inner, last⟩ := pair
    simp only [exponent, Except.map, Except.ok.injEq, Prod.mk.injEq] at read
    obtain ⟨rfl, rfl⟩ := read
    obtain ⟨sign, signed, digits, rfl⟩ := readExponent_returns exponent
    exact ⟨letter :: (sign ++ inner.2), .some marks signed digits, by simp⟩

/-- What is read as a power is one, or nothing is. -/
theorem readPower_returns {power : Option (Bool × List Char)}
    (read : readPower atEnd text = .ok (power, rest)) :
    ∃ form, PowerText power form ∧ text = form ++ rest := by
  unfold readPower at read
  split at read
  · exact readExponent_power (.inl rfl) read
  · exact readExponent_power (.inr rfl) read
  · simp only [Except.ok.injEq, Prod.mk.injEq] at read
    obtain ⟨rfl, rfl⟩ := read
    exact ⟨[], .none, rfl⟩

/-- The fraction in front of a text that does not go on with it is read. -/
theorem readFraction_append (atEnd : Cause) {fraction : List Char}
    (written : FractionText fraction text) (stops : Stops rest) (point : rest.head? ≠ some '.') :
    readFraction atEnd (text ++ rest) = .ok (fraction, rest) := by
  cases written with
  | none =>
    rw [List.nil_append]
    unfold readFraction
    split
    · exact absurd rfl point
    · exact absurd rfl point
    · rfl
  | some digits =>
    obtain ⟨c, others, rfl, digit⟩ := digits.cons
    have taken := takeWhile_digits digits.2 stops
    have left := dropWhile_digits digits.2 stops
    simp only [List.cons_append] at taken left ⊢
    simp [readFraction, digit, taken, left]

/-- What is read as a fraction is one, or nothing is. -/
theorem readFraction_returns {fraction : List Char}
    (read : readFraction atEnd text = .ok (fraction, rest)) :
    ∃ form, FractionText fraction form ∧ text = form ++ rest := by
  unfold readFraction at read
  split at read
  · simp [refuseAt] at read
  · rename_i c others
    split at read
    · rename_i digit
      simp only [Except.ok.injEq, Prod.mk.injEq] at read
      obtain ⟨rfl, rfl⟩ := read
      exact ⟨_, .some (digits_takeWhile others digit),
        congrArg ('.' :: ·) (takeWhile_split (c :: others))⟩
    · simp [refuseAfter] at read
  · simp only [Except.ok.injEq, Prod.mk.injEq] at read
    obtain ⟨rfl, rfl⟩ := read
    exact ⟨[], .none, rfl⟩

/-- The digits of an integer in front of a text that does not go on with digits are read. -/
theorem readWhole_append (atEnd : Cause) {whole : List Char}
    (written : WholeDigits whole) (stops : Stops rest) :
    readWhole atEnd (whole ++ rest) = .ok (whole, rest) := by
  cases written with
  | inl zero =>
    rw [zero]
    cases rest with
    | nil => simp [readWhole, isDigit_zero]
    | cons c others => simp [readWhole, stops c rfl]
  | inr other =>
    obtain ⟨written, leading⟩ := other
    obtain ⟨c, others, rfl, digit⟩ := written.cons
    have positive : c ≠ '0' := by
      rintro rfl
      exact leading rfl
    have all : ∀ c ∈ others, isDigit c = true := fun c inside =>
      written.2 c (List.mem_cons_of_mem _ inside)
    simp [readWhole, positive, digit, takeWhile_digits all stops, dropWhile_digits all stops]

/-- What is read as the digits of an integer is so written. -/
theorem readWhole_returns {whole : List Char}
    (read : readWhole atEnd text = .ok (whole, rest)) :
    WholeDigits whole ∧ text = whole ++ rest := by
  unfold readWhole at read
  split at read
  · simp [refuseAt] at read
  · split at read
    · simp [refuseAfter] at read
    · simp only [Except.ok.injEq, Prod.mk.injEq] at read
      obtain ⟨rfl, rfl⟩ := read
      exact ⟨.inl rfl, rfl⟩
  · rename_i c others alone
    split at read
    · rename_i digit
      simp only [Except.ok.injEq, Prod.mk.injEq] at read
      obtain ⟨rfl, rfl⟩ := read
      refine ⟨?_, congrArg (c :: ·) (takeWhile_split others)⟩
      by_cases zero : c = '0'
      · cases others with
        | nil => exact .inl (by simp [zero])
        | cons next behind => exact absurd rfl (alone next behind zero)
      · have written := digits_takeWhile others digit
        rw [List.takeWhile_cons_of_pos digit] at written
        exact .inr ⟨written, by simpa using zero⟩
    · simp [refuseAfter] at read

/-- A numeral in front of a text that does not go on with it is read to its end. -/
theorem readNumeral_append (atEnd : Cause) {numeral : Numeral} (written : numeral.Written text)
    (ended : Ended rest) : readNumeral atEnd (text ++ rest) = .ok (numeral, rest) := by
  obtain ⟨negative, whole, fraction, exponent⟩ := numeral
  obtain ⟨pointed, power, wholeWritten, fractionWritten, powerWritten, rfl⟩ := written
  have powerStops : Stops (power ++ rest) ∧ (power ++ rest).head? ≠ some '.' := by
    cases powerWritten with
    | none => exact ⟨ended.stops, fun point => absurd rfl (ended '.' point).2.1⟩
    | some letter signed digits =>
      cases letter with
      | inl lower => exact ⟨by rw [lower]; exact stops_cons (by decide), by simp [lower]⟩
      | inr upper => exact ⟨by rw [upper]; exact stops_cons (by decide), by simp [upper]⟩
  have fractionStops : Stops (pointed ++ (power ++ rest)) := by
    cases fractionWritten with
    | none => exact powerStops.1
    | some digits => exact stops_cons (by decide)
  have first := readWhole_append atEnd wholeWritten fractionStops
  have second := readFraction_append atEnd fractionWritten powerStops.1 powerStops.2
  have third := readPower_append atEnd powerWritten ended
  cases negative with
  | true => simp [readNumeral, first, second, third, bind, Except.bind]
  | false =>
    obtain ⟨c, others, rfl, digit⟩ := wholeWritten.digits.cons
    have unsigned : c ≠ '-' := by
      rintro rfl
      exact absurd digit (by decide)
    simp only [List.cons_append] at first
    simp [readNumeral, unsigned, first, second, third, bind, Except.bind]

/-- A numeral that was read stands in front of the rest. -/
theorem readNumeral_returns {numeral : Numeral}
    (read : readNumeral atEnd text = .ok (numeral, rest)) :
    ∃ form, numeral.Written form ∧ text = form ++ rest := by
  unfold readNumeral at read
  split at read
  rename_i negative unsigned signed
  have front : text = (if negative then ['-'] else []) ++ unsigned := by
    split at signed <;> simp only [Prod.mk.injEq] at signed <;> simp [← signed.1, ← signed.2]
  simp only [bind, Except.bind] at read
  split at read
  · simp at read
  rename_i whole first
  split at read
  · simp at read
  rename_i fraction second
  split at read
  · simp at read
  rename_i power third
  simp only [Except.ok.injEq, Prod.mk.injEq] at read
  obtain ⟨rfl, rfl⟩ := read
  obtain ⟨wholeWritten, wholeFront⟩ := readWhole_returns first
  obtain ⟨pointed, fractionWritten, fractionFront⟩ := readFraction_returns second
  obtain ⟨raised, powerWritten, powerFront⟩ := readPower_returns third
  refine ⟨_, ⟨pointed, raised, wholeWritten, fractionWritten, powerWritten, rfl⟩, ?_⟩
  rw [front, wholeFront, fractionFront, powerFront]
  simp

/-- A numeral starts with a minus or a digit. -/
theorem Numeral.Written.cons {numeral : Numeral} (written : numeral.Written text) :
    ∃ c others, text = c :: others ∧ (c = '-' ∨ isDigit c = true) := by
  obtain ⟨pointed, power, whole, -, -, rfl⟩ := written
  cases numeral.negative with
  | true => exact ⟨'-', _, rfl, .inl rfl⟩
  | false =>
    obtain ⟨c, others, same, digit⟩ := whole.digits.cons
    exact ⟨c, _, by rw [same]; rfl, .inr digit⟩

end Numbers

section Significands

/-- One more digit appends to the number that digits write. -/
theorem decimal_append (digits : List Char) (c : Char) :
    decimal (digits ++ [c]) = decimal digits * 10 + digitValue c := by
  rw [decimal, Nat.ofDigitChars_append, Nat.ofDigitChars_cons, Nat.mul_comm]
  rfl

/-- More digits never write a smaller number. -/
theorem decimal_le_append (digits others : List Char) :
    decimal digits ≤ decimal (digits ++ others) := by
  induction others generalizing digits with
  | nil => simp
  | cons c others ih =>
    have step := ih (digits ++ [c])
    rw [decimal_append, List.append_assoc, List.singleton_append] at step
    omega

variable {front digits kept cut : List Char}

/-- The digits that are appended to a significand are those up to the cut. -/
theorem CutAt.absorb_eq (cuts : CutAt front digits kept cut) :
    absorb (decimal front) digits = (decimal (front ++ kept), kept.length) := by
  obtain ⟨rfl, fits, stops⟩ := cuts
  induction kept generalizing front with
  | nil =>
    cases cut with
    | nil => simp [absorb]
    | cons c others =>
      have past := stops c rfl
      rw [List.append_nil, decimal_append] at past
      have stop : ¬ decimal front * 10 + digitValue c < Nat.pow 2 64 := Nat.not_lt.mpr past
      simp [absorb, stop]
  | cons c others ih =>
    have rest : front ++ c :: others = (front ++ [c]) ++ others := by simp
    have below : decimal (front ++ [c]) < Nat.pow 2 64 :=
      Nat.lt_of_le_of_lt (decimal_le_append _ others) (rest ▸ fits)
    rw [rest] at fits stops ⊢
    have tail := ih fits stops
    rw [decimal_append] at below tail
    simp [absorb, below, tail]

/-- Digits can be cut behind others that fit into 64 bits. -/
theorem exists_cutAt (digits : List Char) (fits : decimal front < 2 ^ 64) :
    ∃ kept cut, CutAt front digits kept cut := by
  induction digits generalizing front with
  | nil => exact ⟨[], [], rfl, by simpa using fits, by simp⟩
  | cons c others ih =>
    by_cases below : decimal (front ++ [c]) < 2 ^ 64
    · obtain ⟨kept, cut, rfl, fits', stops⟩ := ih below
      exact ⟨c :: kept, cut, rfl, by simpa using fits', by simpa using stops⟩
    · refine ⟨[], c :: others, rfl, by simpa using fits, ?_⟩
      simpa using below

/-- Digits that write a number of 64 bits are not cut. -/
theorem cutAt_nil (fits : decimal (front ++ digits) < 2 ^ 64) : CutAt front digits digits [] :=
  ⟨by simp, fits, by simp⟩

/-- The significand that is found for a numeral is the one that it has. -/
theorem Numeral.significand_iff {numeral : Numeral} {significand : Nat} {places : Int} :
    numeral.Significand significand places ↔ numeral.scaled = (significand, places) := by
  have found {whole cut fraction tail : List Char} (first : CutAt [] numeral.whole whole cut)
      (second : CutAt whole numeral.fraction fraction tail) : numeral.scaled =
        (decimal (whole ++ fraction), (cut.length - fraction.length : Int)) := by
    have dropped : (numeral.whole.length : Int) - whole.length = cut.length := by
      rw [first.whole, List.length_append]
      omega
    have start := first.absorb_eq
    simp only [List.nil_append] at start
    simp only [scaled, show (0 : Nat) = decimal [] from rfl, start, second.absorb_eq, dropped]
  constructor
  · rintro ⟨first, second⟩
    exact found first second
  · intro scaled
    obtain ⟨whole, cut, first⟩ := exists_cutAt numeral.whole (by decide : decimal [] < 2 ^ 64)
    obtain ⟨fraction, tail, second⟩ := exists_cutAt numeral.fraction first.fits
    rw [found first second, Prod.mk.injEq] at scaled
    rw [← scaled.1, ← scaled.2]
    exact .kept first second

/-- The exponent that is found is what its digits write, as far as this has 32 bits. -/
theorem exponentValue_eq (digits : List Char) (front : List Char) :
    (decimal (front ++ digits) < 2 ^ 31 →
        exponentValue (decimal front) digits = .ok (decimal (front ++ digits))) ∧
      (decimal front < 2 ^ 31 → 2 ^ 31 ≤ decimal (front ++ digits) →
        ∃ unread, exponentValue (decimal front) digits = .error unread) := by
  induction digits generalizing front with
  | nil => simp [exponentValue]
  | cons c others ih =>
    have rest : front ++ c :: others = (front ++ [c]) ++ others := by simp
    have tail := ih (front ++ [c])
    have grows := decimal_le_append (front ++ [c]) others
    rw [rest]
    rw [decimal_append] at tail grows
    have power : Nat.pow 2 31 = 2 ^ 31 := rfl
    simp only [exponentValue, power]
    constructor
    · intro below
      rw [if_pos (Nat.lt_of_le_of_lt grows below)]
      exact tail.1 below
    · intro _ past
      by_cases below : decimal front * 10 + digitValue c < 2 ^ 31
      · rw [if_pos below]
        exact tail.2 below past
      · exact ⟨others, if_neg below⟩

end Significands

section Integers

variable {wanted : String} {numeral : Numeral} {number : Number} {value : Int}
  {text rest : List Char}

/-- Without a fraction, digits that write a number of 64 bits are the significand. -/
theorem Numeral.scaled_of_lt (plain : numeral.fraction = [])
    (fits : decimal numeral.whole < 2 ^ 64) : numeral.scaled = (decimal numeral.whole, 0) := by
  have none : CutAt numeral.whole numeral.fraction [] [] := by
    rw [plain]
    exact cutAt_nil (by simpa using fits)
  simpa using significand_iff.mp (.kept (cutAt_nil fits) none)

/-- Without a fraction, a power of ten remains of digits that write a greater number. -/
theorem Numeral.scaled_of_le (plain : numeral.fraction = [])
    (past : 2 ^ 64 ≤ decimal numeral.whole) : numeral.scaled.2 ≠ 0 := by
  obtain ⟨whole, cut, first⟩ := exists_cutAt numeral.whole (by decide : decimal [] < 2 ^ 64)
  obtain ⟨fraction, tail, second⟩ := exists_cutAt numeral.fraction first.fits
  have noFraction : fraction = [] := by
    have empty := second.whole
    rw [plain] at empty
    exact (List.append_eq_nil_iff.mp empty.symm).1
  have someCut : cut ≠ [] := by
    rintro rfl
    have fits := first.fits
    rw [List.nil_append, ← List.append_nil whole, ← first.whole] at fits
    omega
  have scaled := significand_iff.mp (.kept first second)
  rw [scaled, noFraction]
  have := List.length_pos_of_ne_nil someCut
  simp only [List.length_nil]
  omega

/-- An exponent of 32 bits raises the significand. -/
theorem Numeral.rounded_iff_of_lt {significand : Nat} {places : Int} {size : Binary64}
    (scaled : numeral.scaled = (significand, places)) (small : numeral.power.natAbs < 2 ^ 31) :
    numeral.Rounded size ↔
      Binary64.ofDecimal significand (places + numeral.power) = some size := by
  rw [Binary64.ofDecimal_eq_some_iff]
  constructor
  · rintro (⟨known, _, nearest, raised⟩ | ⟨_, large, _⟩)
    · rw [significand_iff, scaled, Prod.mk.injEq] at known
      obtain ⟨rfl, rfl⟩ := known
      exact ⟨_, nearest, raised⟩
    · omega
  · rintro ⟨start, nearest, raised⟩
    exact .raised (significand_iff.mpr scaled) small nearest raised

/-- A greater exponent leaves zero of zero and below one. -/
theorem Numeral.rounded_iff_of_le {significand : Nat} {places : Int} {size : Binary64}
    (scaled : numeral.scaled = (significand, places)) (large : 2 ^ 31 ≤ numeral.power.natAbs) :
    numeral.Rounded size ↔ (significand = 0 ∨ numeral.power < 0) ∧ size = .zero := by
  constructor
  · rintro (⟨_, small, _⟩ | ⟨known, _, vanishes⟩)
    · omega
    · rw [significand_iff, scaled, Prod.mk.injEq] at known
      obtain ⟨rfl, rfl⟩ := known
      exact ⟨vanishes, rfl⟩
  · rintro ⟨vanishes, rfl⟩
    exact .vanishing (significand_iff.mpr scaled) large vanishes

/-- A numeral that is no integer of 64 bits stands for what it is rounded to. -/
theorem Numeral.stands_iff_of_not_integral (real : ¬ numeral.Integral) :
    numeral.Stands number ↔
      ∃ size, numeral.Rounded size ∧ number = .real numeral.negative size := by
  constructor
  · rintro (⟨integral, _⟩ | ⟨integral, _⟩ | ⟨_, rounded⟩)
    · exact absurd integral real
    · exact absurd integral real
    · exact ⟨_, rounded, rfl⟩
  · rintro ⟨size, rounded, rfl⟩
    exact .real real rounded

/-- A numeral that is an integer of 64 bits stands for it. -/
theorem Numeral.stands_iff_of_integral (integral : numeral.Integral) :
    numeral.Stands number ↔ number =
      if numeral.negative then .negative (decimal numeral.whole)
      else .natural (decimal numeral.whole) := by
  constructor
  · rintro (⟨_, positive⟩ | ⟨_, negative⟩ | ⟨real, _⟩)
    · simp [positive]
    · simp [negative]
    · exact absurd integral real
  · rintro rfl
    cases sign : numeral.negative with
    | false => exact .natural integral sign
    | true => exact .negative integral sign

/-- The number of a decimal is the double that it is rounded to, if there is one. -/
theorem Number.ofDecimal_eq_ok_iff {negative : Bool} {significand : Nat} {exponent : Int} :
    Number.ofDecimal negative significand exponent = .ok number ↔
      ∃ size, Binary64.ofDecimal significand exponent = some size ∧
        number = .real negative size := by
  unfold Number.ofDecimal
  cases Binary64.ofDecimal significand exponent with
  | none => simp
  | some size => simp [eq_comm]

/-- An integer of 64 bits is found as it is. -/
theorem Numeral.number_eq_ok_iff_of_integral (integral : numeral.Integral) :
    numeral.number = .ok number ↔ numeral.Stands number := by
  have ⟨plain, exponent, range⟩ := integral
  have fits : decimal numeral.whole < 2 ^ 64 := by split at range <;> omega
  rw [stands_iff_of_integral integral]
  simp only [Numeral.number, scaled_of_lt plain fits, exponent, plain]
  cases sign : numeral.negative with
  | false => simp [eq_comm]
  | true =>
    rw [if_pos sign] at range
    have range : 0 < decimal numeral.whole ∧ decimal numeral.whole ≤ Nat.pow 2 63 := range
    simp only [range, and_self, if_true]
    simp [eq_comm]

section Found

variable {significand : Nat} {places : Int} (scaled : numeral.scaled = (significand, places))

include scaled

/-- With an exponent the number that is found is the double that the numeral is rounded to. -/
theorem Numeral.number_eq_ok_iff_of_power {below : Bool} {digits : List Char}
    (exponent : numeral.exponent = some (below, digits)) :
    numeral.number = .ok number ↔ numeral.Stands number := by
  have real : ¬ numeral.Integral := by simp [Integral, exponent]
  have power : numeral.power = if below then -(decimal digits : Int) else decimal digits := by
    simp only [Numeral.power, exponent]
  have size : numeral.power.natAbs = decimal digits := by
    rw [power]
    split <;> omega
  have found := exponentValue_eq digits []
  rw [List.nil_append, show decimal [] = 0 from rfl] at found
  rw [stands_iff_of_not_integral real]
  by_cases small : decimal digits < 2 ^ 31
  · simp only [rounded_iff_of_lt scaled (size ▸ small), ← Number.ofDecimal_eq_ok_iff, power]
    simp only [Numeral.number, scaled, exponent, found.1 small]
    cases below <;> simp [Int.sub_eq_add_neg]
  · obtain ⟨unread, overflow⟩ := found.2 (by decide) (Nat.le_of_not_lt small)
    simp only [rounded_iff_of_le scaled (size ▸ Nat.le_of_not_lt small), power]
    simp only [Numeral.number, scaled, exponent, overflow]
    have positive : 0 < decimal digits := by omega
    cases below <;> by_cases zero : significand = 0 <;> simp [zero, eq_comm, positive]

/-- Any other numeral without an exponent is found as the double that it is rounded to. -/
theorem Numeral.number_eq_ok_iff_of_real (exponent : numeral.exponent = none)
    (real : ¬ numeral.Integral) : numeral.number = .ok number ↔ numeral.Stands number := by
  have power : numeral.power = 0 := by simp only [Numeral.power, exponent]
  have small : numeral.power.natAbs < 2 ^ 31 := by
    rw [power]
    decide
  rw [stands_iff_of_not_integral real]
  simp only [rounded_iff_of_lt scaled small, power, Int.add_zero, ← Number.ofDecimal_eq_ok_iff]
  simp only [Numeral.number, scaled, exponent]
  by_cases plain : numeral.fraction = []
  · by_cases fits : decimal numeral.whole < 2 ^ 64
    · rw [scaled_of_lt plain fits, Prod.mk.injEq] at scaled
      obtain ⟨rfl, rfl⟩ := scaled
      cases sign : numeral.negative with
      | false => exact absurd ⟨plain, exponent, by simpa [sign] using fits⟩ real
      | true =>
        have range : ¬ (0 < decimal numeral.whole ∧ decimal numeral.whole ≤ Nat.pow 2 63) :=
          fun range => real ⟨plain, exponent, by simpa [sign] using range⟩
        simp only [range, if_false]
        simp [plain]
    · have dropped := scaled_of_le plain (Nat.le_of_not_lt fits)
      rw [scaled] at dropped
      simp [dropped]
  · simp [plain]

end Found

/-- The number that is found for a numeral is the one that it stands for. -/
theorem Numeral.number_eq_ok_iff : numeral.number = .ok number ↔ numeral.Stands number := by
  cases exponent : numeral.exponent with
  | some power => exact number_eq_ok_iff_of_power rfl exponent
  | none =>
    by_cases integral : numeral.Integral
    · exact number_eq_ok_iff_of_integral integral
    · exact number_eq_ok_iff_of_real rfl exponent integral

/-- A number in front of a text that does not go on with it is read to its end. -/
theorem readNumber_append {numeral : Numeral} {number : Number} (written : numeral.Written text)
    (stands : numeral.Stands number) (ended : Ended rest) :
    readNumber (text ++ rest) = .ok (number, rest) := by
  have read := readNumeral_append .endInValue written ended
  have found := Numeral.number_eq_ok_iff.mpr stands
  simp [readNumber, read, found, bind, Except.bind]

/-- A number that was read is one that a numeral in front of the rest stands for. -/
theorem readNumber_returns {number : Number} (read : readNumber text = .ok (number, rest)) :
    ∃ numeral form, Numeral.Written numeral form ∧ numeral.Stands number ∧
      text = form ++ rest := by
  simp only [readNumber, bind, Except.bind] at read
  split at read
  · simp at read
  rename_i pair inner
  obtain ⟨numeral, last⟩ := pair
  cases found : numeral.number with
  | error unread => simp [found, refuseAt] at read
  | ok number =>
    simp only [found, Except.ok.injEq, Prod.mk.injEq] at read
    obtain ⟨rfl, rfl⟩ := read
    obtain ⟨form, written, front⟩ := readNumeral_returns inner
    exact ⟨numeral, form, written, Numeral.number_eq_ok_iff.mp found, front⟩

/-- The integers that numbers stand for are written as integers. -/
theorem integerText_of_signedValue (written : numeral.Written text)
    (stands : numeral.Stands number)
    (signed : Reader.signedValue wanted number = .ok value) : IntegerText value text := by
  obtain ⟨fraction, power, whole, fractionWritten, powerWritten, rfl⟩ := written
  have plain (integral : numeral.Integral) : fraction ++ power = [] := by
    rw [integral.1] at fractionWritten
    rw [integral.2.1] at powerWritten
    cases powerWritten with
    | none =>
      cases fractionWritten with
      | none => rfl
      | some digits => exact absurd rfl digits.1
  cases stands with
  | natural integral unsigned =>
    simp only [Reader.signedValue] at signed
    split at signed
    · rename_i below
      simp only [Except.ok.injEq] at signed
      rw [plain integral, unsigned, ← signed]
      simpa using .natural whole below
    · simp at signed
  | negative integral minus =>
    have range := integral.2.2
    rw [if_pos minus] at range
    simp only [Reader.signedValue, Except.ok.injEq] at signed
    rw [plain integral, minus, ← signed]
    simpa using .negative whole range.1 range.2
  | real => simp [Reader.signedValue] at signed

/-- What is written as an integer is the numeral of a number that stands for it. -/
theorem IntegerText.exists_number (wanted : String) (written : IntegerText value text) :
    ∃ numeral number, Numeral.Written numeral text ∧ numeral.Stands number ∧
      Reader.signedValue wanted number = .ok value := by
  cases written with
  | natural whole below =>
    refine ⟨⟨false, text, [], none⟩, .natural (decimal text), ?_, ?_, ?_⟩
    · exact ⟨[], [], whole, .none, .none, by simp⟩
    · exact .natural ⟨rfl, rfl, Nat.lt_trans below (by decide)⟩ rfl
    · have below : decimal text < Nat.pow 2 63 := below
      simp only [Reader.signedValue, if_pos below]
  | @negative digits whole positive atMost =>
    refine ⟨⟨true, digits, [], none⟩, .negative (decimal digits), ?_, ?_, rfl⟩
    · exact ⟨[], [], whole, .none, .none, by simp⟩
    · exact .negative ⟨rfl, rfl, positive, atMost⟩ rfl

/-- An integer starts with a minus or a digit. -/
theorem IntegerText.cons (written : IntegerText value text) :
    ∃ c others, text = c :: others ∧ (c = '-' ∨ isDigit c = true) := by
  obtain ⟨numeral, number, form, -, -⟩ := written.exists_number ""
  exact form.cons

end Integers

end SarifDigest.Json
