import SarifDigest.Binary64.Basic
import SarifDigest.Text.Loop
import SarifDigest.Text.Pieces

/-!
# Scalars of TOML

Which words are numbers, truth values, dates and times. Their values are not kept; but an
integer that no machine word of 128 bits holds and a number too large for a double are none.
-/
namespace SarifDigest.Toml

/-- Digits in a base, with single underscores between them. -/
def isDigitRun (base : Nat) (text : List Char) : Bool :=
  let (first, rest) := Text.pieces '_' text
  (first :: rest).all fun piece =>
    !piece.isEmpty && piece.all fun c => (Text.digitValue? base c).isSome

/-- The number of a run of digits. -/
def runValue (base : Nat) (text : List Char) : Nat :=
  (Text.numberOf? base (text.filter (· ≠ '_'))).getD 0

/-- A number without its sign, and whether that is a minus. -/
def withoutSign : List Char → Bool × List Char
  | '-' :: rest => (true, rest)
  | '+' :: rest => (false, rest)
  | text => (false, text)

/-- Digits in base ten that do not start with a zero unless that is all. -/
def isWholePart (text : List Char) : Bool :=
  isDigitRun 10 text && (text.head? ≠ some '0' || text.length = 1)

/-- The base of an integer and its digits, if it does not have base ten. -/
def radixDigits? : List Char → Option (Nat × List Char)
  | '0' :: 'x' :: digits => some (16, digits)
  | '0' :: 'o' :: digits => some (8, digits)
  | '0' :: 'b' :: digits => some (2, digits)
  | _ => none

/-- Whether a word is an integer. -/
def isInteger (word : List Char) : Bool :=
  match radixDigits? word with
  | some (base, digits) => isDigitRun base digits && runValue base digits < Nat.pow 2 128
  | none =>
    let (negative, digits) := withoutSign word
    isWholePart digits &&
      (if negative then runValue 10 digits ≤ Nat.pow 2 127 else runValue 10 digits < Nat.pow 2 128)

/-- Whether a double is nearest to the number of a significand with decimal places and the digits
of an exponent. -/
def isFinite (significand : Nat) (places : Nat) (negative : Bool) (exponent : List Char) : Bool :=
  let size := runValue 10 exponent
  let power : Int := if negative then -size else size
  (Binary64.nearestDecimal significand (power - places)).isSome

/-- The part of a number before its exponent, and the exponent if there is one. -/
def splitExponent (text : List Char) : List Char × Option (List Char) :=
  let start := text.takeWhile fun c => c ≠ 'e' && c ≠ 'E'
  match text.drop start.length with
  | [] => (start, none)
  | _ :: exponent => (start, some exponent)

/-- Whether a word is a number with a fraction or an exponent, or one of the special ones. -/
def isReal (word : List Char) : Bool :=
  let (_, body) := withoutSign word
  if body = ['i', 'n', 'f'] || body = ['n', 'a', 'n'] then true
  else
    let (start, exponent) := splitExponent body
    let (whole, fractions) := Text.pieces '.' start
    let (negative, power) := withoutSign (exponent.getD [])
    let fraction := fractions.headD []
    isWholePart whole && fractions.length ≤ 1 && fractions.all (isDigitRun 10) &&
      exponent.all (fun _ => isDigitRun 10 power) && (exponent.isSome || !fractions.isEmpty) &&
      isFinite (runValue 10 (whole ++ fraction)) (fraction.filter (· ≠ '_')).length negative power

/-- A number of exactly some digits within bounds. -/
def isField (text : List Char) (length least most : Nat) : Bool :=
  text.length = length && text.all Char.isDigit &&
    (Text.numberOf? 10 text).any fun value => least ≤ value && value ≤ most

/-- The days of a month. -/
def daysIn (year month : Nat) : Nat :=
  if month = 2 then
    if year % 4 = 0 && (year % 100 ≠ 0 || year % 400 = 0) then 29 else 28
  else if [4, 6, 9, 11].contains month then 30
  else 31

/-- Whether a text is a date. -/
def isDate (text : List Char) : Bool :=
  match Text.pieces '-' text with
  | (year, [month, day]) =>
    isField year 4 0 9999 && isField month 2 1 12 &&
      isField day 2 1 (daysIn (runValue 10 year) (runValue 10 month))
  | _ => false

/-- Whether a text is a time of day; seconds may be left out, and a leap second is one. -/
def isTime (text : List Char) : Bool :=
  match Text.pieces ':' text with
  | (hour, [minute]) => isField hour 2 0 23 && isField minute 2 0 59
  | (hour, [minute, second]) =>
    let (whole, fractions) := Text.pieces '.' second
    isField hour 2 0 23 && isField minute 2 0 59 && isField whole 2 0 60 &&
      fractions.length ≤ 1 && fractions.all fun digits => !digits.isEmpty && digits.all Char.isDigit
  | _ => false

/-- Whether a text is an offset from universal time, of at most a day. -/
def isOffset (text : List Char) : Bool :=
  match Text.pieces ':' text with
  | (hours, [minutes]) =>
    isField hours 2 0 24 && isField minutes 2 0 59 &&
      runValue 10 hours * 60 + runValue 10 minutes ≤ 24 * 60
  | _ => false

/-- Whether a text is a time of day that may have an offset. -/
def isOffsetTime (text : List Char) : Bool :=
  let time := text.takeWhile fun c => !(['Z', 'z', '+', '-'].contains c)
  match text.drop time.length with
  | [] => isTime time
  | mark :: offset =>
    isTime time && (if mark = 'Z' || mark = 'z' then offset.isEmpty else isOffset offset)

/-- Whether a word is a date, a time, or a date with a time behind a letter or a blank. -/
def isMoment (word : List Char) : Bool :=
  let date := word.take 10
  match word.drop 10 with
  | [] => isDate date || isTime word
  | mark :: time =>
    if ['T', 't', ' '].contains mark then isDate date && isOffsetTime time
    else isTime word

/-- Whether a word is a scalar. -/
def isScalar (word : List Char) : Bool :=
  word = ['t', 'r', 'u', 'e'] || word = ['f', 'a', 'l', 's', 'e'] || isInteger word ||
    isReal word || isMoment word

end SarifDigest.Toml
