import SarifDigest.Binary64.Shortest

/-!
# Numbers of a document

A number is natural, negative or real. A numeral without a fraction and an exponent is natural
or negative as far as the words of a machine reach; past them it is real, and so is a negative
zero. A real number is a sign and a double, and its text is the shortest that reads back.
-/
namespace SarifDigest.Json

/-- A number: a natural one of 64 bits, a negative one given by its size, at most `2 ^ 63`, or
a real one. -/
inductive Number
  | natural (value : Nat)
  | negative (size : Nat)
  | real (negative : Bool) (size : Binary64)
deriving DecidableEq

/-- Real numbers are positional while the leading digit stands between the fifth decimal place
and the sixteenth place before the point; other exponents always have a sign. -/
def realLayout : Binary64.Layout := ⟨-5, 15, "+"⟩

/-- The text of a real number. -/
def realText (negative : Bool) (size : Binary64) : String :=
  (if negative then "-" else "") ++ realLayout.text size.shortest

/-- The decimal digits of ASCII, the only ones a number may have. -/
def isDigit (c : Char) : Bool :=
  '0' ≤ c && c ≤ '9'

/-- The value of a digit. -/
def digitValue (c : Char) : Nat :=
  c.toNat - '0'.toNat

/-- Append digits to a significand while it stays below `2 ^ 64`. The first digit that does
not fit ends this for good. The count is of the digits appended. -/
def absorb (significand : Nat) : List Char → Nat × Nat
  | [] => (significand, 0)
  | c :: rest =>
    let next := significand * 10 + digitValue c
    if next < Nat.pow 2 64 then
      let (final, count) := absorb next rest
      (final, count + 1)
    else (significand, 0)

/-- The parts of a number as it is written: a sign, the digits before the point, those after
it, and the exponent with its sign. No fraction and no exponent make it an integer. -/
structure Numeral where
  negative : Bool
  whole : List Char
  fraction : List Char
  exponent : Option (Bool × List Char)
deriving DecidableEq

/-- The value of the digits of an exponent, unless it leaves the words of 32 bits; then the
digits that are not read any more. -/
def exponentValue (value : Nat) : List Char → Except (List Char) Nat
  | [] => .ok value
  | c :: rest =>
    let next := value * 10 + digitValue c
    if next < Nat.pow 2 31 then exponentValue next rest else .error rest

/-- The real number of a sign and a decimal. One too large for a double is refused with nothing
left to read. -/
def Number.ofDecimal (negative : Bool) (significand : Nat) (exponent : Int) :
    Except (List Char) Number :=
  match Binary64.ofDecimal significand exponent with
  | some size => .ok (.real negative size)
  | none => .error []

namespace Numeral

/-- The significand and the power of ten of a numeral without its exponent. Digits that do not
fit into the significand are dropped; those before the point still count as places. -/
def scaled (numeral : Numeral) : Nat × Int :=
  let (significand, taken) := absorb 0 numeral.whole
  let dropped : Int := (numeral.whole.length : Int) - (taken : Int)
  let (significand, places) := absorb significand numeral.fraction
  (significand, dropped - (places : Int))

/-- The number that a numeral stands for. A number too large for a double is refused with the
digits that were not read when this showed. -/
def number (numeral : Numeral) : Except (List Char) Number :=
  let (significand, power) := numeral.scaled
  let real := Number.ofDecimal numeral.negative significand
  match numeral.exponent with
  | some (negativePower, digits) =>
    match exponentValue 0 digits with
    | .ok exponent => real (if negativePower then power - exponent else power + exponent)
    | .error unread =>
      if significand ≠ 0 ∧ !negativePower then .error unread
      else .ok (.real numeral.negative .zero)
  | none =>
    if !numeral.fraction.isEmpty || power ≠ 0 then real power
    else if !numeral.negative then .ok (.natural significand)
    else if 0 < significand ∧ significand ≤ Nat.pow 2 63 then .ok (.negative significand)
    else real 0

end Numeral

end SarifDigest.Json
