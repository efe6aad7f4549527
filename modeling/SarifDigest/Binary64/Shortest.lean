import SarifDigest.Binary64.Basic

/-!
# Shortest decimal text of a double

The digits are the fewest that read back as the number, and of these the nearest to it. They
are found on the decimal grids from coarse to fine: the first grid with a point among the
reals that round to the number gives them. Where such a point exists, one of the two
neighbours of the number on that grid is one. How the digits are laid out is a record.
-/
namespace SarifDigest.Binary64

/-- A decimal number `digits * 10 ^ exponent`. -/
structure Decimal where
  digits : Nat
  exponent : Int
deriving DecidableEq

/-- The reals that round to a number, in quarters of the unit of its mantissa: from
`4 * mantissa - lower` to `4 * mantissa + 2`, ends included when the mantissa is even. -/
def lowerGap (value : Binary64) : Nat :=
  if value.mantissa = twoTo 52 ∧ value.exponent > -1074 then 1 else 2

/-- The point of the grid `10 ^ exponent` nearest to a number, if it reads back as it. -/
def gridPoint? (value : Binary64) (exponent : Int) : Option Nat :=
  let quarter := value.exponent - 2
  let scale := twoTo quarter.toNat * tenTo (-exponent).toNat
  let unit := twoTo (-quarter).toNat * tenTo exponent.toNat
  let centre := 4 * value.mantissa * scale
  let low := (4 * value.mantissa - value.lowerGap) * scale
  let high := (4 * value.mantissa + 2) * scale
  let closed := value.mantissa % 2 = 0
  let within (point : Nat) : Bool :=
    if closed then low ≤ point * unit ∧ point * unit ≤ high
    else low < point * unit ∧ point * unit < high
  let below := centre / unit
  let above := below + 1
  if within below then
    if within above then
      let down := centre - below * unit
      let up := above * unit - centre
      if down < up ∨ (down = up ∧ below % 2 = 0) then some below else some above
    else some below
  else if within above then some above
  else none

/-- Search the grids from an exponent downwards, through the given number of them. -/
def searchGrids (value : Binary64) : Nat → Int → Decimal
  | 0, exponent => ⟨0, exponent⟩
  | grids + 1, exponent =>
    match value.gridPoint? exponent with
    | some digits => ⟨digits, exponent⟩
    | none => searchGrids value grids (exponent - 1)

/-- The shortest decimal that reads back as a number. The search starts above the leading
digit, and seventeen significant digits always suffice. -/
def shortest (value : Binary64) : Decimal :=
  if value.mantissa = 0 then ⟨0, 0⟩ else
  let bits : Int := value.mantissa.log2 + value.exponent + 1
  searchGrids value 24 (bits * 30103 / 100000 + 2)

/-- Where a decimal text uses positional notation, by the exponent of its leading digit, and
how the exponent of the other notation is signed. -/
structure Layout where
  leastPositional : Int
  greatestPositional : Int
  plusSign : String

/-- The text of a decimal number in a layout. Positional text always has a point. -/
def Layout.text (layout : Layout) (value : Decimal) : String :=
  let digits := (Nat.toDigits 10 value.digits)
  let leading := value.exponent + digits.length - 1
  if layout.leastPositional ≤ leading ∧ leading ≤ layout.greatestPositional then
    if value.exponent ≥ 0 then
      String.ofList (digits ++ List.replicate value.exponent.toNat '0' ++ ['.', '0'])
    else if leading ≥ 0 then
      String.ofList (digits.take (leading.toNat + 1) ++ '.' :: digits.drop (leading.toNat + 1))
    else
      String.ofList ('0' :: '.' :: List.replicate ((-leading).toNat - 1) '0' ++ digits)
  else
    let fraction := digits.drop 1
    let point := if fraction.isEmpty then [] else '.' :: fraction
    let sign := if leading < 0 then "-" else layout.plusSign
    String.ofList (digits.take 1 ++ point) ++ "e" ++ sign ++ toString leading.natAbs

end SarifDigest.Binary64
