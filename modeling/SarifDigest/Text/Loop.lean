/-!
# Loops over input

A step takes something from the front of an input and either ends a loop or goes on with a new
state. The loop is given up when a step goes on without having made the input smaller, so it
always ends.
-/
namespace SarifDigest.Text

/-- Taking a value from the front of a text, or nothing if it does not start with one. -/
abbrev Scan (α : Type) := List Char → Option (α × List Char)

/-- What comes after a step. -/
inductive Turn (σ ρ : Type)
  | again (state : σ)
  | done (result : ρ)

/-- Take steps from a state on until one ends the loop. -/
def loopOn {τ σ ρ : Type} (size : τ → Nat) (step : σ → τ → Option (Turn σ ρ × τ)) (state : σ)
    (input : τ) : Option (ρ × τ) :=
  match step state input with
  | none => none
  | some (.done result, rest) => some (result, rest)
  | some (.again next, rest) =>
    if size rest < size input then loopOn size step next rest else none
termination_by size input

/-- Take steps over a list from a state on until one ends the loop. -/
def loop {τ σ ρ : Type} (step : σ → List τ → Option (Turn σ ρ × List τ)) (state : σ)
    (input : List τ) : Option (ρ × List τ) :=
  loopOn List.length step state input

/-- The text behind characters that it starts with. -/
def behind? (start : List Char) (text : List Char) : Option (List Char) :=
  if start.isPrefixOf text then some (text.drop start.length) else none

/-- The value of a digit in a base up to sixteen, letters in either case. -/
def digitValue? (base : Nat) (c : Char) : Option Nat :=
  let value :=
    if c.isDigit then c.toNat - '0'.toNat
    else if 'a' ≤ c ∧ c ≤ 'f' then c.toNat - 'a'.toNat + 10
    else if 'A' ≤ c ∧ c ≤ 'F' then c.toNat - 'A'.toNat + 10
    else base
  if value < base then some value else none

/-- The number that digits in a base stand for. -/
def numberOf? (base : Nat) (digits : List Char) : Option Nat :=
  digits.foldlM (fun value c => (digitValue? base c).map (value * base + ·)) 0

/-- The character of a code point that digits in base sixteen give, if it is one. -/
def charOf? (digits : List Char) : Option Char := do
  let code ← numberOf? 16 digits
  if code.isValidChar then some (.ofNat code) else none

/-- The character whose code point the next digits give, which have to be as many as said. -/
def scanCode (count : Nat) : Scan Char := fun text =>
  if text.length < count then none
  else (charOf? (text.take count)).map fun c => (c, text.drop count)

end SarifDigest.Text
