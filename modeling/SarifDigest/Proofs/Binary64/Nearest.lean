import Mathlib.Algebra.Order.Field.Power
import Mathlib.Tactic.Linarith
import Mathlib.Tactic.Ring
import SarifDigest.Binary64.Basic

/-!
# Nearest doubles

The doubles of the format, each a number with one mantissa and exponent only, and what it means
that one of them is nearest to a number: of two that are equally near the one with the even
mantissa is, and past the middle between the largest double and the next power of two none is.
Only one double is nearest. What a decimal text stands for is said from this step by step.
-/
namespace SarifDigest.Binary64

section Format

/-- The number that a double is. -/
def value (size : Binary64) : ℚ :=
  size.mantissa * 2 ^ size.exponent

/-- A double of the format: the mantissa and the exponent are in range, and the mantissa has all
its bits unless the exponent is the least one. -/
structure Proper (size : Binary64) : Prop where
  short : size.mantissa < 2 ^ 53
  least : -1074 ≤ size.exponent
  greatest : size.exponent ≤ 971
  normal : size.mantissa < 2 ^ 52 → size.exponent = -1074

/-- Zero is a double of the format. -/
theorem proper_zero : zero.Proper := by
  constructor <;> simp [zero]

/-- The value of zero. -/
@[simp]
theorem value_zero : zero.value = 0 := by
  simp [value, zero]

/-- Powers of two are positive. -/
theorem two_zpow_pos (exponent : Int) : (0 : ℚ) < 2 ^ exponent :=
  zpow_pos (by norm_num) exponent

/-- One more in the exponent doubles a power of two. -/
theorem two_zpow_succ (exponent : Int) : (2 : ℚ) ^ (exponent + 1) = 2 * 2 ^ exponent := by
  rw [zpow_add₀ (by norm_num), zpow_one, mul_comm]

variable {left right size other : Binary64}

/-- A double is less than the doubles with a greater exponent and all their bits. -/
theorem Proper.value_lt {exponent : Int} (proper : size.Proper) (below : size.exponent < exponent) :
    size.value < 2 ^ 52 * 2 ^ exponent := by
  have short : (size.mantissa : ℚ) < 2 ^ 53 := by exact_mod_cast proper.short
  have step : (2 : ℚ) ^ (size.exponent + 1) ≤ 2 ^ exponent :=
    zpow_le_zpow_right₀ (by norm_num) (by omega)
  rw [two_zpow_succ] at step
  calc size.value < 2 ^ 53 * 2 ^ size.exponent :=
        mul_lt_mul_of_pos_right short (two_zpow_pos _)
    _ = 2 ^ 52 * (2 * 2 ^ size.exponent) := by ring
    _ ≤ 2 ^ 52 * 2 ^ exponent := mul_le_mul_of_nonneg_left step (by norm_num)

/-- A double whose exponent is not the least one has all its bits. -/
theorem Proper.le_value (proper : size.Proper) (above : -1074 < size.exponent) :
    2 ^ 52 * 2 ^ size.exponent ≤ size.value := by
  have long : 2 ^ 52 ≤ size.mantissa := by
    by_contra short
    have := proper.normal (by omega)
    omega
  have long : (2 : ℚ) ^ 52 ≤ size.mantissa := by exact_mod_cast long
  exact mul_le_mul_of_nonneg_right long (two_zpow_pos _).le

/-- A double with a greater exponent is a multiple of the power of two. -/
theorem value_eq_mul {exponent : Int} (above : exponent ≤ size.exponent) :
    size.value = (size.mantissa * 2 ^ (size.exponent - exponent).toNat : Nat) * 2 ^ exponent := by
  have apart : ((size.exponent - exponent).toNat : Int) = size.exponent - exponent := by omega
  rw [value, Nat.cast_mul, Nat.cast_pow, Nat.cast_ofNat, ← zpow_natCast, apart, mul_assoc,
    ← zpow_add₀ (by norm_num), sub_add_cancel]

/-- A greater double is greater by at least the last place. -/
theorem Proper.add_le_value (proper : left.Proper) (proper' : right.Proper)
    (less : left.value < right.value) : left.value + 2 ^ left.exponent ≤ right.value := by
  by_cases order : left.exponent ≤ right.exponent
  · have pos := two_zpow_pos left.exponent
    rw [value_eq_mul order] at less ⊢
    rw [value] at less ⊢
    have more : left.mantissa < right.mantissa * 2 ^ (right.exponent - left.exponent).toNat := by
      exact_mod_cast lt_of_mul_lt_mul_right less pos.le
    have more : (left.mantissa : ℚ) + 1 ≤
        (right.mantissa * 2 ^ (right.exponent - left.exponent).toNat : Nat) := by
      exact_mod_cast more
    linarith [mul_le_mul_of_nonneg_right more pos.le]
  · have upper : right.value < 2 ^ 52 * 2 ^ left.exponent := proper'.value_lt (by omega)
    have lower := proper.le_value (by have := proper'.least; omega)
    linarith [two_zpow_pos left.exponent]

/-- Doubles of the format are equal when they are the same number. -/
theorem Proper.eq_of_value_eq (proper : left.Proper) (proper' : right.Proper)
    (same : left.value = right.value) : left = right := by
  have exponents : left.exponent = right.exponent := by
    rcases lt_trichotomy left.exponent right.exponent with below | equal | above
    · have upper := proper.value_lt below
      have lower := proper'.le_value (by have := proper.least; omega)
      linarith
    · exact equal
    · have upper := proper'.value_lt above
      have lower := proper.le_value (by have := proper'.least; omega)
      linarith
  have mantissas : left.mantissa = right.mantissa := by
    rw [value, value, exponents] at same
    exact_mod_cast mul_right_cancel₀ (two_zpow_pos _).ne' same
  cases left
  cases right
  simp_all

/-- A double is zero exactly when its mantissa is. -/
theorem Proper.mantissa_eq_zero_iff (proper : size.Proper) : size.mantissa = 0 ↔ size = zero := by
  constructor
  · intro none
    exact proper.eq_of_value_eq proper_zero (by rw [value, none, value_zero]; simp)
  · rintro rfl
    rfl

/-- Behind an even mantissa stands the next double with the same exponent. -/
theorem Proper.next (proper : size.Proper) (even : size.mantissa % 2 = 0) :
    Proper ⟨size.mantissa + 1, size.exponent⟩ where
  short := by
    have := proper.short
    simp only
    omega
  least := proper.least
  greatest := proper.greatest
  normal := fun short => proper.normal (Nat.lt_of_succ_lt short)

end Format

section Nearest

/-- A double nearest to a number, the one with the even mantissa if there are two. Past the middle
between the largest double and the next power of two there is none. -/
structure Nearest (number : ℚ) (size : Binary64) : Prop where
  proper : size.Proper
  within : number < 2 ^ 1024 - 2 ^ 970
  nearest : ∀ other : Binary64, other.Proper → |size.value - number| ≤ |other.value - number|
  even : ∀ other : Binary64, other.Proper → other ≠ size →
    |other.value - number| = |size.value - number| → size.mantissa % 2 = 0

variable {number : ℚ} {left right size : Binary64}

/-- Two doubles that lie equally far from a number on both sides are not both nearest to it. -/
theorem Nearest.not_lt (first : Nearest number left) (second : Nearest number right) :
    ¬ left.value < right.value := by
  intro less
  have apart : left ≠ right := by
    rintro rfl
    exact lt_irrefl _ less
  have same : |left.value - number| = |right.value - number| :=
    le_antisymm (first.nearest right second.proper) (second.nearest left first.proper)
  have middle : number = (left.value + right.value) / 2 := by
    rcases abs_eq_abs.mp same with equal | opposite
    · linarith
    · linarith
  have even := first.even right second.proper apart.symm same.symm
  have even' := second.even left first.proper apart same
  have proper := first.proper.next even
  have value_next : value ⟨left.mantissa + 1, left.exponent⟩ = left.value + 2 ^ left.exponent := by
    simp only [value]
    push_cast
    ring
  have pos := two_zpow_pos left.exponent
  -- The next double is not the other one, so it is nearer to the middle than both.
  have between : value ⟨left.mantissa + 1, left.exponent⟩ < right.value := by
    refine lt_of_le_of_ne ?_ ?_
    · rw [value_next]
      exact first.proper.add_le_value second.proper less
    · intro equal
      have odd := congrArg mantissa (proper.eq_of_value_eq second.proper equal)
      simp only at odd
      omega
  have nearer := first.nearest _ proper
  rw [abs_of_neg (by linarith : left.value - number < 0)] at nearer
  have strict : |value ⟨left.mantissa + 1, left.exponent⟩ - number| < -(left.value - number) := by
    rw [abs_lt]
    constructor <;> linarith
  linarith

/-- Only one double is nearest to a number. -/
theorem Nearest.unique (first : Nearest number left) (second : Nearest number right) :
    left = right :=
  first.proper.eq_of_value_eq second.proper
    (le_antisymm (le_of_not_gt (second.not_lt first)) (le_of_not_gt (first.not_lt second)))

/-- The double nearest to zero is zero. -/
theorem nearest_zero : Nearest 0 zero where
  proper := proper_zero
  within := sub_pos.mpr (pow_lt_pow_right₀ (by norm_num) (by norm_num))
  nearest := by simp
  even := fun other proper apart same => by
    rw [value_zero, sub_zero, sub_zero, abs_zero, abs_eq_zero] at same
    exact absurd (proper.eq_of_value_eq proper_zero (by simpa using same)) apart

end Nearest

section Decimal

/-- A double times or over a power of ten, rounded at every step: a power up to 308 is rounded
itself and one product or quotient is, and greater powers below one are 308 places at a time.
Only zero has all other powers. -/
inductive Raised : Binary64 → Int → Binary64 → Prop
  | times {start unit size : Binary64} {places : Nat} :
      places ≤ 308 → Nearest (10 ^ places) unit → Nearest (start.value * unit.value) size →
      Raised start places size
  | divided {start unit size : Binary64} {places : Nat} :
      0 < places → places ≤ 308 → Nearest (10 ^ places) unit →
      Nearest (start.value / unit.value) size → Raised start (-places) size
  | further {start unit smaller size : Binary64} {places : Nat} :
      start ≠ zero → 0 < places → Nearest (10 ^ 308) unit →
      Nearest (start.value / unit.value) smaller → Raised smaller (-places) size →
      Raised start (-(308 + places)) size
  | zero {exponent : Int} : 308 < exponent.natAbs → Raised zero exponent zero

end Decimal

end SarifDigest.Binary64
