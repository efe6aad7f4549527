import Mathlib.Tactic.FieldSimp
import Mathlib.Tactic.Positivity
import SarifDigest.Proofs.Binary64.Nearest

/-!
# Rounding to the nearest double

The quotient of two integers is rounded to the double nearest to it. Where its exponent is found
from the lengths of the integers, only the quotient to four matters, and the mantissa is then the
quotient at this exponent rounded to an integer. Products, quotients and decimals follow, as far
as these are rounded once at every step.
-/
namespace SarifDigest.Binary64

section Rounding

variable {numerator denominator : Nat}

/-- A quotient of integers is a whole number and a part of one. -/
theorem div_split (numerator : Nat) (positive : 0 < denominator) :
    (numerator : ℚ) / denominator = ((numerator / denominator : Nat) : ℚ) +
      ((numerator % denominator : Nat) : ℚ) / denominator := by
  have pos : (0 : ℚ) < denominator := by exact_mod_cast positive
  have whole : (numerator : ℚ) = denominator * (numerator / denominator : Nat) +
      (numerator % denominator : Nat) := by
    exact_mod_cast (Nat.div_add_mod numerator denominator).symm
  rw [div_eq_iff pos.ne', add_mul, div_mul_cancel₀ _ pos.ne', mul_comm, ← whole]

/-- A quotient is rounded by half at most, and by half to even numbers only. -/
theorem roundDiv_near (numerator : Nat) (positive : 0 < denominator) :
    |(roundDiv numerator denominator : ℚ) - numerator / denominator| ≤ 1 / 2 ∧
      (|(roundDiv numerator denominator : ℚ) - numerator / denominator| = 1 / 2 →
        roundDiv numerator denominator % 2 = 0) := by
  have pos : (0 : ℚ) < denominator := by exact_mod_cast positive
  have nonneg : (0 : ℚ) ≤ (numerator % denominator : Nat) / denominator := by positivity
  have small : ((numerator % denominator : Nat) : ℚ) / denominator < 1 := by
    rw [div_lt_one pos]
    exact_mod_cast Nat.mod_lt numerator positive
  have twice : 2 * (((numerator % denominator : Nat) : ℚ) / denominator) =
      (2 * (numerator % denominator) : Nat) / denominator := by
    push_cast
    ring
  rw [div_split numerator positive]
  rcases lt_trichotomy (2 * (numerator % denominator)) denominator with below | half | above
  · have less : ((2 * (numerator % denominator) : Nat) : ℚ) / denominator < 1 :=
      (div_lt_one pos).mpr (by exact_mod_cast below)
    have down : roundDiv numerator denominator = numerator / denominator := by
      simp [roundDiv, below]
    rw [down, sub_add_cancel_left, abs_neg, abs_of_nonneg nonneg]
    exact ⟨by linarith, fun equal => by linarith⟩
  · have equal : ((2 * (numerator % denominator) : Nat) : ℚ) / denominator = 1 :=
      (div_eq_one_iff_eq pos.ne').mpr (by exact_mod_cast half)
    have middle : ((numerator % denominator : Nat) : ℚ) / denominator = 1 / 2 := by linarith
    rw [middle]
    by_cases even : numerator / denominator % 2 = 0
    · have down : roundDiv numerator denominator = numerator / denominator := by
        simp [roundDiv, half, even]
      rw [down]
      exact ⟨by norm_num, fun _ => even⟩
    · have up : roundDiv numerator denominator = numerator / denominator + 1 := by
        simp [roundDiv, half, even]
      rw [up]
      refine ⟨?_, fun _ => by omega⟩
      push_cast
      rw [abs_le]
      constructor <;> linarith
  · have more : 1 < ((2 * (numerator % denominator) : Nat) : ℚ) / denominator :=
      (one_lt_div pos).mpr (by exact_mod_cast above)
    have up : roundDiv numerator denominator = numerator / denominator + 1 := by
      simp [roundDiv, above, Nat.not_lt.mpr above.le]
    rw [up]
    push_cast
    rw [add_sub_add_left_eq_sub, abs_of_pos (by linarith)]
    exact ⟨by linarith, fun equal => by linarith⟩

end Rounding

section Quotients

variable {numerator denominator : Nat}

/-- Powers of two are positive. -/
theorem twoTo_pos (power : Nat) : 0 < twoTo power :=
  Nat.pow_pos two_pos

/-- A power of two as the quotient of two that are integers. -/
theorem twoTo_div (exponent : Int) :
    ((twoTo exponent.toNat : Nat) : ℚ) / (twoTo (-exponent).toNat : Nat) = 2 ^ exponent := by
  simp only [twoTo, Nat.pow_eq, Nat.cast_pow, Nat.cast_ofNat]
  rw [← zpow_natCast, ← zpow_natCast, ← zpow_sub₀ two_ne_zero]
  congr 1
  omega

/-- The fraction that a quotient becomes is the quotient over the power of two. -/
theorem unscale_div (numerator denominator : Nat) (exponent : Int) :
    ((unscale numerator denominator exponent).1 : ℚ) / (unscale numerator denominator exponent).2 =
      numerator / denominator / 2 ^ exponent := by
  simp only [unscale, Nat.cast_mul]
  rw [mul_div_mul_comm, ← twoTo_div exponent, ← inv_div (twoTo exponent.toNat : ℚ),
    ← div_eq_mul_inv]

/-- The lengths of the integers tell the size of their quotient up to a factor of four. -/
theorem quotient_bounds (positive : 0 < numerator) (positive' : 0 < denominator) :
    (2 : ℚ) ^ 51 * 2 ^ ((numerator.log2 : Int) - denominator.log2 - 52) ≤
        numerator / denominator ∧
      (numerator : ℚ) / denominator <
        2 ^ 53 * 2 ^ ((numerator.log2 : Int) - denominator.log2 - 52) := by
  have pos : (0 : ℚ) < denominator := by exact_mod_cast positive'
  have lower : (2 : ℚ) ^ numerator.log2 ≤ numerator := by
    exact_mod_cast Nat.log2_self_le positive.ne'
  have upper : (numerator : ℚ) < 2 ^ (numerator.log2 + 1) := by
    exact_mod_cast Nat.lt_log2_self
  have lower' : (2 : ℚ) ^ denominator.log2 ≤ denominator := by
    exact_mod_cast Nat.log2_self_le positive'.ne'
  have upper' : (denominator : ℚ) < 2 ^ (denominator.log2 + 1) := by
    exact_mod_cast Nat.lt_log2_self
  have power : (2 : ℚ) ^ ((numerator.log2 : Int) - denominator.log2 - 52) =
      2 ^ numerator.log2 / 2 ^ denominator.log2 / 2 ^ 52 := by
    rw [zpow_sub₀ two_ne_zero, zpow_sub₀ two_ne_zero, zpow_natCast, zpow_natCast]
    rfl
  have unit : (0 : ℚ) < 2 ^ denominator.log2 := by positivity
  have size : (0 : ℚ) < 2 ^ numerator.log2 := by positivity
  rw [power, le_div_iff₀ pos, div_lt_iff₀ pos]
  constructor
  · calc 2 ^ 51 * (2 ^ numerator.log2 / 2 ^ denominator.log2 / 2 ^ 52) * (denominator : ℚ)
        = 2 ^ numerator.log2 * (denominator / 2 ^ (denominator.log2 + 1)) := by
          rw [pow_succ]
          ring
      _ ≤ 2 ^ numerator.log2 * 1 :=
          mul_le_mul_of_nonneg_left ((div_le_one (by positivity)).mpr upper'.le) size.le
      _ ≤ numerator := by rwa [mul_one]
  · calc (numerator : ℚ) < 2 ^ (numerator.log2 + 1) := upper
      _ = 2 ^ (numerator.log2 + 1) * 1 := (mul_one _).symm
      _ ≤ 2 ^ (numerator.log2 + 1) * (denominator / 2 ^ denominator.log2) :=
          mul_le_mul_of_nonneg_left ((one_le_div unit).mpr lower') (by positivity)
      _ = 2 ^ 53 * (2 ^ numerator.log2 / 2 ^ denominator.log2 / 2 ^ 52) * denominator := by
          rw [pow_succ]
          ring

/-- A rounded mantissa at its exponent, unless it is past the largest double. -/
def place (mantissa : Nat) (exponent : Int) : Option Binary64 :=
  let carried : Binary64 :=
    if mantissa = twoTo 53 then ⟨twoTo 52, exponent + 1⟩ else ⟨mantissa, exponent⟩
  if carried.exponent > 971 then none else some carried

/-- A quotient is rounded at the exponent that gives the mantissa all its bits, or at the least
one. -/
theorem ofRatio_eq_place (positive : 0 < numerator) (positive' : 0 < denominator) :
    ∃ exponent : Int, -1074 ≤ exponent ∧
      (-1074 < exponent → 2 ^ 52 * (2 : ℚ) ^ exponent ≤ numerator / denominator) ∧
      (numerator : ℚ) / denominator < 2 ^ 53 * 2 ^ exponent ∧
      ofRatio numerator denominator = place (roundDiv (unscale numerator denominator exponent).1
        (unscale numerator denominator exponent).2) exponent := by
  obtain ⟨lower, upper⟩ := quotient_bounds positive positive'
  have unfolded : ofRatio numerator denominator =
      let guess : Int := (numerator.log2 : Int) - denominator.log2 - 52
      let fraction := unscale numerator denominator guess
      let fitting := if fraction.1 / fraction.2 < twoTo 52 then guess - 1 else guess
      let exponent := max fitting (-1074)
      place (roundDiv (unscale numerator denominator exponent).1
        (unscale numerator denominator exponent).2) exponent :=
    if_neg positive.ne'
  rw [unfolded]
  generalize (numerator.log2 : Int) - denominator.log2 - 52 = guess at lower upper ⊢
  dsimp only
  generalize chosen : (if (unscale numerator denominator guess).1 /
    (unscale numerator denominator guess).2 < twoTo 52 then guess - 1 else guess) = fitting
  have fits : 2 ^ 52 * (2 : ℚ) ^ fitting ≤ numerator / denominator ∧
      (numerator : ℚ) / denominator < 2 ^ 53 * 2 ^ fitting := by
    have pos := two_zpow_pos guess
    have scaled : 0 < (unscale numerator denominator guess).2 :=
      Nat.mul_pos positive' (twoTo_pos _)
    have scaledPos : (0 : ℚ) < (unscale numerator denominator guess).2 := by
      exact_mod_cast scaled
    split at chosen
    · rename_i short
      have less : ((unscale numerator denominator guess).1 : ℚ) <
          2 ^ 52 * (unscale numerator denominator guess).2 := by
        exact_mod_cast (Nat.div_lt_iff_lt_mul scaled).mp short
      rw [← div_lt_iff₀ scaledPos, unscale_div, div_lt_iff₀ pos] at less
      have double := two_zpow_succ fitting
      rw [← chosen, sub_add_cancel, chosen] at double
      constructor <;> linarith
    · rename_i long
      have more : 2 ^ 52 * ((unscale numerator denominator guess).2 : ℚ) ≤
          (unscale numerator denominator guess).1 := by
        exact_mod_cast (Nat.le_div_iff_mul_le scaled).mp (Nat.le_of_not_lt long)
      rw [← le_div_iff₀ scaledPos, unscale_div, le_div_iff₀ pos] at more
      rw [← chosen]
      exact ⟨more, upper⟩
  refine ⟨max fitting (-1074), le_max_right _ _, ?_, ?_, rfl⟩
  · intro above
    rw [max_eq_left (by omega)]
    exact fits.1
  · have order : (2 : ℚ) ^ fitting ≤ 2 ^ max fitting (-1074) :=
      zpow_le_zpow_right₀ (by norm_num) (le_max_left _ _)
    linarith [fits.2]

/-- How a mantissa rounds a number at an exponent: the number has no more bits than a mantissa
there, and all of them unless the exponent is the least one; no other mantissa is nearer, and none
is as near unless this one is even. -/
structure RoundedAt (number : ℚ) (mantissa : Nat) (exponent : Int) : Prop where
  least : -1074 ≤ exponent
  full : -1074 < exponent → 2 ^ 52 * (2 : ℚ) ^ exponent ≤ number
  fits : number < 2 ^ 53 * 2 ^ exponent
  near : |(mantissa : ℚ) - number / 2 ^ exponent| ≤ 1 / 2
  tie : |(mantissa : ℚ) - number / 2 ^ exponent| = 1 / 2 → mantissa % 2 = 0

variable {number : ℚ} {mantissa : Nat} {exponent : Int} {size : Binary64}

/-- The distance of a mantissa at an exponent, in units of the exponent. -/
theorem abs_mul_zpow_sub (mantissa : Nat) (exponent : Int) (number : ℚ) :
    |(mantissa : ℚ) * 2 ^ exponent - number| =
      |(mantissa : ℚ) - number / 2 ^ exponent| * 2 ^ exponent := by
  have pos := two_zpow_pos exponent
  rw [← abs_of_pos pos, ← abs_mul, abs_of_pos pos, sub_mul, div_mul_cancel₀ _ pos.ne']

/-- Among the multiples of a power of two none is nearer than the rounded one, and another is as
near only if the mantissa is even. -/
theorem RoundedAt.grid (rounded : RoundedAt number mantissa exponent) (other : Nat) :
    |(mantissa : ℚ) * 2 ^ exponent - number| ≤ |(other : ℚ) * 2 ^ exponent - number| ∧
      (other ≠ mantissa →
        |(other : ℚ) * 2 ^ exponent - number| = |(mantissa : ℚ) * 2 ^ exponent - number| →
        mantissa % 2 = 0) := by
  have pos := two_zpow_pos exponent
  rw [abs_mul_zpow_sub, abs_mul_zpow_sub]
  by_cases same : other = mantissa
  · rw [same]
    exact ⟨le_rfl, fun apart => absurd rfl apart⟩
  · have whole : 1 ≤ |(other : Int) - mantissa| :=
      Int.one_le_abs (sub_ne_zero.mpr (by exact_mod_cast same))
    have whole : (1 : ℚ) ≤ |(other : ℚ) - mantissa| := by exact_mod_cast whole
    have triangle := abs_sub_le (other : ℚ) (number / 2 ^ exponent) mantissa
    rw [abs_sub_comm (number / 2 ^ exponent)] at triangle
    have near := rounded.near
    refine ⟨mul_le_mul_of_nonneg_right (by linarith) pos.le, fun _ equal => rounded.tie ?_⟩
    linarith [mul_right_cancel₀ pos.ne' equal]

/-- A double that is a rounded mantissa at its exponent is the nearest one, within the range of
doubles. The doubles that are no multiples of the power of two lie below all full mantissas. -/
theorem RoundedAt.nearest (rounded : RoundedAt number mantissa exponent) (proper : size.Proper)
    (same : size.value = mantissa * 2 ^ exponent)
    (even : mantissa % 2 = 0 → size.mantissa % 2 = 0) (within : number < 2 ^ 1024 - 2 ^ 970) :
    Nearest number size := by
  have below {other : Binary64} (proper' : other.Proper) (short : other.exponent < exponent) :
      |size.value - number| < |other.value - number| := by
    have full := rounded.full (lt_of_le_of_lt proper'.least short)
    have less := proper'.value_lt short
    have grid := (rounded.grid (2 ^ 52)).1
    rw [same]
    rw [Nat.cast_pow, Nat.cast_ofNat] at grid
    rw [abs_of_nonpos (by linarith : 2 ^ 52 * (2 : ℚ) ^ exponent - number ≤ 0)] at grid
    rw [abs_of_neg (by linarith : other.value - number < 0)]
    linarith
  refine ⟨proper, within, fun other proper' => ?_, fun other proper' apart equal => ?_⟩
  · by_cases short : other.exponent < exponent
    · exact (below proper' short).le
    · rw [same, value_eq_mul (not_lt.mp short)]
      exact (rounded.grid _).1
  · by_cases short : other.exponent < exponent
    · exact absurd equal (below proper' short).ne'
    · have multiple := value_eq_mul (not_lt.mp short)
      rw [same, multiple] at equal
      refine even ((rounded.grid _).2 (fun mantissas => apart ?_) equal)
      exact proper'.eq_of_value_eq proper (by rw [multiple, mantissas, same])

/-- A rounded mantissa has at most one bit too many, and then it is a power of two. -/
theorem RoundedAt.mantissa_le (rounded : RoundedAt number mantissa exponent) :
    mantissa ≤ 2 ^ 53 := by
  have pos := two_zpow_pos exponent
  have upper := (div_lt_iff₀ pos).mpr rounded.fits
  have near := (abs_le.mp rounded.near).2
  have less : (mantissa : ℚ) < (2 ^ 53 + 1 : Nat) := by
    push_cast
    linarith
  exact Nat.lt_succ_iff.mp (by exact_mod_cast less)

/-- A rounded mantissa has all its bits unless its exponent is the least one. -/
theorem RoundedAt.le_mantissa (rounded : RoundedAt number mantissa exponent)
    (above : -1074 < exponent) : 2 ^ 52 ≤ mantissa := by
  have pos := two_zpow_pos exponent
  have lower := (le_div_iff₀ pos).mpr (rounded.full above)
  have near := (abs_le.mp rounded.near).1
  have more : ((2 ^ 52 : Nat) : ℚ) < (mantissa + 1 : Nat) := by
    push_cast
    linarith
  exact Nat.lt_succ_iff.mp (by exact_mod_cast more)

/-- The middle between the largest double and the next power of two. -/
theorem limit_eq : (2 : ℚ) ^ 1024 - 2 ^ 970 = (2 ^ 53 - 1 / 2) * 2 ^ (971 : Int) := by
  have power : (2 : ℚ) ^ (971 : Int) = 2 ^ 971 := zpow_natCast 2 971
  have whole : (2 : ℚ) ^ 1024 = 2 ^ 53 * 2 ^ 971 := (pow_add 2 53 971)
  have half : (2 : ℚ) ^ 971 = 2 ^ 970 * 2 := pow_succ 2 970
  rw [power, whole, half]
  generalize (2 : ℚ) ^ 970 = unit
  ring

/-- A number that rounds to a mantissa of the format is below this middle exactly when the
exponent is not past the greatest one. -/
theorem RoundedAt.within_iff (rounded : RoundedAt number mantissa exponent)
    (short : mantissa < 2 ^ 53) : number < 2 ^ 1024 - 2 ^ 970 ↔ exponent ≤ 971 := by
  have pos := two_zpow_pos exponent
  rw [limit_eq]
  generalize top : (971 : Int) = greatest
  have posGreatest := two_zpow_pos greatest
  constructor
  · intro within
    by_contra past
    have full := rounded.full (by omega)
    have step : (2 : ℚ) ^ (greatest + 1) ≤ 2 ^ exponent :=
      zpow_le_zpow_right₀ (by norm_num) (by omega)
    rw [two_zpow_succ] at step
    linarith
  · intro range
    have step : (2 : ℚ) ^ exponent ≤ 2 ^ greatest := zpow_le_zpow_right₀ (by norm_num) range
    have below : number / 2 ^ exponent < 2 ^ 53 - 1 / 2 := by
      have near := abs_le.mp rounded.near
      by_cases last : mantissa = 2 ^ 53 - 1
      · have odd : |(mantissa : ℚ) - number / 2 ^ exponent| ≠ 1 / 2 := fun equal => by
          have := rounded.tie equal
          omega
        have strict := (abs_lt.mp (lt_of_le_of_ne rounded.near odd)).1
        have cast : (mantissa : ℚ) + 1 = 2 ^ 53 := by
          exact_mod_cast (by omega : mantissa + 1 = 2 ^ 53)
        linarith
      · have less : ((mantissa + 1 : Nat) : ℚ) ≤ (2 ^ 53 - 1 : Nat) := by
          exact_mod_cast (by omega : mantissa + 1 ≤ 2 ^ 53 - 1)
        norm_num at less
        linarith
    calc number < (2 ^ 53 - 1 / 2) * 2 ^ exponent := (div_lt_iff₀ pos).mp below
      _ ≤ (2 ^ 53 - 1 / 2) * 2 ^ greatest :=
        mul_le_mul_of_nonneg_left step (by norm_num)

/-- For a number that rounds to the next power of two the exponent must not be the greatest one
either. -/
theorem RoundedAt.carried_within_iff (rounded : RoundedAt number mantissa exponent)
    (carry : mantissa = 2 ^ 53) : number < 2 ^ 1024 - 2 ^ 970 ↔ exponent + 1 ≤ 971 := by
  have pos := two_zpow_pos exponent
  rw [limit_eq]
  generalize top : (971 : Int) = greatest
  have posGreatest := two_zpow_pos greatest
  constructor
  · intro within
    by_contra past
    have near := (abs_le.mp rounded.near).2
    rw [carry, Nat.cast_pow, Nat.cast_ofNat] at near
    have more : (2 ^ 53 - 1 / 2) * 2 ^ exponent ≤ number := (le_div_iff₀ pos).mp (by linarith)
    have step : (2 : ℚ) ^ greatest ≤ 2 ^ exponent :=
      zpow_le_zpow_right₀ (by norm_num) (by omega)
    linarith
  · intro range
    have step : (2 : ℚ) ^ (exponent + 1) ≤ 2 ^ greatest :=
      zpow_le_zpow_right₀ (by norm_num) range
    rw [two_zpow_succ] at step
    linarith [rounded.fits]

/-- A number rounds to a double exactly when it is below the middle between the largest double
and the next power of two, and then to the nearest one. -/
theorem RoundedAt.place_eq (rounded : RoundedAt number mantissa exponent) :
    (number < 2 ^ 1024 - 2 ^ 970 →
        ∃ size, place mantissa exponent = some size ∧ Nearest number size) ∧
      (2 ^ 1024 - 2 ^ 970 ≤ number → place mantissa exponent = none) := by
  have least := rounded.least
  have twoTo_eq (power : Nat) : twoTo power = 2 ^ power := rfl
  by_cases carry : mantissa = 2 ^ 53
  · have range := rounded.carried_within_iff carry
    simp only [place, twoTo_eq, if_pos carry]
    constructor
    · intro within
      refine ⟨⟨2 ^ 52, exponent + 1⟩, if_neg (not_lt.mpr (range.mp within)), ?_⟩
      refine rounded.nearest ⟨by norm_num, by simp only; omega, range.mp within, by simp⟩ ?_
        (fun _ => by norm_num) within
      rw [value, two_zpow_succ, carry, Nat.cast_pow, Nat.cast_pow, Nat.cast_ofNat]
      ring
    · intro past
      exact if_pos (not_le.mp (fun within => not_lt.mpr past (range.mpr within)))
  · have short : mantissa < 2 ^ 53 := lt_of_le_of_ne rounded.mantissa_le carry
    have range := rounded.within_iff short
    simp only [place, twoTo_eq, if_neg carry]
    constructor
    · intro within
      refine ⟨⟨mantissa, exponent⟩, if_neg (not_lt.mpr (range.mp within)), ?_⟩
      refine rounded.nearest ⟨short, least, range.mp within, fun few => ?_⟩ rfl id within
      by_contra apart
      have long := rounded.le_mantissa (by simp only at apart; omega)
      exact not_lt.mpr long few
    · intro past
      exact if_pos (not_le.mp (fun within => not_lt.mpr past (range.mpr within)))

/-- A quotient of two integers rounds to a double exactly when it is below the middle between the
largest double and the next power of two, and then to the nearest one. -/
theorem ofRatio_eq (positive : 0 < denominator) :
    ((numerator : ℚ) / denominator < 2 ^ 1024 - 2 ^ 970 →
        ∃ size, ofRatio numerator denominator = some size ∧
          Nearest (numerator / denominator) size) ∧
      (2 ^ 1024 - 2 ^ 970 ≤ (numerator : ℚ) / denominator →
        ofRatio numerator denominator = none) := by
  by_cases zero : numerator = 0
  · subst zero
    rw [Nat.cast_zero, zero_div]
    exact ⟨fun _ => ⟨Binary64.zero, rfl, nearest_zero⟩,
      fun past => absurd nearest_zero.within (not_lt.mpr past)⟩
  · obtain ⟨exponent, least, full, fits, placed⟩ :=
      ofRatio_eq_place (Nat.pos_of_ne_zero zero) positive
    have scaled : 0 < (unscale numerator denominator exponent).2 :=
      Nat.mul_pos positive (twoTo_pos _)
    obtain ⟨near, tie⟩ := roundDiv_near (unscale numerator denominator exponent).1 scaled
    rw [unscale_div] at near tie
    rw [placed]
    exact RoundedAt.place_eq ⟨least, full, fits, near, tie⟩

/-- The quotient of two integers is rounded to the double nearest to it, if there is one. -/
theorem ofRatio_eq_some_iff (positive : 0 < denominator) :
    ofRatio numerator denominator = some size ↔ Nearest (numerator / denominator) size := by
  obtain ⟨below, above⟩ := @ofRatio_eq numerator _ positive
  constructor
  · intro found
    by_cases within : (numerator : ℚ) / denominator < 2 ^ 1024 - 2 ^ 970
    · obtain ⟨other, found', nearest⟩ := below within
      rw [found', Option.some.injEq] at found
      rw [← found]
      exact nearest
    · rw [above (not_lt.mp within)] at found
      cases found
  · intro nearest
    obtain ⟨other, found, nearest'⟩ := below nearest.within
    rw [found, nearest.unique nearest']

end Quotients

section Operations

variable {left right size : Binary64}

/-- A product is rounded to the nearest double. -/
theorem mul_eq_some_iff : left.mul right = some size ↔ Nearest (left.value * right.value) size := by
  have product : ((left.mantissa * right.mantissa * twoTo (left.exponent + right.exponent).toNat :
      Nat) : ℚ) / (twoTo (-(left.exponent + right.exponent)).toNat : Nat) =
        left.value * right.value := by
    rw [Nat.cast_mul, mul_div_assoc, twoTo_div, zpow_add₀ two_ne_zero, Nat.cast_mul, value, value]
    ring
  rw [mul, ofScaled, ofRatio_eq_some_iff (twoTo_pos _), product]

/-- A quotient of doubles is rounded to the nearest double. -/
theorem div_eq_some_iff (positive : 0 < right.mantissa) :
    left.div right = some size ↔ Nearest (left.value / right.value) size := by
  have quotient : ((left.mantissa * twoTo (left.exponent - right.exponent).toNat : Nat) : ℚ) /
      (right.mantissa * twoTo (-(left.exponent - right.exponent)).toNat : Nat) =
        left.value / right.value := by
    rw [Nat.cast_mul, Nat.cast_mul, mul_div_mul_comm, twoTo_div, zpow_sub₀ two_ne_zero, value,
      value, mul_div_mul_comm]
  rw [div, ofRatio_eq_some_iff (Nat.mul_pos positive (twoTo_pos _)), quotient]

/-- A power of ten is rounded to the nearest double. -/
theorem powerOfTen_eq_some_iff {places : Nat} :
    powerOfTen places = some size ↔ Nearest (10 ^ places) size := by
  have whole : ((tenTo places : Nat) : ℚ) / (1 : Nat) = 10 ^ places := by
    rw [Nat.cast_one, div_one, tenTo, Nat.pow_eq, Nat.cast_pow, Nat.cast_ofNat]
  rw [powerOfTen, ofRatio_eq_some_iff one_pos, whole]

/-- The double nearest to a number from one on is positive. -/
theorem Nearest.mantissa_pos {number : ℚ} (nearest : Nearest number size) (above : 1 ≤ number) :
    0 < size.mantissa := by
  by_contra none
  have zero : size.value = 0 := by
    rw [value, Nat.eq_zero_of_not_pos none, Nat.cast_zero, zero_mul]
  have one : value ⟨2 ^ 52, -52⟩ = 1 := by norm_num [value]
  have nearer := nearest.nearest ⟨2 ^ 52, -52⟩ ⟨by norm_num, by norm_num, by norm_num, by norm_num⟩
  rw [zero, one, zero_sub, abs_neg, abs_of_pos (by linarith), abs_of_nonpos (by linarith)] at nearer
  linarith

end Operations

section Decimals

variable {start unit size : Binary64} {places steps : Nat}

/-- The double nearest to a power of ten is positive. -/
theorem Nearest.power_pos (nearest : Nearest (10 ^ places) unit) : 0 < unit.mantissa :=
  nearest.mantissa_pos (one_le_pow₀ (by norm_num))

/-- The powers of ten up to 308 places have a nearest double. -/
theorem exists_powerOfTen (small : places ≤ 308) : ∃ unit, powerOfTen places = some unit := by
  have last : (10 : ℚ) ^ 308 + 2 ^ 970 < 2 ^ 1024 := by
    exact_mod_cast (by decide +kernel : 10 ^ 308 + 2 ^ 970 < 2 ^ 1024)
  have order : (10 : ℚ) ^ places ≤ 10 ^ 308 := pow_le_pow_right₀ (by norm_num) small
  have whole : ((tenTo places : Nat) : ℚ) / (1 : Nat) = 10 ^ places := by
    rw [Nat.cast_one, div_one, tenTo, Nat.pow_eq, Nat.cast_pow, Nat.cast_ofNat]
  have within : (10 : ℚ) ^ places < 2 ^ 1024 - 2 ^ 970 :=
    lt_of_le_of_lt order (lt_sub_iff_add_lt.mpr last)
  obtain ⟨unit, found, -⟩ := (ofRatio_eq one_pos).1 (whole.trans_lt within)
  exact ⟨unit, found⟩

/-- What is raised to a power of ten from one on: one product is rounded, up to a power of 308. -/
theorem raised_natCast_iff :
    Raised start places size ↔
      (places ≤ 308 ∧ ∃ unit, powerOfTen places = some unit ∧ start.mul unit = some size) ∨
        308 < places ∧ start = zero ∧ size = zero := by
  constructor
  · generalize same : (places : Int) = exponent
    intro raised
    cases raised with
    | @times _ unit _ count small power product =>
      obtain rfl : places = count := by omega
      exact .inl ⟨small, unit, powerOfTen_eq_some_iff.mpr power, mul_eq_some_iff.mpr product⟩
    | divided positive => omega
    | further => omega
    | zero large => exact .inr ⟨by omega, rfl, rfl⟩
  · rintro (⟨small, unit, power, product⟩ | ⟨large, rfl, rfl⟩)
    · exact .times small (powerOfTen_eq_some_iff.mp power) (mul_eq_some_iff.mp product)
    · exact .zero (by omega)

/-- What is raised to a power of ten below one, up to 308 places: one quotient is rounded. -/
theorem raised_neg_iff (positive : 0 < places) (small : places ≤ 308) :
    Raised start (-places) size ↔
      ∃ unit, powerOfTen places = some unit ∧ start.div unit = some size := by
  constructor
  · generalize same : -(places : Int) = exponent
    intro raised
    cases raised with
    | times => omega
    | @divided _ unit _ count positive' small' power quotient =>
      obtain rfl : places = count := by omega
      exact ⟨unit, powerOfTen_eq_some_iff.mpr power,
        (div_eq_some_iff power.power_pos).mpr quotient⟩
    | further => omega
    | zero large => omega
  · rintro ⟨unit, power, quotient⟩
    have power := powerOfTen_eq_some_iff.mp power
    exact .divided positive small power ((div_eq_some_iff power.power_pos).mp quotient)

/-- Beyond 308 places zero stays zero, and of another double 308 places are taken first. -/
theorem raised_further_iff (positive : 0 < places) :
    Raised start (-(308 + places)) size ↔
      (start = zero ∧ size = zero) ∨ start ≠ zero ∧
        ∃ unit smaller, powerOfTen 308 = some unit ∧ start.div unit = some smaller ∧
          Raised smaller (-places) size := by
  constructor
  · generalize same : -(308 + (places : Int)) = exponent
    intro raised
    cases raised with
    | times => omega
    | divided => omega
    | @further _ unit smaller _ count solid _ power quotient raised =>
      obtain rfl : places = count := by omega
      exact .inr ⟨solid, unit, smaller, powerOfTen_eq_some_iff.mpr power,
        (div_eq_some_iff power.power_pos).mpr quotient, raised⟩
    | zero large => exact .inl ⟨rfl, rfl⟩
  · rintro (⟨rfl, rfl⟩ | ⟨solid, unit, smaller, power, quotient, raised⟩)
    · exact .zero (by omega)
    · have power := powerOfTen_eq_some_iff.mp power
      exact .further solid positive power ((div_eq_some_iff power.power_pos).mp quotient) raised

/-- Of a double that is divided by 308 places as often as given and by the rest of the places at
last, each quotient is rounded. -/
theorem shrink_eq_some_iff (proper : start.Proper) (positive : 0 < places) (small : places ≤ 308) :
    ((shrink steps start).bind fun smaller =>
        if smaller.mantissa = 0 then some zero
        else (powerOfTen places).bind smaller.div) = some size ↔
      Raised start (-(308 * steps + places : Nat)) size := by
  induction steps generalizing start with
  | zero =>
    rw [Nat.mul_zero, Nat.zero_add, raised_neg_iff positive small]
    obtain ⟨unit, power⟩ := exists_powerOfTen small
    have pos := (powerOfTen_eq_some_iff.mp power).power_pos
    simp only [shrink, Option.bind_some, power, proper.mantissa_eq_zero_iff, Option.some.injEq,
      exists_eq_left']
    split
    · rename_i same
      rw [same, div_eq_some_iff pos, value_zero, zero_div, Option.some.injEq]
      exact ⟨fun zero => zero ▸ nearest_zero, nearest_zero.unique⟩
    · rfl
  | succ steps ih =>
    have places_eq : (-(308 * (steps + 1) + places : Nat) : Int) =
        -(308 + (308 * steps + places : Nat)) := by
      push_cast
      ring
    rw [places_eq, raised_further_iff (by omega)]
    obtain ⟨unit, power⟩ := exists_powerOfTen (le_refl 308)
    have pos := (powerOfTen_eq_some_iff.mp power).power_pos
    simp only [shrink, proper.mantissa_eq_zero_iff]
    by_cases same : start = zero
    · simp [same, zero, eq_comm]
    · simp only [same, if_false, false_and, false_or, ne_eq, not_false_eq_true, true_and, power,
        Option.some.injEq]
      cases quotient : start.div unit with
      | none => simp [quotient]
      | some smaller =>
        have nearest := (div_eq_some_iff pos).mp quotient
        simpa [quotient] using ih nearest.proper

/-- A decimal is rounded to a double: the significand and the power of ten are, and every product
and quotient on the way. -/
theorem ofDecimal_eq_some_iff {significand : Nat} {exponent : Int} :
    ofDecimal significand exponent = some size ↔
      ∃ start, Nearest significand start ∧ Raised start exponent size := by
  have start_iff {start : Binary64} :
      ofRatio significand 1 = some start ↔ Nearest significand start := by
    rw [ofRatio_eq_some_iff one_pos, Nat.cast_one, div_one]
  simp only [← start_iff]
  cases found : ofRatio significand 1 with
  | none => simp [ofDecimal, found]
  | some start =>
    have nearest := start_iff.mp found
    have zero_iff : significand = 0 ↔ start = zero := by
      constructor
      · rintro rfl
        exact Nearest.unique (by simpa using nearest) nearest_zero
      · rintro rfl
        by_contra some
        exact absurd (nearest.mantissa_pos (by exact_mod_cast Nat.pos_of_ne_zero some))
          (Nat.lt_irrefl 0)
    simp only [Option.some.injEq, exists_eq_left']
    simp only [ofDecimal, found, bind, Option.bind_some, zero_iff]
    by_cases whole : 0 ≤ exponent
    · obtain ⟨places, rfl⟩ := Int.eq_ofNat_of_zero_le whole
      rw [raised_natCast_iff]
      by_cases large : 308 < places
      · simp [large, not_le.mpr large, eq_comm]
      · simp [large, not_lt.mp large, Option.bind_eq_some_iff]
    · rw [if_neg (by omega : ¬ exponent > 308), if_neg whole]
      generalize whole_steps : ((-exponent).toNat - 1) / 308 = steps
      generalize rest : (-exponent).toNat - 308 * steps = last
      have split : (-(308 * steps + last : Nat) : Int) = exponent := by omega
      rw [← split]
      exact shrink_eq_some_iff nearest.proper (by omega) (by omega)

/-- A number less than half of the least positive double is nearest to zero. -/
theorem nearest_zero_of_lt {number : ℚ} (nonneg : 0 ≤ number)
    (small : number < 2 ^ (-1075 : Int)) : Nearest number zero := by
  have least {other : Binary64} (proper : other.Proper) (apart : other ≠ zero) :
      |zero.value - number| < |other.value - number| := by
    have positive : 1 ≤ other.mantissa := by
      by_contra none
      exact apart (proper.mantissa_eq_zero_iff.mp (by omega))
    have positive : (1 : ℚ) ≤ other.mantissa := by exact_mod_cast positive
    have above : (2 : ℚ) ^ (-1075 + 1 : Int) ≤ other.value :=
      calc (2 : ℚ) ^ (-1075 + 1 : Int) ≤ 2 ^ other.exponent :=
            zpow_le_zpow_right₀ (by norm_num) proper.least
        _ = 1 * 2 ^ other.exponent := (one_mul _).symm
        _ ≤ other.value := mul_le_mul_of_nonneg_right positive (two_zpow_pos _).le
    rw [two_zpow_succ] at above
    rw [value_zero, zero_sub, abs_neg, abs_of_nonneg nonneg, abs_of_pos (by linarith)]
    linarith
  refine ⟨proper_zero, ?_, fun other proper => ?_, fun other proper apart same => ?_⟩
  · obtain ⟨unit, power⟩ := exists_powerOfTen (Nat.zero_le 308)
    have within := (powerOfTen_eq_some_iff.mp power).within
    rw [pow_zero] at within
    have order : (2 : ℚ) ^ (-1075 : Int) ≤ 1 := zpow_le_one_of_nonpos₀ (by norm_num) (by norm_num)
    exact lt_trans (lt_of_lt_of_le small order) within
  · by_cases same : other = zero
    · rw [same]
    · exact (least proper same).le
  · exact absurd same (least proper apart).ne'

/-- Powers of ten are positive. -/
theorem tenTo_pos (power : Nat) : 0 < tenTo power :=
  Nat.pow_pos (by decide)

/-- A power of ten as the quotient of two that are integers. -/
theorem tenTo_div (exponent : Int) :
    ((tenTo exponent.toNat : Nat) : ℚ) / (tenTo (-exponent).toNat : Nat) = 10 ^ exponent := by
  simp only [tenTo, Nat.pow_eq, Nat.cast_pow, Nat.cast_ofNat]
  rw [← zpow_natCast, ← zpow_natCast, ← zpow_sub₀ (by norm_num)]
  congr 1
  omega

/-- A decimal is rounded to the double nearest to it when it is rounded only once. -/
theorem nearestDecimal_eq_some_iff {significand : Nat} {exponent : Int} :
    nearestDecimal significand exponent = some size ↔
      Nearest (significand * 10 ^ exponent) size := by
  have zero_iff {number : ℚ} (nearest : Nearest number zero) :
      some zero = some size ↔ Nearest number size := by
    rw [Option.some.injEq]
    exact ⟨fun same => same ▸ nearest, nearest.unique⟩
  unfold nearestDecimal
  split
  · rename_i none
    rw [none, Nat.cast_zero, zero_mul]
    exact zero_iff nearest_zero
  rename_i some
  have pos : (1 : ℚ) ≤ significand := by exact_mod_cast Nat.pos_of_ne_zero some
  split
  · rename_i large
    refine ⟨fun absent => by simp at absent, fun nearest => absurd nearest.within (not_lt.mpr ?_)⟩
    have past : (2 : ℚ) ^ 1024 ≤ 10 ^ 309 + 2 ^ 970 := by
      exact_mod_cast (by decide +kernel : 2 ^ 1024 ≤ 10 ^ 309 + 2 ^ 970)
    calc (2 : ℚ) ^ 1024 - 2 ^ 970 ≤ 10 ^ 309 := sub_le_iff_le_add.mpr past
      _ = 10 ^ (309 : Int) := (zpow_natCast 10 309).symm
      _ ≤ 10 ^ exponent := zpow_le_zpow_right₀ (by norm_num) (by omega)
      _ = 1 * 10 ^ exponent := (one_mul _).symm
      _ ≤ significand * 10 ^ exponent :=
        mul_le_mul_of_nonneg_right pos (zpow_pos (by norm_num) _).le
  split
  · rename_i small
    refine zero_iff (nearest_zero_of_lt (by positivity) ?_)
    have length : (significand : ℚ) < 2 ^ (significand.log2 + 1) := by
      exact_mod_cast Nat.lt_log2_self
    obtain ⟨places, rfl⟩ : ∃ places : Nat, exponent = -places := ⟨(-exponent).toNat, by omega⟩
    have power : ((10 : ℚ) ^ places)⁻¹ ≤ (2 ^ places)⁻¹ :=
      inv_anti₀ (by positivity) (pow_le_pow_left₀ (by norm_num) (by norm_num) places)
    calc (significand : ℚ) * 10 ^ (-places : Int) = significand * (10 ^ places)⁻¹ := by
          rw [zpow_neg, zpow_natCast]
      _ ≤ significand * (2 ^ places)⁻¹ := mul_le_mul_of_nonneg_left power (by positivity)
      _ < 2 ^ (significand.log2 + 1) * (2 ^ places)⁻¹ :=
        mul_lt_mul_of_pos_right length (by positivity)
      _ = 2 ^ ((significand.log2 + 1 : Nat) - places : Int) := by
        rw [zpow_sub₀ two_ne_zero, zpow_natCast, zpow_natCast, div_eq_mul_inv]
      _ ≤ 2 ^ (-1075 : Int) := zpow_le_zpow_right₀ (by norm_num) (by omega)
  · rw [ofRatio_eq_some_iff (tenTo_pos _), Nat.cast_mul, mul_div_assoc, tenTo_div]

/-- A decimal has a nearest double exactly when it is below the middle between the largest double
and the next power of two. -/
theorem isSome_nearestDecimal_iff {significand : Nat} {exponent : Int} :
    (nearestDecimal significand exponent).isSome = true ↔
      (significand : ℚ) * 10 ^ exponent < 2 ^ 1024 - 2 ^ 970 := by
  rw [Option.isSome_iff_exists]
  constructor
  · rintro ⟨size, found⟩
    exact (nearestDecimal_eq_some_iff.mp found).within
  · intro within
    have quotient : ((significand * tenTo exponent.toNat : Nat) : ℚ) /
        (tenTo (-exponent).toNat : Nat) = significand * 10 ^ exponent := by
      rw [Nat.cast_mul, mul_div_assoc, tenTo_div]
    obtain ⟨size, _, nearest⟩ := (ofRatio_eq (tenTo_pos _)).1 (quotient.trans_lt within)
    rw [quotient] at nearest
    exact ⟨size, nearestDecimal_eq_some_iff.mpr nearest⟩

end Decimals

end SarifDigest.Binary64
