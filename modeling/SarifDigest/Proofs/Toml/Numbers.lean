import SarifDigest.Proofs.Binary64.Rounding
import SarifDigest.Toml.Scalar

/-!
# The range of numbers

Which numbers with a fraction or an exponent are doubles: those that are rounded to one when they
are rounded once. The largest double may be exceeded by less than half of its last place, and how
the number is spelled makes no difference.
-/
namespace SarifDigest.Toml

/-- A significand with decimal places and an exponent makes up a double exactly when the number is
below the middle between the largest double and the next power of two. -/
theorem isFinite_iff (significand places : Nat) (negative : Bool) (exponent : List Char) :
    isFinite significand places negative exponent = true ↔
      (significand : ℚ) * 10 ^ ((if negative then -(runValue 10 exponent : Int)
        else runValue 10 exponent) - places) < 2 ^ 1024 - 2 ^ 970 :=
  Binary64.isSome_nearestDecimal_iff

/-- A number that is past the largest double, but nearer to it than to the next power of two. -/
example : isReal "1.7976931348623158e308".toList = true := by decide +kernel

end SarifDigest.Toml
