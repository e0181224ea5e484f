import Mathlib.Algebra.Order.Round
import Mathlib.Data.Rat.Floor
import Mathlib.Tactic.FieldSimp
import Mathlib.Tactic.Positivity
import MailProvision.Numeral.Binary64

/-!
# Rounding doubles to whole numbers

The whole number nearest to a double, as the rounding of the rational number that the double stands
for.
-/

namespace MailProvision

namespace Binary64

/-- The magnitude of a finite number. -/
def magnitudeRat (significand : Nat) (exponent : Int) : ℚ :=
  significand * 2 ^ exponent

/-- The value of a finite number. -/
def valueRat (negative : Bool) (significand : Nat) (exponent : Int) : ℚ :=
  if negative then -magnitudeRat significand exponent else magnitudeRat significand exponent

/-- The integer that a finite number is rounded to, a half away from zero. -/
def nearest (negative : Bool) (significand : Nat) (exponent : Int) : Int :=
  if negative then -round (magnitudeRat significand exponent)
  else round (magnitudeRat significand exponent)

theorem magnitude_eq (significand : Nat) (exponent : Int) :
    ((magnitude significand exponent).1 : ℚ) / (magnitude significand exponent).2 =
      magnitudeRat significand exponent := by
  unfold magnitude magnitudeRat
  split
  · rename_i whole
    rw [← Int.toNat_of_nonneg whole, zpow_natCast, Int.toNat_natCast]
    simp
  · have opposite : exponent = -((-exponent).toNat : Int) := by omega
    conv_rhs => rw [opposite, zpow_neg, zpow_natCast]
    simp [div_eq_mul_inv]

theorem magnitude_pos (significand : Nat) (exponent : Int) :
    0 < (magnitude significand exponent).2 := by
  unfold magnitude
  split
  · exact Nat.one_pos
  · exact Nat.pow_pos (by decide)

/-- Half the denominator more, and the integer part is the nearest integer. -/
theorem round_div (num den : Nat) (positive : 0 < den) :
    round ((num : ℚ) / den) = ((2 * num + den) / (2 * den) : Nat) := by
  have half : (num : ℚ) / den + 1 / 2 = ((2 * num + den : Nat) : ℚ) / (2 * den : Nat) := by
    have nonzero : (den : ℚ) ≠ 0 := by positivity
    push_cast
    field_simp
  rw [round_eq, half, Rat.floor_natCast_div_natCast, Int.natCast_ediv]

theorem roundHalfAway_finite (negative : Bool) (significand : Nat) (exponent : Int) :
    (finite negative significand exponent).roundHalfAway =
      some (nearest negative significand exponent) := by
  rw [roundHalfAway, nearest, ← magnitude_eq, round_div _ _ (magnitude_pos significand exponent)]

theorem nearest_of_whole {negative : Bool} {significand : Nat} {exponent i : Int}
    (whole : valueRat negative significand exponent = i) :
    nearest negative significand exponent = i := by
  cases negative with
  | false =>
      rw [valueRat, if_neg (by decide)] at whole
      rw [nearest, if_neg (by decide), whole, round_intCast]
  | true =>
      rw [valueRat, if_pos rfl, neg_eq_iff_eq_neg, ← Int.cast_neg] at whole
      rw [nearest, if_pos rfl, whole, round_intCast, neg_neg]

end Binary64

end MailProvision
