import Mathlib.Algebra.Order.Field.Basic
import Mathlib.Algebra.Order.Field.Rat
import Mathlib.Data.Rat.Cast.Order
import PoolRouting.Hop
import PoolRouting.Slippage

/-!
The number that a decimal stands for. Comparison sees nothing else of a decimal, a fee is taken
exactly if its number lies in `[0, 1)`, and so is a tolerance, provided that it carries no minus
sign. A zero carries one where a number below zero was rounded.
-/

namespace PoolRouting

theorem signed_of_nonnegative {value : Decimal} (nonnegative : 0 ≤ value.signed) :
    value.signed = value.mantissa := by
  unfold Decimal.signed at nonnegative ⊢
  split at nonnegative
  · next negative =>
    rw [if_pos negative]
    omega
  · next positive => rw [if_neg positive]

theorem fee_ratio_iff (fee : Decimal) (ratio : FeeRatio) :
    FeeRatio.ofDecimal? fee = some ratio ↔
      0 ≤ fee.signed ∧ fee.mantissa < placeValue fee.scale ∧
        ratio = ⟨placeValue fee.scale - fee.mantissa, placeValue fee.scale⟩ := by
  unfold FeeRatio.ofDecimal? Decimal.fraction?
  by_cases negative : fee.signed < 0
  · simp [negative]
  · by_cases whole : placeValue fee.scale ≤ fee.mantissa
    · simp [negative, whole, Nat.not_lt_of_le whole]
    · simp [negative, whole, Int.not_lt.mp negative, Nat.lt_of_not_le whole, eq_comm]

namespace Decimal

/-- The number `± mantissa / 10 ^ scale`. -/
def value (decimal : Decimal) : ℚ := decimal.signed / placeValue decimal.scale

theorem place_value_cast_pos (places : Nat) : (0 : ℚ) < placeValue places :=
  Nat.cast_pos.mpr (place_value_pos places)

theorem place_value_cast_ne_zero (places : Nat) : (placeValue places : ℚ) ≠ 0 :=
  ne_of_gt (place_value_cast_pos places)

theorem value_nonneg_iff (decimal : Decimal) : 0 ≤ decimal.value ↔ 0 ≤ decimal.signed := by
  rw [value, le_div_iff₀ (place_value_cast_pos _), zero_mul, Int.cast_nonneg_iff]

theorem order_lt_iff (left right : Decimal) :
    order left right = .lt ↔ left.value < right.value := by
  rw [order, Std.compare_eq_lt, value, value,
    div_lt_div_iff₀ (place_value_cast_pos _) (place_value_cast_pos _)]
  exact_mod_cast Iff.rfl

theorem order_gt_iff (left right : Decimal) :
    (order left right).isGT = true ↔ right.value < left.value := by
  rw [Ordering.isGT_iff_eq_gt, order, Std.compare_eq_gt, value, value,
    div_lt_div_iff₀ (place_value_cast_pos _) (place_value_cast_pos _)]
  exact_mod_cast Iff.rfl

theorem value_one : one.value = 1 := by
  have signed : one.signed = 1 := rfl
  have places : placeValue one.scale = 1 := rfl
  rw [value, signed, places, Int.cast_one, Nat.cast_one, div_one]

theorem value_lt_one_iff (decimal : Decimal) :
    decimal.value < 1 ↔ decimal.signed < placeValue decimal.scale := by
  rw [value, div_lt_one (place_value_cast_pos _)]
  exact_mod_cast Iff.rfl

theorem value_of_nonnegative {decimal : Decimal} (nonnegative : 0 ≤ decimal.signed) :
    decimal.value = decimal.mantissa / placeValue decimal.scale := by
  rw [value, signed_of_nonnegative nonnegative, Int.cast_natCast]

end Decimal

theorem fee_taken_iff (fee : Decimal) :
    (FeeRatio.ofDecimal? fee).isSome = true ↔ 0 ≤ fee.value ∧ fee.value < 1 := by
  rw [Option.isSome_iff_exists, Decimal.value_nonneg_iff, Decimal.value_lt_one_iff]
  simp only [fee_ratio_iff]
  constructor
  · rintro ⟨ratio, nonnegative, below, _⟩
    rw [signed_of_nonnegative nonnegative]
    exact ⟨Int.natCast_nonneg _, Int.ofNat_lt.mpr below⟩
  · rintro ⟨nonnegative, below⟩
    rw [signed_of_nonnegative nonnegative] at below
    exact ⟨_, nonnegative, Int.ofNat_lt.mp below, rfl⟩

/-- A number in `[0, 1)` that is not written with a minus sign. -/
def Decimal.Tolerable (tolerance : Decimal) : Prop :=
  tolerance.negative = false ∧ 0 ≤ tolerance.value ∧ tolerance.value < 1

theorem nonnegative_of_sign {decimal : Decimal} (sign : decimal.negative = false) :
    0 ≤ decimal.signed := by
  simp [Decimal.signed, sign]

theorem tolerable_iff (tolerance : Decimal) :
    tolerance.Tolerable ↔ validTolerance tolerance = true := by
  rw [validTolerance, Bool.and_eq_true, Bool.not_eq_true', Ordering.isLT_iff_eq_lt,
    Decimal.order_lt_iff, Decimal.value_one, Decimal.Tolerable, Decimal.value_nonneg_iff]
  exact and_congr_right fun sign => and_iff_right (nonnegative_of_sign sign)

end PoolRouting
