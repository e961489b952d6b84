import Mathlib.Algebra.Order.Ring.Int
import Mathlib.Tactic.Ring
import PoolRouting.PriceGuard
import PoolRouting.Proofs.Tolerance

/-!
Decimals of one value at two scales. A decimal enters an amount or a percentage as a fraction that
is divided out once, so the powers of ten that its scale puts above and below the line cancel.
Bounds, deviations and checks come out the same.
-/

namespace PoolRouting

/-- Proportional fractions are rounded alike. -/
theorem quotient_scaled {one two base other first second : Nat} (positive : 0 < first)
    (more : 0 < second) (above : one * first = two * second)
    (below : base * first = other * second) : one / base = two / other := by
  rw [← Nat.mul_div_mul_right one base positive, above, below, Nat.mul_div_mul_right _ _ more]

namespace Decimal

theorem same_value_iff (left right : Decimal) :
    left.sameValue right = true ↔
      left.signed * (placeValue right.scale : Int) =
        right.signed * (placeValue left.scale : Int) := by
  rw [sameValue, order, Ordering.isEq_iff_eq_eq, Std.LawfulEqOrd.compare_eq_iff_eq]

/-- The same sign and the same value, so that at most the scale is another. -/
structure Rescales (value other : Decimal) : Prop where
  sign : other.negative = value.negative
  level : other.sameValue value = true

section Rescaled
variable {value other : Decimal}

theorem crossed_of_level (sign : other.negative = value.negative)
    (level : other.sameValue value = true) :
    other.mantissa * placeValue value.scale = value.mantissa * placeValue other.scale := by
  have equation := (same_value_iff other value).mp level
  cases negative : value.negative with
  | false =>
    simp only [signed, sign, negative, Bool.false_eq_true, if_false] at equation
    exact_mod_cast equation
  | true =>
    simp only [signed, sign, negative, if_true, neg_mul, neg_inj] at equation
    exact_mod_cast equation

theorem Rescales.crossed (rescales : value.Rescales other) :
    other.mantissa * placeValue value.scale = value.mantissa * placeValue other.scale :=
  crossed_of_level rescales.sign rescales.level

theorem Rescales.symm (rescales : value.Rescales other) : other.Rescales value :=
  ⟨rescales.sign.symm, (same_value_iff _ _).mpr ((same_value_iff _ _).mp rescales.level).symm⟩

theorem rescales_self (value : Decimal) : value.Rescales value :=
  ⟨rfl, (same_value_iff _ _).mpr rfl⟩

theorem Rescales.zero_iff (rescales : value.Rescales other) :
    other.mantissa = 0 ↔ value.mantissa = 0 := by
  have crossed := rescales.crossed
  have left := Nat.ne_of_gt (place_value_pos value.scale)
  have right := Nat.ne_of_gt (place_value_pos other.scale)
  constructor
  · intro nothing
    rw [nothing, Nat.zero_mul] at crossed
    exact (Nat.mul_eq_zero.mp crossed.symm).resolve_right right
  · intro nothing
    rw [nothing, Nat.zero_mul] at crossed
    exact (Nat.mul_eq_zero.mp crossed).resolve_right left

end Rescaled
theorem signed_neg_iff (value : Decimal) :
    value.signed < 0 ↔ value.negative = true ∧ value.mantissa ≠ 0 := by
  unfold signed
  cases value.negative with
  | false => simp
  | true => simp [Nat.pos_iff_ne_zero]

theorem fraction_rescaled {value other : Decimal} (rescales : value.Rescales other) :
    (value.fraction? = none ∧ other.fraction? = none) ∨
      (value.fraction? = some ⟨value.mantissa, placeValue value.scale⟩ ∧
        other.fraction? = some ⟨other.mantissa, placeValue other.scale⟩) := by
  have alike : other.signed < 0 ↔ value.signed < 0 := by
    rw [signed_neg_iff, signed_neg_iff, rescales.sign, Ne, Ne, rescales.zero_iff]
  unfold fraction?
  by_cases below : value.signed < 0
  · exact Or.inl ⟨if_pos below, if_pos (alike.mpr below)⟩
  · exact Or.inr ⟨if_neg below, if_neg fun under => below (alike.mp under)⟩

theorem order_level {left right : Decimal} (level : right.sameValue left = true) (value : Decimal) :
    (order value right).isGT = (order value left).isGT := by
  have equation := (same_value_iff right left).mp level
  have positive : (0 : Int) < placeValue left.scale := by exact_mod_cast place_value_pos left.scale
  have more : (0 : Int) < placeValue right.scale := by exact_mod_cast place_value_pos right.scale
  rw [Bool.eq_iff_iff, order, order, Ordering.isGT_iff_eq_gt, Ordering.isGT_iff_eq_gt,
    Std.compare_eq_gt, Std.compare_eq_gt]
  generalize (placeValue left.scale : Int) = short at *
  generalize (placeValue right.scale : Int) = long at *
  generalize (placeValue value.scale : Int) = places at *
  calc right.signed * places < value.signed * long
      ↔ right.signed * places * short < value.signed * long * short :=
        (mul_lt_mul_iff_left₀ positive).symm
    _ ↔ left.signed * places * long < value.signed * short * long := by
        rw [show right.signed * places * short = left.signed * places * long by
          rw [mul_right_comm, equation, mul_right_comm], mul_right_comm value.signed]
    _ ↔ left.signed * places < value.signed * short := mul_lt_mul_iff_left₀ more

end Decimal

section Tolerances
variable {tolerance other : Decimal}

theorem valid_rescaled (rescales : tolerance.Rescales other) :
    validTolerance other = validTolerance tolerance := by
  rw [Bool.eq_iff_iff, valid_tolerance_iff, valid_tolerance_iff, rescales.sign]
  refine and_congr_right fun _ => ?_
  have crossed := rescales.crossed
  have positive := place_value_pos tolerance.scale
  have more := place_value_pos other.scale
  constructor
  · intro below
    apply Nat.lt_of_mul_lt_mul_right (a := placeValue other.scale)
    rw [← crossed, Nat.mul_comm (placeValue tolerance.scale)]
    exact Nat.mul_lt_mul_of_pos_right below positive
  · intro below
    apply Nat.lt_of_mul_lt_mul_right (a := placeValue tolerance.scale)
    rw [crossed, Nat.mul_comm (placeValue other.scale)]
    exact Nat.mul_lt_mul_of_pos_right below more

/-- Valid tolerances carry no sign. -/
theorem rescales_of_valid (bounded : validTolerance tolerance = true)
    (valid : validTolerance other = true) (level : other.sameValue tolerance = true) :
    tolerance.Rescales other := by
  obtain ⟨sign, _⟩ := (valid_tolerance_iff tolerance).mp bounded
  obtain ⟨same, _⟩ := (valid_tolerance_iff other).mp valid
  exact ⟨same.trans sign.symm, level⟩

theorem max_amount_in_rescaled (amount : Amount) (bounded : validTolerance tolerance = true)
    (rescales : tolerance.Rescales other) :
    maxAmountIn amount other = maxAmountIn amount tolerance := by
  have valid := (valid_rescaled rescales).trans bounded
  rw [max_amount_in_ok amount bounded, max_amount_in_ok amount valid]
  refine congrArg Except.ok (quotient_scaled (place_value_pos tolerance.scale)
    (place_value_pos other.scale) ?_ (Nat.mul_comm _ _))
  rw [Nat.mul_assoc, Nat.mul_assoc, Nat.add_mul, Nat.add_mul, rescales.crossed,
    Nat.mul_comm (placeValue other.scale)]

theorem min_amount_out_rescaled (amount : Amount) (bounded : validTolerance tolerance = true)
    (rescales : tolerance.Rescales other) :
    minAmountOut amount other = minAmountOut amount tolerance := by
  have valid := (valid_rescaled rescales).trans bounded
  rw [min_amount_out_ok amount bounded, min_amount_out_ok amount valid]
  refine congrArg Except.ok (quotient_scaled (place_value_pos tolerance.scale)
    (place_value_pos other.scale) ?_ (Nat.mul_comm _ _))
  rw [Nat.mul_assoc, Nat.mul_assoc, Nat.sub_mul, Nat.sub_mul, rescales.crossed,
    Nat.mul_comm (placeValue other.scale)]

namespace SwapBounds

theorem spread_rescaled (rescales : tolerance.Rescales other) (hops : Nat)
    (amounts : List Amount) :
    spread hops (toleranceRatio other) amounts =
      spread hops (toleranceRatio tolerance) amounts := by
  induction amounts with
  | nil => rfl
  | cons amount rest ih =>
    have crossed := rescales.crossed
    have scaled :
        amount * (hops * placeValue other.scale + rest.length * other.mantissa) /
            (hops * placeValue other.scale) =
          amount * (hops * placeValue tolerance.scale + rest.length * tolerance.mantissa) /
            (hops * placeValue tolerance.scale) :=
      quotient_scaled (place_value_pos tolerance.scale) (place_value_pos other.scale)
        (by grind) (by ring)
    exact congrArg₂ List.cons scaled ih

theorem compute_rescaled (type : SwapType) (amounts : List Amount)
    (bounded : validTolerance tolerance = true) (rescales : tolerance.Rescales other) :
    compute type amounts other = compute type amounts tolerance := by
  have valid := (valid_rescaled rescales).trans bounded
  match amounts, type with
  | [], _ | [_], _ => rfl
  | first :: amount :: rest, .fixedInput =>
    simp only [compute, min_amount_out_rescaled _ bounded rescales]
  | first :: amount :: rest, .fixedOutput =>
    simp only [compute, tolerance_fraction_ok bounded, tolerance_fraction_ok valid, Except.bind,
      max_amount_in_rescaled first bounded rescales]
    rw [spread_rescaled rescales]

end SwapBounds
end Tolerances

namespace PriceGuard

theorem percent_scaled {one two base other first second : Nat} (positive : 0 < first)
    (more : 0 < second) (above : one * first = two * second)
    (below : base * first = other * second) : percent one base = percent two other := by
  have mantissa : one * 100 * placeValue places / base = two * 100 * placeValue places / other := by
    refine quotient_scaled positive more ?_ below
    calc one * 100 * placeValue places * first
        = one * first * (100 * placeValue places) := by ring
      _ = two * second * (100 * placeValue places) := by rw [above]
      _ = two * 100 * placeValue places * second := by ring
  simp only [percent, mantissa]

theorem gap_scaled {one two other another first second : Nat}
    (left : one * first = two * second) (right : other * first = another * second) :
    (max one other - min one other) * first = (max two another - min two another) * second := by
  rw [Nat.sub_mul, Nat.sub_mul, ← Nat.mul_max_mul_right, ← Nat.mul_max_mul_right,
    ← Nat.mul_min_mul_right, ← Nat.mul_min_mul_right, left, right]

section Deviation
variable (sold bought : PricedAmount) {priceIn priceOut : Decimal}

-- What is paid and its reference grow by one factor, and so does the gap between them.
theorem deviation_rescaled (rescalesIn : sold.price.Rescales priceIn)
    (rescalesOut : bought.price.Rescales priceOut) :
    deviation { sold with price := priceIn } { bought with price := priceOut } =
      deviation sold bought := by
  have zeroIn : priceIn.isZero = sold.price.isZero :=
    Bool.eq_iff_iff.mpr (by simpa [Decimal.isZero] using rescalesIn.zero_iff)
  have zeroOut : priceOut.isZero = bought.price.isZero :=
    Bool.eq_iff_iff.mpr (by simpa [Decimal.isZero] using rescalesOut.zero_iff)
  simp only [deviation, zeroIn, zeroOut]
  split
  · rfl
  rcases Decimal.fraction_rescaled rescalesIn with ⟨_, lost⟩ | ⟨first, second⟩
  · simp [*]
  rcases Decimal.fraction_rescaled rescalesOut with ⟨_, lost⟩ | ⟨third, fourth⟩
  · simp [*]
  simp only [first, second, third, fourth, Option.bind_some, Option.map_some]
  have crossedIn := rescalesIn.crossed
  have crossedOut := rescalesOut.crossed
  have positive :=
    Nat.mul_pos (place_value_pos sold.price.scale) (place_value_pos bought.price.scale)
  have more := Nat.mul_pos (place_value_pos priceIn.scale) (place_value_pos priceOut.scale)
  have paid : priceIn.mantissa * sold.amount * placeValue bought.decimals *
        placeValue priceOut.scale * (placeValue sold.price.scale * placeValue bought.price.scale) =
      sold.price.mantissa * sold.amount * placeValue bought.decimals *
        placeValue bought.price.scale * (placeValue priceIn.scale * placeValue priceOut.scale) := by
    grind
  have reference : priceOut.mantissa * bought.amount * placeValue sold.decimals *
        placeValue priceIn.scale * (placeValue sold.price.scale * placeValue bought.price.scale) =
      bought.price.mantissa * bought.amount * placeValue sold.decimals *
        placeValue sold.price.scale * (placeValue priceIn.scale * placeValue priceOut.scale) := by
    grind
  have gap := gap_scaled paid reference
  rw [percent_scaled positive more gap paid, percent_scaled positive more gap reference]

theorem flagged_rescaled {allowed limit : Decimal} (rescalesIn : sold.price.Rescales priceIn)
    (rescalesOut : bought.price.Rescales priceOut) (level : limit.sameValue allowed = true) :
    flagged { sold with price := priceIn } { bought with price := priceOut } limit =
      flagged sold bought allowed := by
  simp only [flagged, deviation_rescaled sold bought rescalesIn rescalesOut,
    Decimal.order_level level]

end Deviation
end PriceGuard
end PoolRouting
