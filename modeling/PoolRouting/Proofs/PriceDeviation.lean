import Mathlib.Algebra.Order.Floor.Semifield
import Mathlib.Data.Rat.Floor
import Mathlib.Tactic.FieldSimp
import Mathlib.Tactic.Linarith
import Mathlib.Tactic.Positivity
import PoolRouting.PriceGuard
import PoolRouting.Proofs.DecimalValue

/-!
The price guard against the exact deviation. A percentage shown is the exact one cut behind its
sixth place, unless it is too large for that. A quote that is flagged strays further than allowed,
and one that strays further by a millionth of a percent is flagged; which of the two sides is sold
makes no difference.
-/

namespace PoolRouting

namespace Decimal

theorem value_largest : largest.value = maxMantissa := by
  have signed : largest.signed = maxMantissa := rfl
  have places : placeValue largest.scale = 1 := rfl
  rw [value, signed, places, Int.cast_natCast, Nat.cast_one, div_one]

theorem is_zero_iff (decimal : Decimal) : decimal.isZero = true ↔ decimal.value = 0 := by
  rw [value, div_eq_zero_iff, or_iff_left (place_value_cast_ne_zero _), Int.cast_eq_zero, isZero,
    beq_iff_eq, signed]
  split <;> omega

theorem fraction_of_nonnegative {decimal : Decimal} (nonnegative : 0 ≤ decimal.value) :
    decimal.fraction? = some ⟨decimal.mantissa, placeValue decimal.scale⟩ := by
  have signed := (value_nonneg_iff decimal).mp nonnegative
  rw [fraction?, if_neg (Int.not_lt.mpr signed)]

theorem value_larger (left right : Decimal) :
    (larger left right).value = max left.value right.value := by
  unfold larger
  split
  · next ahead => exact (max_eq_left (le_of_lt ((order_gt_iff left right).mp ahead))).symm
  · next behind => exact (max_eq_right (not_lt.mp (mt (order_gt_iff left right).mpr behind))).symm

theorem larger_comm {left right : Decimal} (told : left.value = right.value → left = right) :
    larger left right = larger right left := by
  unfold larger
  rcases lt_trichotomy left.value right.value with less | same | more
  · rw [if_neg (mt (order_gt_iff left right).mp (not_lt_of_gt less)),
      if_pos ((order_gt_iff right left).mpr less)]
  · rw [told same]
  · rw [if_pos ((order_gt_iff left right).mpr more),
      if_neg (mt (order_gt_iff right left).mp (not_lt_of_gt more))]

end Decimal

/-- What one side of a swap is worth at its reference price. -/
def PricedAmount.worth (side : PricedAmount) : ℚ :=
  side.price.value * (side.amount / placeValue side.decimals)

namespace PriceDeviation

/-- The deviation of the same swap the other way round. -/
def exchanged (deviation : PriceDeviation) : PriceDeviation :=
  ⟨deviation.tokenOut, deviation.tokenIn⟩

end PriceDeviation

namespace PriceGuard

/-- The price paid for the bought token over its reference price. -/
def ratio (sold bought : PricedAmount) : ℚ := sold.worth / bought.worth

/-- How far the bought side strays, in percent. -/
def strayOut (sold bought : PricedAmount) : ℚ := |ratio sold bought - 1| * 100

/-- How far the sold side strays, in percent. -/
def strayIn (sold bought : PricedAmount) : ℚ := |1 / ratio sold bought - 1| * 100

def strayWorst (sold bought : PricedAmount) : ℚ :=
  max (strayIn sold bought) (strayOut sold bought)

/-- How a percentage is shown: cut behind its sixth place, or as the largest decimal if that many
millionths do not fit. -/
inductive Shown (percentage : ℚ) (shown : Decimal) : Prop where
  | truncated (fits : ⌊percentage * 10 ^ 6⌋₊ ≤ Decimal.maxMantissa) (sign : shown.negative = false)
      (mantissa : shown.mantissa = ⌊percentage * 10 ^ 6⌋₊) (scale : shown.scale = 6)
  | saturated (beyond : Decimal.maxMantissa < ⌊percentage * 10 ^ 6⌋₊)
      (largest : shown = Decimal.largest)

section Shown
variable {percentage other : ℚ} {shown another : Decimal}

theorem millionths_cast : ((placeValue 6 : ℕ) : ℚ) = 10 ^ 6 := by
  have places : placeValue 6 = 1000000 := rfl
  rw [places]
  norm_num

theorem value_of_truncated (sign : shown.negative = false) (scale : shown.scale = 6) :
    shown.value = shown.mantissa / 10 ^ 6 := by
  have nonnegative : 0 ≤ shown.signed := by simp [Decimal.signed, sign]
  rw [Decimal.value_of_nonnegative nonnegative, scale, millionths_cast]

-- Six places are lost to the fraction, so what is shown in full stays below the largest decimal.
theorem value_lt_largest (sign : shown.negative = false) (scale : shown.scale = 6) :
    shown.value < Decimal.largest.value := by
  have within : (shown.mantissa : ℚ) ≤ Decimal.maxMantissa := by exact_mod_cast shown.mantissa_le
  have filled : (0 : ℚ) < Decimal.maxMantissa := Nat.cast_pos.mpr (by decide)
  rw [value_of_truncated sign scale, Decimal.value_largest, div_lt_iff₀ (by norm_num)]
  linarith

theorem shown_le (shows : Shown percentage shown) (apart : shown ≠ Decimal.largest)
    (nonnegative : 0 ≤ percentage) : shown.value ≤ percentage := by
  cases shows with
  | saturated beyond largest => exact (apart largest).elim
  | truncated fits sign mantissa scale =>
    rw [value_of_truncated sign scale, mantissa, div_le_iff₀ (by norm_num)]
    exact Nat.floor_le (by positivity)

theorem lt_shown_add (shows : Shown percentage shown) (apart : shown ≠ Decimal.largest) :
    percentage < shown.value + 1 / 10 ^ 6 := by
  cases shows with
  | saturated beyond largest => exact (apart largest).elim
  | truncated fits sign mantissa scale =>
    rw [value_of_truncated sign scale, mantissa, ← add_div, lt_div_iff₀ (by norm_num)]
    exact Nat.lt_floor_add_one _

/-- What is shown has one form only. -/
theorem shown_told (shows : Shown percentage shown) (shows' : Shown other another)
    (same : shown.value = another.value) : shown = another := by
  cases shows with
  | truncated _ sign _ scale =>
    cases shows' with
    | truncated _ sign' _ scale' =>
      have mantissas : shown.mantissa = another.mantissa := by
        rw [value_of_truncated sign scale, value_of_truncated sign' scale',
          div_left_inj' (by norm_num)] at same
        exact_mod_cast same
      cases shown
      cases another
      simp_all
    | saturated _ largest =>
      exact absurd (largest ▸ same) (ne_of_lt (value_lt_largest sign scale))
  | saturated _ largest =>
    cases shows' with
    | truncated _ sign' _ scale' =>
      exact absurd (largest ▸ same).symm (ne_of_lt (value_lt_largest sign' scale'))
    | saturated _ largest' => rw [largest, largest']

/-- Nothing that is shown is larger than what is shown of a percentage that does not fit. -/
theorem larger_largest (shows : Shown percentage shown) :
    Decimal.larger Decimal.largest shown = Decimal.largest := by
  unfold Decimal.larger
  split
  · rfl
  · next level =>
    have above := not_lt.mp (mt (Decimal.order_gt_iff ..).mpr level)
    cases shows with
    | truncated _ sign _ scale => exact absurd (value_lt_largest sign scale) (not_lt_of_ge above)
    | saturated _ same => exact same

end Shown

theorem percent_shown (difference base : Nat) :
    Shown ((difference : ℚ) / base * 100) (percent difference base) := by
  have floor : ⌊(difference : ℚ) / base * 100 * 10 ^ 6⌋₊ =
      difference * 100 * placeValue places / base := by
    rw [← Nat.floor_div_eq_div (K := ℚ)]
    congr 1
    rw [places, Nat.cast_mul, Nat.cast_mul, millionths_cast]
    push_cast
    ring
  unfold percent
  dsimp only
  split
  · next fits => exact .truncated (floor ▸ fits) rfl floor.symm rfl
  · next beyond => exact .saturated (floor ▸ Nat.lt_of_not_le beyond) rfl

/-- The gap between two amounts over one of them. -/
theorem gap_over (one two : Nat) (nonzero : 0 < two) :
    ((max one two - min one two : ℕ) : ℚ) / two = |(one : ℚ) / two - 1| := by
  have positive : (0 : ℚ) < two := Nat.cast_pos.mpr nonzero
  have gap : ((max one two - min one two : ℕ) : ℚ) = |(one : ℚ) - two| := by
    rw [Nat.cast_sub (min_le_max), Nat.cast_max, Nat.cast_min, max_sub_min_eq_abs']
  rw [gap, ← abs_of_pos positive, ← abs_div, abs_of_pos positive, sub_div, div_self positive.ne']

/-- What is paid for the bought token, with the scales of both prices taken out of the fractions. -/
def paid (sold bought : PricedAmount) : Nat :=
  sold.price.mantissa * sold.amount * placeValue bought.decimals * placeValue bought.price.scale

section Deviation
variable {sold bought : PricedAmount}

theorem deviation_none_iff (pricedIn : 0 ≤ sold.price.value) (pricedOut : 0 ≤ bought.price.value) :
    deviation sold bought = none ↔
      sold.price.value = 0 ∨ bought.price.value = 0 ∨ sold.amount = 0 ∨ bought.amount = 0 := by
  have lacks : (sold.price.isZero || bought.price.isZero || sold.amount == 0 ||
      bought.amount == 0) = true ↔
        sold.price.value = 0 ∨ bought.price.value = 0 ∨ sold.amount = 0 ∨ bought.amount = 0 := by
    simp [Decimal.is_zero_iff, or_assoc]
  rw [deviation, Decimal.fraction_of_nonnegative pricedIn,
    Decimal.fraction_of_nonnegative pricedOut, ← lacks]
  split
  · next nothing => simp [nothing]
  · next given => exact iff_of_false (fun missing => by cases missing) given

theorem deviation_eq (pricedIn : 0 ≤ sold.price.value) (pricedOut : 0 ≤ bought.price.value)
    {found : PriceDeviation} (deviates : deviation sold bought = some found) :
    let gap := max (paid sold bought) (paid bought sold) - min (paid sold bought) (paid bought sold)
    found = ⟨percent gap (paid sold bought), percent gap (paid bought sold)⟩ := by
  rw [deviation, Decimal.fraction_of_nonnegative pricedIn,
    Decimal.fraction_of_nonnegative pricedOut] at deviates
  split at deviates
  · cases deviates
  · exact (Option.some.inj deviates).symm

theorem paid_pos (priced : sold.price.value ≠ 0) (traded : sold.amount ≠ 0) :
    0 < paid sold bought := by
  have mantissa : sold.price.mantissa ≠ 0 := fun nothing =>
    priced ((Decimal.is_zero_iff sold.price).mp (beq_iff_eq.mpr nothing))
  exact Nat.mul_pos (Nat.mul_pos (Nat.mul_pos (Nat.pos_of_ne_zero mantissa)
    (Nat.pos_of_ne_zero traded)) (place_value_pos _)) (place_value_pos _)

theorem paid_ratio (pricedIn : 0 ≤ sold.price.value) (pricedOut : 0 ≤ bought.price.value) :
    (paid sold bought : ℚ) / paid bought sold = ratio sold bought := by
  have scales := Decimal.place_value_cast_ne_zero
  rw [ratio, PricedAmount.worth, PricedAmount.worth, paid, paid,
    Decimal.value_of_nonnegative ((Decimal.value_nonneg_iff _).mp pricedIn),
    Decimal.value_of_nonnegative ((Decimal.value_nonneg_iff _).mp pricedOut)]
  push_cast
  have first := scales sold.price.scale
  have second := scales bought.price.scale
  have third := scales sold.decimals
  have fourth := scales bought.decimals
  field_simp

/-- Both sides of a deviation show their exact percentage. -/
theorem deviation_shown (pricedIn : 0 ≤ sold.price.value) (pricedOut : 0 ≤ bought.price.value)
    {found : PriceDeviation} (deviates : deviation sold bought = some found) :
    Shown (strayIn sold bought) found.tokenIn ∧ Shown (strayOut sold bought) found.tokenOut := by
  have given := mt (deviation_none_iff pricedIn pricedOut).mpr (by simp [deviates])
  simp only [not_or] at given
  obtain ⟨priceIn, priceOut, amountIn, amountOut⟩ := given
  have positive : 0 < paid sold bought := paid_pos priceIn amountIn
  have reference : 0 < paid bought sold := paid_pos priceOut amountOut
  have inverse : 1 / ratio sold bought = (paid bought sold : ℚ) / paid sold bought := by
    rw [← paid_ratio pricedIn pricedOut, one_div_div]
  rw [deviation_eq pricedIn pricedOut deviates, strayIn, strayOut, inverse,
    ← paid_ratio pricedIn pricedOut, ← gap_over _ _ reference, ← gap_over _ _ positive,
    max_comm (paid bought sold), min_comm (paid bought sold)]
  exact ⟨percent_shown _ _, percent_shown _ _⟩

theorem flagged_iff (allowed shown : Decimal) :
    flagged sold bought allowed = some shown ↔
      ∃ found, deviation sold bought = some found ∧ shown = found.worst ∧
        allowed.value < shown.value := by
  rw [flagged, Option.filter_eq_some_iff]
  simp only [Option.map_eq_some_iff, Decimal.order_gt_iff]
  constructor
  · rintro ⟨⟨found, deviates, rfl⟩, beyond⟩
    exact ⟨found, deviates, rfl, beyond⟩
  · rintro ⟨found, deviates, rfl, beyond⟩
    exact ⟨⟨found, deviates, rfl⟩, beyond⟩

-- If the worst is shown in full then so is the other side, which is not larger.
theorem unsaturated {found : PriceDeviation} (apart : found.worst ≠ Decimal.largest)
    {one two : ℚ} (showsIn : Shown one found.tokenIn) (showsOut : Shown two found.tokenOut) :
    found.tokenIn ≠ Decimal.largest ∧ found.tokenOut ≠ Decimal.largest := by
  rw [PriceDeviation.worst] at apart
  constructor
  · intro largest
    rw [largest] at apart
    exact apart (larger_largest showsOut)
  · intro largest
    rw [Decimal.larger_comm (shown_told showsIn showsOut), largest] at apart
    exact apart (larger_largest showsIn)

section Bounds
variable {found : PriceDeviation} (pricedIn : 0 ≤ sold.price.value)
  (pricedOut : 0 ≤ bought.price.value) (deviates : deviation sold bought = some found)
  (apart : found.worst ≠ Decimal.largest)
include pricedIn pricedOut deviates apart

theorem worst_le : found.worst.value ≤ strayWorst sold bought := by
  obtain ⟨showsIn, showsOut⟩ := deviation_shown pricedIn pricedOut deviates
  obtain ⟨apartIn, apartOut⟩ := unsaturated apart showsIn showsOut
  rw [PriceDeviation.worst, Decimal.value_larger]
  exact max_le_max (shown_le showsIn apartIn (by unfold strayIn; positivity))
    (shown_le showsOut apartOut (by unfold strayOut; positivity))

theorem lt_worst_add : strayWorst sold bought < found.worst.value + 1 / 10 ^ 6 := by
  obtain ⟨showsIn, showsOut⟩ := deviation_shown pricedIn pricedOut deviates
  obtain ⟨apartIn, apartOut⟩ := unsaturated apart showsIn showsOut
  rw [PriceDeviation.worst, Decimal.value_larger, ← max_add_add_right]
  exact max_lt_max (lt_shown_add showsIn apartIn) (lt_shown_add showsOut apartOut)

end Bounds

theorem deviation_exchanged (pricedIn : 0 ≤ sold.price.value)
    (pricedOut : 0 ≤ bought.price.value) :
    deviation bought sold = (deviation sold bought).map PriceDeviation.exchanged := by
  cases deviates : deviation sold bought with
  | none =>
    have nothing := (deviation_none_iff pricedIn pricedOut).mp deviates
    refine (deviation_none_iff pricedOut pricedIn).mpr ?_
    tauto
  | some found =>
    cases reversed : deviation bought sold with
    | none =>
      have nothing := (deviation_none_iff pricedOut pricedIn).mp reversed
      have given := mt (deviation_none_iff pricedIn pricedOut).mpr (by simp [deviates])
      tauto
    | some other =>
      rw [deviation_eq pricedIn pricedOut deviates, deviation_eq pricedOut pricedIn reversed,
        max_comm (paid bought sold), min_comm (paid bought sold)]
      rfl

theorem flagged_exchanged (pricedIn : 0 ≤ sold.price.value)
    (pricedOut : 0 ≤ bought.price.value) (allowed : Decimal) :
    flagged bought sold allowed = flagged sold bought allowed := by
  rw [flagged, flagged, deviation_exchanged pricedIn pricedOut]
  cases deviates : deviation sold bought with
  | none => rfl
  | some found =>
    obtain ⟨showsIn, showsOut⟩ := deviation_shown pricedIn pricedOut deviates
    have worst : found.exchanged.worst = found.worst :=
      Decimal.larger_comm (shown_told showsOut showsIn)
    rw [Option.map_some, Option.map_some, Option.map_some, worst]

end Deviation

/-- The guard answers for every priced swap, shows both percentages exactly to six places, flags by
the larger of them, and answers alike for the same swap the other way round. -/
theorem deviation_flags_exactly (sold bought : PricedAmount) (pricedIn : 0 ≤ sold.price.value)
    (pricedOut : 0 ≤ bought.price.value) (allowed : Decimal) :
    (deviation sold bought = none ↔
      sold.price.value = 0 ∨ bought.price.value = 0 ∨ sold.amount = 0 ∨ bought.amount = 0) ∧
    (∀ found, deviation sold bought = some found →
      Shown (strayIn sold bought) found.tokenIn ∧ Shown (strayOut sold bought) found.tokenOut ∧
      found.worst.value = max found.tokenIn.value found.tokenOut.value ∧
      (found.worst ≠ Decimal.largest →
        (flagged sold bought allowed ≠ none → allowed.value < strayWorst sold bought) ∧
        (allowed.value + 1 / 10 ^ 6 ≤ strayWorst sold bought →
          flagged sold bought allowed = some found.worst))) ∧
    (∀ shown, flagged sold bought allowed = some shown ↔
      ∃ found, deviation sold bought = some found ∧ shown = found.worst ∧
        allowed.value < shown.value) ∧
    deviation bought sold = (deviation sold bought).map PriceDeviation.exchanged ∧
    flagged bought sold allowed = flagged sold bought allowed := by
  refine ⟨deviation_none_iff pricedIn pricedOut, ?_, flagged_iff allowed,
    deviation_exchanged pricedIn pricedOut, flagged_exchanged pricedIn pricedOut allowed⟩
  intro found deviates
  obtain ⟨showsIn, showsOut⟩ := deviation_shown pricedIn pricedOut deviates
  refine ⟨showsIn, showsOut, Decimal.value_larger _ _, fun apart => ⟨?_, ?_⟩⟩
  · intro flags
    obtain ⟨shown, marked⟩ := Option.ne_none_iff_exists'.mp flags
    obtain ⟨other, again, rfl, beyond⟩ := (flagged_iff allowed shown).mp marked
    cases deviates.symm.trans again
    exact beyond.trans_le (worst_le pricedIn pricedOut deviates apart)
  · intro strays
    have within := lt_worst_add pricedIn pricedOut deviates apart
    exact (flagged_iff allowed _).mpr ⟨found, deviates, rfl, by linarith⟩

end PriceGuard

namespace Sample

/-- A whole token that is worth one. -/
def wholeSold : PricedAmount := ⟨1000000000000000000, 18, Decimal.one⟩

/-- What a fair pool gives for it in a token that is worth 800000: the fee is missing. -/
def feeMissing : PricedAmount := ⟨1246248446862, 18, .whole false 800000 (by decide)⟩

/-- A tenth of a percent. -/
def tenth : Decimal := ⟨false, 1, 1, Decimal.one.mantissa_le, Nat.le_add_left 1 27⟩

end Sample

namespace PriceGuard

theorem deviation_flags_exactly_fee :
    0 ≤ Sample.wholeSold.price.value ∧ 0 ≤ Sample.feeMissing.price.value ∧
    ∃ found, deviation Sample.wholeSold Sample.feeMissing = some found ∧
      found.tokenIn.mantissa = 300124 ∧ found.tokenOut.mantissa = 301027 ∧
      Sample.tenth.value < strayWorst Sample.wholeSold Sample.feeMissing ∧
      flagged Sample.feeMissing Sample.wholeSold Sample.tenth = some found.worst := by
  have pricedIn : 0 ≤ Sample.wholeSold.price.value :=
    (Decimal.value_nonneg_iff _).mpr (by decide)
  have pricedOut : 0 ≤ Sample.feeMissing.price.value :=
    (Decimal.value_nonneg_iff _).mpr (by decide)
  obtain ⟨_, shown, _, _, exchanged⟩ :=
    deviation_flags_exactly Sample.wholeSold Sample.feeMissing pricedIn pricedOut Sample.tenth
  have deviates : deviation Sample.wholeSold Sample.feeMissing =
      some ⟨⟨false, 300124, 6, by decide, by decide⟩,
        ⟨false, 301027, 6, by decide, by decide⟩⟩ := by
    decide +kernel
  have flags : flagged Sample.wholeSold Sample.feeMissing Sample.tenth =
      some ⟨false, 301027, 6, by decide, by decide⟩ := by
    decide +kernel
  obtain ⟨_, _, _, bounds⟩ := shown _ deviates
  obtain ⟨beyond, _⟩ := bounds (by decide +kernel)
  exact ⟨pricedIn, pricedOut, _, deviates, rfl, rfl, beyond (by simp [flags]),
    exchanged.trans flags⟩

end PriceGuard
end PoolRouting
