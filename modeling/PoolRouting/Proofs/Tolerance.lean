import PoolRouting.Proofs.Outcome
import PoolRouting.Slippage

/-!
Tolerances as fractions. A tolerance is valid exactly when it carries no minus sign and its fraction
is less than one; then, and only then, amounts can be raised or lowered by it. A fixed output spreads
its tolerance over the hops: every amount of the route is raised by the share of the hops that come
after it.
-/

namespace PoolRouting

theorem valid_tolerance_iff (tolerance : Decimal) :
    validTolerance tolerance = true ↔
      tolerance.negative = false ∧ tolerance.mantissa < placeValue tolerance.scale := by
  have unit : placeValue Decimal.one.scale = 1 := rfl
  cases sign : tolerance.negative with
  | true => simp [validTolerance, sign]
  | false =>
    have value : tolerance.signed * ((placeValue Decimal.one.scale : Nat) : Int) =
        (tolerance.mantissa : Int) := by
      simp [Decimal.signed, sign, unit]
    have one : Decimal.one.signed * ((placeValue tolerance.scale : Nat) : Int) =
        (placeValue tolerance.scale : Int) := by
      change (1 : Int) * _ = _
      simp
    rw [validTolerance, Decimal.order, value, one, sign, Bool.and_eq_true,
      Ordering.isLT_iff_eq_lt, Std.compare_eq_lt, Int.ofNat_lt]
    simp

namespace Sample

theorem five_fits : 5 ≤ Decimal.maxMantissa := by decide

theorem one_place_fits : 1 ≤ Decimal.maxScale := by decide

/-- The tolerance 0.5. -/
def half : Decimal := ⟨false, 5, 1, five_fits, one_place_fits⟩

end Sample

/-- The fraction of a valid tolerance. -/
def toleranceRatio (tolerance : Decimal) : Fraction :=
  ⟨tolerance.mantissa, placeValue tolerance.scale⟩

theorem tolerance_fraction_ok {tolerance : Decimal} (bounded : validTolerance tolerance = true) :
    toleranceFraction tolerance = .ok (toleranceRatio tolerance) := by
  obtain ⟨sign, _⟩ := (valid_tolerance_iff tolerance).mp bounded
  have nonnegative : ¬ tolerance.signed < 0 := by simp [Decimal.signed, sign]
  simp [toleranceFraction, validateTolerance, bounded, Except.bind, Decimal.fraction?, nonnegative,
    toleranceRatio]

theorem max_amount_in_ok (amount : Amount) {tolerance : Decimal}
    (bounded : validTolerance tolerance = true) :
    maxAmountIn amount tolerance =
      .ok (amount * (placeValue tolerance.scale + tolerance.mantissa) /
        placeValue tolerance.scale) := by
  rw [maxAmountIn, tolerance_fraction_ok bounded]
  rfl

theorem min_amount_out_ok (amount : Amount) {tolerance : Decimal}
    (bounded : validTolerance tolerance = true) :
    minAmountOut amount tolerance =
      .ok (amount * (placeValue tolerance.scale - tolerance.mantissa) /
        placeValue tolerance.scale) := by
  rw [minAmountOut, tolerance_fraction_ok bounded]
  rfl

theorem valid_of_fraction {tolerance : Decimal} {fraction : Fraction}
    (taken : toleranceFraction tolerance = .ok fraction) : validTolerance tolerance = true := by
  obtain ⟨checked, _⟩ := (check_ok_iff ..).mp taken
  unfold validateTolerance at checked
  split at checked
  · assumption
  · cases checked

theorem valid_of_max_amount_in {amount raised : Amount} {tolerance : Decimal}
    (computed : maxAmountIn amount tolerance = .ok raised) : validTolerance tolerance = true := by
  obtain ⟨fraction, taken, _⟩ := (map_ok_iff ..).mp computed
  exact valid_of_fraction taken

namespace SwapBounds

/-- The amount raised by the share `remaining / hops` of a tolerance, rounded down. -/
def raised (hops : Nat) (tolerance : Fraction) (remaining : Nat) (amount : Amount) : Amount :=
  amount * (hops * tolerance.denominator + remaining * tolerance.numerator) /
    (hops * tolerance.denominator)

section Raised
variable {hops : Nat} {tolerance : Fraction} (scaled : 0 < hops * tolerance.denominator)
include scaled

theorem le_raised (remaining : Nat) (amount : Amount) :
    amount ≤ raised hops tolerance remaining amount := by
  rw [raised, Nat.le_div_iff_mul_le scaled]
  exact Nat.mul_le_mul_left amount (Nat.le_add_right _ _)

theorem raised_by_nothing {remaining : Nat} (amount : Amount)
    (nothing : remaining * tolerance.numerator = 0) :
    raised hops tolerance remaining amount = amount := by
  rw [raised, nothing, Nat.add_zero, Nat.mul_div_cancel amount scaled]

theorem lt_raised_succ (remaining : Nat) (amount : Amount) :
    amount * (hops * tolerance.denominator + remaining * tolerance.numerator) <
      (raised hops tolerance remaining amount + 1) * (hops * tolerance.denominator) := by
  rw [raised, Nat.mul_comm (_ + 1)]
  exact Nat.lt_mul_div_succ _ scaled

omit scaled in
theorem raised_mul_le (hops : Nat) (tolerance : Fraction) (remaining : Nat) (amount : Amount) :
    raised hops tolerance remaining amount * (hops * tolerance.denominator) ≤
      amount * (hops * tolerance.denominator + remaining * tolerance.numerator) :=
  Nat.div_mul_le_self _ _

end Raised

theorem raised_by_all {hops : Nat} (positive : 0 < hops) (tolerance : Fraction) (amount : Amount) :
    raised hops tolerance hops amount =
      amount * (tolerance.denominator + tolerance.numerator) / tolerance.denominator := by
  rw [raised, ← Nat.mul_add, Nat.mul_left_comm, Nat.mul_div_mul_left _ _ positive]

theorem get_spread (hops : Nat) (tolerance : Fraction) (amounts : List Amount) (index : Nat) :
    (spread hops tolerance amounts)[index]? =
      amounts[index]?.map (raised hops tolerance (amounts.length - 1 - index)) := by
  induction amounts generalizing index with
  | nil => rfl
  | cons amount rest ih =>
    cases index with
    | zero => rfl
    | succ index =>
      have remaining : (amount :: rest).length - 1 - (index + 1) = rest.length - 1 - index := by
        rw [List.length_cons]
        omega
      rw [spread, List.getElem?_cons_succ, List.getElem?_cons_succ, ih, remaining]

/-- The bounds of a fixed output: the amounts of the route, each raised for the hops after it. -/
def ofOutput (tolerance : Fraction) (first : Amount) (later : List Amount) : SwapBounds :=
  ⟨raised later.length tolerance later.length first, spread later.length tolerance later⟩

theorem get_of_output (tolerance : Fraction) (first : Amount) (later : List Amount) (index : Nat) :
    ((ofOutput tolerance first later).amountIn :: (ofOutput tolerance first later).limits)[index]? =
      (first :: later)[index]?.map (raised later.length tolerance (later.length - index)) := by
  cases index with
  | zero => rfl
  | succ index =>
    rw [List.getElem?_cons_succ, List.getElem?_cons_succ, ofOutput, get_spread, Nat.sub_sub,
      Nat.add_comm 1]

theorem compute_output_ok (first : Amount) {later : List Amount} (several : later ≠ [])
    {tolerance : Decimal} (bounded : validTolerance tolerance = true) :
    compute .fixedOutput (first :: later) tolerance =
      .ok (ofOutput (toleranceRatio tolerance) first later) := by
  obtain ⟨amount, rest, rfl⟩ := List.exists_cons_of_ne_nil several
  have all := raised_by_all (List.length_pos_iff.mpr several) (toleranceRatio tolerance) first
  rw [ofOutput, all, compute, tolerance_fraction_ok bounded, max_amount_in_ok first bounded]
  rfl

theorem valid_of_compute {type : SwapType} {amounts : List Amount} {tolerance : Decimal}
    {bounds : SwapBounds} (computed : compute type amounts tolerance = .ok bounds) :
    validTolerance tolerance = true := by
  unfold compute at computed
  split at computed
  case h_1 first later =>
    split at computed
    · obtain ⟨least, lowered, _⟩ := (map_ok_iff ..).mp computed
      obtain ⟨fraction, taken, _⟩ := (map_ok_iff ..).mp lowered
      exact valid_of_fraction taken
    · obtain ⟨fraction, taken, _⟩ := (bind_ok_iff ..).mp computed
      exact valid_of_fraction taken
  case h_2 => cases computed

theorem length_last_only (least : Amount) (amounts : List Amount) :
    (lastOnly least amounts).length = amounts.length := by
  induction amounts with
  | nil => rfl
  | cons amount rest ih =>
    cases rest with
    | nil => rfl
    | cons next rest => exact congrArg Nat.succ ih

theorem length_spread (hops : Nat) (tolerance : Fraction) (amounts : List Amount) :
    (spread hops tolerance amounts).length = amounts.length := by
  induction amounts with
  | nil => rfl
  | cons amount rest ih => exact congrArg Nat.succ ih

/-- There is one limit for each amount behind the first. -/
theorem length_limits {type : SwapType} {amounts : List Amount} {tolerance : Decimal}
    {bounds : SwapBounds} (computed : compute type amounts tolerance = .ok bounds) :
    amounts.length = bounds.limits.length + 1 := by
  unfold compute at computed
  split at computed
  case h_1 first later =>
    split at computed
    · obtain ⟨least, _, rfl⟩ := (map_ok_iff ..).mp computed
      rw [length_last_only, List.length_cons]
    · obtain ⟨fraction, _, computed⟩ := (bind_ok_iff ..).mp computed
      obtain ⟨amountIn, _, rfl⟩ := (map_ok_iff ..).mp computed
      rw [length_spread, List.length_cons]
  case h_2 => cases computed

theorem last_of_spread {hops : Nat} {tolerance : Fraction}
    (scaled : 0 < hops * tolerance.denominator) (amounts : List Amount) :
    (spread hops tolerance amounts).getLast? = amounts.getLast? := by
  induction amounts with
  | nil => rfl
  | cons amount rest ih =>
    cases rest with
    | nil => exact congrArg some (raised_by_nothing scaled amount (Nat.zero_mul _))
    | cons next rest => simpa [spread, List.getLast?_cons_cons] using ih

/-- The last hop asks for exactly the output. -/
theorem last_limit_of_output {amounts : List Amount} {tolerance : Decimal} {bounds : SwapBounds}
    (computed : compute .fixedOutput amounts tolerance = .ok bounds) :
    bounds.limits.getLast? = amounts.getLast? := by
  unfold compute at computed
  split at computed
  case h_1 first amount rest =>
    obtain ⟨fraction, taken, _⟩ := (bind_ok_iff ..).mp computed
    have bounded := valid_of_fraction taken
    cases computed.symm.trans (compute_output_ok first (List.cons_ne_nil amount rest) bounded)
    exact last_of_spread (Nat.mul_pos (Nat.succ_pos _) (place_value_pos _)) _
  case h_2 => cases computed

theorem last_only_pos (least : Amount) (amounts : List Amount) :
    ∀ limit ∈ lastOnly least amounts, 0 < limit := by
  induction amounts with
  | nil => simp [lastOnly]
  | cons amount rest ih =>
    cases rest with
    | nil =>
      intro limit member
      rw [List.mem_singleton.mp member]
      exact Nat.lt_of_lt_of_le Nat.one_pos (Nat.le_max_left 1 least)
    | cons next rest => exact List.forall_mem_cons.mpr ⟨Nat.one_pos, ih⟩

theorem spread_pos {hops : Nat} {tolerance : Fraction} (scaled : 0 < hops * tolerance.denominator)
    {amounts : List Amount} (positive : ∀ amount ∈ amounts, 0 < amount) :
    ∀ limit ∈ spread hops tolerance amounts, 0 < limit := by
  induction amounts with
  | nil => simp [spread]
  | cons amount rest ih =>
    obtain ⟨first, later⟩ := List.forall_mem_cons.mp positive
    have raised := le_raised scaled rest.length amount
    exact List.forall_mem_cons.mpr ⟨Nat.lt_of_lt_of_le first raised, ih later⟩

/-- No hop is left without protection, and none is asked for nothing. -/
theorem limits_pos {type : SwapType} {amounts : List Amount} {tolerance : Decimal}
    {bounds : SwapBounds} (computed : compute type amounts tolerance = .ok bounds)
    (positive : ∀ amount ∈ amounts, 0 < amount) : ∀ limit ∈ bounds.limits, 0 < limit := by
  unfold compute at computed
  split at computed
  case h_1 first amount rest =>
    split at computed
    · obtain ⟨least, _, rfl⟩ := (map_ok_iff ..).mp computed
      exact last_only_pos least _
    · obtain ⟨fraction, taken, raised⟩ := (bind_ok_iff ..).mp computed
      have bounded := valid_of_fraction taken
      cases taken.symm.trans (tolerance_fraction_ok bounded)
      obtain ⟨amountIn, _, rfl⟩ := (map_ok_iff ..).mp raised
      have scaled : 0 < (amount :: rest).length * (toleranceRatio tolerance).denominator :=
        Nat.mul_pos (Nat.succ_pos _) (place_value_pos _)
      exact spread_pos scaled (List.forall_mem_cons.mp positive).2
  case h_2 => cases computed

end SwapBounds
end PoolRouting
