import Mathlib.Algebra.Order.Floor.Semifield
import Mathlib.Data.Rat.Floor
import Mathlib.Tactic.FieldSimp
import Mathlib.Tactic.GCongr
import Mathlib.Tactic.Positivity
import PoolRouting.Proofs.DecimalValue
import PoolRouting.Proofs.RouteSimulation
import PoolRouting.Proofs.Tolerance

/-!
The bounds of a swap against the exact tolerance. Every limit is the floor of a rational number, and
rounding leaves it on the right side: a fixed input is never asked for more than the simulation
brought, so the swap goes through on unchanged pools, and a fixed output never asks a hop for less
than the simulation did nor for more than the whole tolerance allows. A larger tolerance only
loosens the bounds.
-/

namespace PoolRouting

namespace SwapBounds

section Floors
variable {tolerance : Decimal} (tolerable : tolerance.Tolerable)
include tolerable

theorem value_of_tolerable :
    tolerance.value = tolerance.mantissa / placeValue tolerance.scale :=
  Decimal.value_of_nonnegative (nonnegative_of_sign tolerable.1)

theorem lowered_eq_floor (amount : Amount) :
    amount * (placeValue tolerance.scale - tolerance.mantissa) / placeValue tolerance.scale =
      ⌊(amount : ℚ) * (1 - tolerance.value)⌋₊ := by
  obtain ⟨_, below⟩ := (valid_tolerance_iff tolerance).mp ((tolerable_iff tolerance).mp tolerable)
  have scaled := Decimal.place_value_cast_ne_zero tolerance.scale
  rw [value_of_tolerable tolerable, ← Nat.floor_div_eq_div (K := ℚ)]
  congr 1
  push_cast [Nat.cast_sub (Nat.le_of_lt below)]
  field_simp

theorem raised_eq_floor {hops : Nat} (positive : 0 < hops) (remaining : Nat) (amount : Amount) :
    raised hops (toleranceRatio tolerance) remaining amount =
      ⌊(amount : ℚ) * (1 + tolerance.value * (remaining / hops))⌋₊ := by
  have scaled := Decimal.place_value_cast_ne_zero tolerance.scale
  have spread : (hops : ℚ) ≠ 0 := Nat.cast_ne_zero.mpr (Nat.ne_of_gt positive)
  rw [value_of_tolerable tolerable, raised, ← Nat.floor_div_eq_div (K := ℚ), toleranceRatio]
  congr 1
  push_cast
  field_simp

end Floors

/-! A fixed input: one unit from every hop but the last. -/
section LastOnly

theorem last_only_between (least : Amount) (amounts : List Amount) {index : Nat}
    (early : index + 1 < amounts.length) : (lastOnly least amounts)[index]? = some 1 := by
  induction amounts generalizing index with
  | nil => cases early
  | cons amount rest ih =>
    cases rest with
    | nil => simp at early
    | cons next rest =>
      cases index with
      | zero => rfl
      | succ index => exact ih (Nat.lt_of_succ_lt_succ early)

theorem last_of_last_only (least : Amount) {amounts : List Amount} (nonempty : amounts ≠ []) :
    (lastOnly least amounts).getLast? = Option.some (max 1 least) := by
  induction amounts with
  | nil => exact (nonempty rfl).elim
  | cons amount rest ih =>
    cases rest with
    | nil => rfl
    | cons next rest =>
      change (1 :: lastOnly least (next :: rest)).getLast? = _
      rw [List.getLast?_cons, ih (List.cons_ne_nil next rest), Option.getD_some]

theorem last_only_le {least : Amount} {amounts : List Amount}
    (positive : ∀ amount ∈ amounts, 1 ≤ amount)
    (within : ∀ amount, amounts.getLast? = some amount → least ≤ amount) :
    List.Forall₂ (· ≤ ·) (lastOnly least amounts) amounts := by
  induction amounts with
  | nil => exact .nil
  | cons amount rest ih =>
    obtain ⟨first, later⟩ := List.forall_mem_cons.mp positive
    cases rest with
    | nil => exact .cons (Nat.max_le.mpr ⟨first, within amount rfl⟩) .nil
    | cons next rest => exact .cons first (ih later within)

theorem last_only_mono {less more : Amount} (within : less ≤ more) (amounts : List Amount) :
    List.Forall₂ (· ≤ ·) (lastOnly less amounts) (lastOnly more amounts) := by
  induction amounts with
  | nil => exact .nil
  | cons amount rest ih =>
    cases rest with
    | nil => exact .cons (max_le_max_left 1 within) .nil
    | cons next rest => exact .cons (Nat.le_refl 1) ih

end LastOnly

/-- The bounds of a fixed input that brings `last` at its end. -/
def ofInput (tolerance : ℚ) (first last : Amount) (later : List Amount) : SwapBounds :=
  ⟨first, lastOnly ⌊(last : ℚ) * (1 - tolerance)⌋₊ later⟩

theorem compute_input_ok (first : Amount) {last : Amount} {later : List Amount}
    (ends : later.getLast? = some last) {tolerance : Decimal}
    (tolerable : tolerance.Tolerable) :
    compute .fixedInput (first :: later) tolerance =
      .ok (ofInput tolerance.value first last later) := by
  have bounded := (tolerable_iff tolerance).mp tolerable
  cases later with
  | nil => cases ends
  | cons amount rest =>
    rw [ofInput, ← lowered_eq_floor tolerable, compute, ends, Option.getD_some,
      min_amount_out_ok last bounded]
    rfl

theorem compute_refused (type : SwapType) (first : Amount) {later : List Amount}
    (several : later ≠ []) {tolerance : Decimal} (intolerable : ¬ tolerance.Tolerable) :
    compute type (first :: later) tolerance = .error (.invalidAmount (.tolerance tolerance)) := by
  obtain ⟨amount, rest, rfl⟩ := List.exists_cons_of_ne_nil several
  have refused : toleranceFraction tolerance = .error (.invalidAmount (.tolerance tolerance)) := by
    rw [toleranceFraction, validateTolerance, if_neg (mt (tolerable_iff tolerance).mpr intolerable)]
    rfl
  cases type with
  | fixedInput => rw [compute, minAmountOut, refused]; rfl
  | fixedOutput => rw [compute, refused]; rfl

end SwapBounds

/-- A plan of a fixed input carried out: every sale brings at least its limit. -/
inductive Meets : Amount → List (TokenId × Pool) → List Amount → Prop where
  | arrived (held : Amount) : Meets held [] []
  | hop {token : TokenId} {pool : Pool} {hops : List (TokenId × Pool)} {held bought limit : Amount}
      {limits : List Amount} (sale : pool.sell token held = .ok bought) (enough : limit ≤ bought)
      (later : Meets bought hops limits) : Meets held ((token, pool) :: hops) (limit :: limits)

theorem meets_of_forward {hops : List (TokenId × Pool)} {held : Amount}
    {outputs limits : List Amount} (goes : Route.forward held hops = .ok outputs)
    (within : List.Forall₂ (· ≤ ·) limits outputs) : Meets held hops limits := by
  induction hops generalizing held outputs limits with
  | nil =>
    cases goes
    cases within
    exact .arrived held
  | cons hop rest ih =>
    obtain ⟨token, pool⟩ := hop
    obtain ⟨brought, after, sale, onward, rfl⟩ := (Route.forward_cons_iff ..).mp goes
    cases within with
    | cons enough later => exact .hop sale enough (ih onward later)

namespace SwapBounds

/-- What the bounds of a fixed input ask for along a route. -/
structure Protects (tolerance : ℚ) (first : Amount) (later : List Amount) (bounds : SwapBounds) :
    Prop where
  transfer : bounds.amountIn = first
  counted : bounds.limits.length = later.length
  between : ∀ index, index + 1 < later.length → bounds.limits[index]? = some 1
  last : ∃ last, later.getLast? = some last ∧
    bounds.limits.getLast? = some (max 1 ⌊(last : ℚ) * (1 - tolerance)⌋₊) ∧
    max 1 ⌊(last : ℚ) * (1 - tolerance)⌋₊ ≤ last
  /-- The route that brought these amounts brings enough when it is taken again. -/
  met : ∀ route : Route, route.amounts ⟨.fixedInput, first⟩ = .ok (first :: later) →
    Meets bounds.amountIn route.hops bounds.limits

/-- What the bounds of a fixed output ask for along a route of `later.length` hops. -/
structure Spreads (tolerance : ℚ) (first : Amount) (later : List Amount) (bounds : SwapBounds) :
    Prop where
  transfer : bounds.amountIn = ⌊(first : ℚ) * (1 + tolerance)⌋₊
  least : first ≤ bounds.amountIn
  most : bounds.amountIn < 2 * first
  counted : bounds.limits.length = later.length
  limits : ∀ (index : Nat) amount, later[index]? = some amount → ∃ limit,
    bounds.limits[index]? = some limit ∧
    limit = ⌊(amount : ℚ) *
      (1 + tolerance * (((later.length : ℚ) - index - 1) / later.length))⌋₊ ∧
    amount ≤ limit ∧ limit ≤ ⌊(amount : ℚ) * (1 + tolerance)⌋₊
  last : bounds.limits.getLast? = later.getLast?

section Exact
variable {tolerance : Decimal} (tolerable : tolerance.Tolerable) {first : Amount}
variable {later : List Amount}
include tolerable

theorem protects_of_input {last : Amount} (ends : later.getLast? = some last)
    (positive : ∀ amount ∈ later, 1 ≤ amount) :
    Protects tolerance.value first later (ofInput tolerance.value first last later) := by
  have several : later ≠ [] := by
    rintro rfl
    cases ends
  have within : ⌊(last : ℚ) * (1 - tolerance.value)⌋₊ ≤ last := by
    rw [← lowered_eq_floor tolerable]
    apply Nat.div_le_of_le_mul
    rw [Nat.mul_comm]
    exact Nat.mul_le_mul_right last (Nat.sub_le _ _)
  have least : 1 ≤ last := positive last (List.mem_of_getLast? ends)
  have below : List.Forall₂ (· ≤ ·)
      (lastOnly ⌊(last : ℚ) * (1 - tolerance.value)⌋₊ later) later := by
    apply last_only_le positive
    intro amount same
    cases ends.symm.trans same
    exact within
  exact {
    transfer := rfl
    counted := length_last_only _ later
    between := fun index early => last_only_between _ later early
    last := ⟨last, ends, last_of_last_only _ several, Nat.max_le.mpr ⟨least, within⟩⟩
    met := by
      intro route simulated
      obtain ⟨outputs, goes, same⟩ := (map_ok_iff ..).mp simulated
      cases same
      exact meets_of_forward goes below }

theorem spreads_of_output (several : later ≠ []) (positive : 1 ≤ first) :
    Spreads tolerance.value first later (ofOutput (toleranceRatio tolerance) first later) := by
  have nonempty := List.length_pos_iff.mpr several
  have hops : (0 : ℚ) < later.length := Nat.cast_pos.mpr nonempty
  have scaled : 0 < later.length * (toleranceRatio tolerance).denominator :=
    Nat.mul_pos nonempty (place_value_pos _)
  have transfer : (ofOutput (toleranceRatio tolerance) first later).amountIn =
      ⌊(first : ℚ) * (1 + tolerance.value)⌋₊ := by
    rw [ofOutput, raised_eq_floor tolerable nonempty, div_self hops.ne', mul_one]
  exact {
    transfer := transfer
    least := le_raised scaled _ first
    most := by
      have raise := tolerable.2.1
      rw [transfer, Nat.floor_lt (by positivity), mul_comm]
      push_cast
      gcongr
      linarith [tolerable.2.2]
    counted := length_spread _ _ later
    limits := by
      intro index amount found
      have placed : index < later.length := (List.getElem?_eq_some_iff.mp found).1
      have left : ((later.length - 1 - index : ℕ) : ℚ) = (later.length : ℚ) - index - 1 := by
        rw [Nat.sub_sub, Nat.cast_sub (by omega)]
        push_cast
        ring
      have share : tolerance.value * (((later.length : ℚ) - index - 1) / later.length) ≤
          tolerance.value := by
        apply mul_le_of_le_one_right tolerable.2.1
        rw [div_le_one hops]
        linarith
      have floor := raised_eq_floor tolerable nonempty (later.length - 1 - index) amount
      rw [left] at floor
      refine ⟨_, (get_spread ..).trans (congrArg _ found), floor, le_raised scaled _ amount, ?_⟩
      rw [floor]
      gcongr
    last := last_of_spread scaled later }

end Exact

section Monotone
variable {lower higher : Decimal} (one : lower.Tolerable) (two : higher.Tolerable)
variable (within : lower.value ≤ higher.value)
include one two within

theorem raised_mono {hops : Nat} (positive : 0 < hops) (remaining : Nat) (amount : Amount) :
    raised hops (toleranceRatio lower) remaining amount ≤
      raised hops (toleranceRatio higher) remaining amount := by
  rw [raised_eq_floor one positive, raised_eq_floor two positive]
  gcongr

theorem spread_mono {hops : Nat} (positive : 0 < hops) (amounts : List Amount) :
    List.Forall₂ (· ≤ ·) (spread hops (toleranceRatio lower) amounts)
      (spread hops (toleranceRatio higher) amounts) := by
  induction amounts with
  | nil => exact .nil
  | cons amount rest ih => exact .cons (raised_mono one two within positive rest.length amount) ih

end Monotone

/-- A tolerance in range gives the exact bounds of both kinds of swap, a larger one looser bounds,
and one out of range none. -/
theorem bounds_exact (first : Amount) (later : List Amount) (several : later ≠ []) :
    (∀ tolerance : Decimal, tolerance.Tolerable → (∀ amount ∈ first :: later, 1 ≤ amount) →
      (∃ bounds, compute .fixedInput (first :: later) tolerance = .ok bounds ∧
        Protects tolerance.value first later bounds) ∧
      ∃ bounds, compute .fixedOutput (first :: later) tolerance = .ok bounds ∧
        Spreads tolerance.value first later bounds) ∧
    (∀ lower higher : Decimal, lower.value ≤ higher.value →
      (∀ one two, compute .fixedInput (first :: later) lower = .ok one →
        compute .fixedInput (first :: later) higher = .ok two →
        one.amountIn = two.amountIn ∧ List.Forall₂ (· ≤ ·) two.limits one.limits) ∧
      ∀ one two, compute .fixedOutput (first :: later) lower = .ok one →
        compute .fixedOutput (first :: later) higher = .ok two →
        one.amountIn ≤ two.amountIn ∧ List.Forall₂ (· ≤ ·) one.limits two.limits) ∧
    ∀ (tolerance : Decimal) type, ¬ tolerance.Tolerable →
      compute type (first :: later) tolerance = .error (.invalidAmount (.tolerance tolerance)) := by
  obtain ⟨last, ends⟩ : ∃ last, later.getLast? = some last :=
    ⟨_, List.getLast?_eq_getLast_of_ne_nil several⟩
  have nonempty := List.length_pos_iff.mpr several
  refine ⟨?_, ?_, fun tolerance type => compute_refused type first several⟩
  · intro tolerance tolerable positive
    obtain ⟨head, tail⟩ := List.forall_mem_cons.mp positive
    have bounded := (tolerable_iff tolerance).mp tolerable
    exact ⟨⟨_, compute_input_ok first ends tolerable, protects_of_input tolerable ends tail⟩,
      _, compute_output_ok first several bounded, spreads_of_output tolerable several head⟩
  · intro lower higher within
    refine ⟨fun one two low high => ?_, fun one two low high => ?_⟩
    · have below := (tolerable_iff lower).mpr (valid_of_compute low)
      have above := (tolerable_iff higher).mpr (valid_of_compute high)
      cases low.symm.trans (compute_input_ok first ends below)
      cases high.symm.trans (compute_input_ok first ends above)
      refine ⟨rfl, last_only_mono (Nat.floor_le_floor ?_) later⟩
      gcongr
    · have below := (tolerable_iff lower).mpr (valid_of_compute low)
      have above := (tolerable_iff higher).mpr (valid_of_compute high)
      cases low.symm.trans (compute_output_ok first several (valid_of_compute low))
      cases high.symm.trans (compute_output_ok first several (valid_of_compute high))
      exact ⟨raised_mono below above within nonempty _ first,
        spread_mono below above within nonempty later⟩

-- Half as tolerance leaves three of the seven units; a zero with a minus sign is refused.
theorem bounds_exact_half :
    Sample.half.Tolerable ∧ Decimal.zero.value ≤ Sample.half.value ∧
      ¬ (Decimal.whole true 0 (by decide)).Tolerable ∧
      Protects Sample.half.value 100 [1, 7] ⟨100, [1, 3]⟩ ∧
      Spreads Sample.half.value 100 [1, 7] ⟨150, [1, 7]⟩ ∧
      List.Forall₂ (· ≤ ·) [1, 3] [1, 7] ∧
      compute .fixedOutput [100, 1, 7] (Decimal.whole true 0 (by decide)) =
        .error (.invalidAmount (.tolerance (Decimal.whole true 0 (by decide)))) := by
  have tolerable : Sample.half.Tolerable := (tolerable_iff _).mpr (by decide +kernel)
  have zero : Decimal.zero.value = 0 := by
    rw [Decimal.value]
    exact zero_div _
  have minus : ¬ (Decimal.whole true 0 (by decide)).Tolerable := fun signed => by cases signed.1
  have sold : compute .fixedInput [100, 1, 7] Sample.half = .ok ⟨100, [1, 3]⟩ := rfl
  have bought : compute .fixedOutput [100, 1, 7] Sample.half = .ok ⟨150, [1, 7]⟩ := rfl
  obtain ⟨bounded, monotone, refused⟩ := bounds_exact 100 [1, 7] (by decide)
  obtain ⟨⟨low, input, protects⟩, high, output, spreads⟩ :=
    bounded Sample.half tolerable (by decide)
  cases sold.symm.trans input
  cases bought.symm.trans output
  have within : Decimal.zero.value ≤ Sample.half.value := zero ▸ tolerable.2.1
  have looser := (monotone _ _ within).1 ⟨100, [1, 7]⟩ ⟨100, [1, 3]⟩ rfl rfl
  exact ⟨tolerable, within, minus, protects, spreads, looser.2, refused _ .fixedOutput minus⟩

end SwapBounds
end PoolRouting
