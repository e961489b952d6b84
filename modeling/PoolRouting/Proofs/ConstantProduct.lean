import PoolRouting.Proofs.HopTrade

/-!
The product of the reserves. Whatever is sold, a pool gives less than it holds, and the product of
its reserves does not fall: the output is rounded down, the input is rounded up, and the fee stays
in the pool. So no run of trades against one pool, in whatever directions, lowers the product or
drains a side, and selling back what was bought brings at most what was paid.
-/

namespace PoolRouting
namespace Reserves

def product (reserves : Reserves) : Nat := reserves.input * reserves.output

/-- The reserves as seen by a trader who goes the other way. -/
def turned (reserves : Reserves) : Reserves := ⟨reserves.output, reserves.input⟩

/-- The reserves behind a trade. -/
def traded (reserves : Reserves) (sold bought : Amount) : Reserves :=
  ⟨reserves.input + sold, reserves.output - bought⟩

/-- Both sides hold something. -/
def Filled (reserves : Reserves) : Prop := 0 < reserves.input ∧ 0 < reserves.output

theorem product_turned (reserves : Reserves) : reserves.turned.product = reserves.product :=
  Nat.mul_comm _ _

theorem filled_turned {reserves : Reserves} (filled : reserves.Filled) : reserves.turned.Filled :=
  filled.symm

end Reserves

namespace Hop

/-- One amount buys the other: at the output of a sale or at the input of a purchase. -/
def Trades (reserves : Reserves) (fee : FeeRatio) (sold bought : Amount) : Prop :=
  output reserves fee sold = .ok bought ∨ input reserves fee bought = .ok sold

-- The last check of a sale never refuses, and a sale of nothing brings what the quotient says.
theorem output_of_filled {reserves : Reserves} {fee : FeeRatio} (filled : reserves.Filled)
    (scaled : 0 < fee.denominator) (sold : Amount) :
    output reserves fee sold =
      .ok (reserves.output * (sold * fee.keep) /
        (reserves.input * fee.denominator + sold * fee.keep)) := by
  obtain ⟨depth, reserve⟩ := filled
  have present : ¬ (reserves.input = 0 ∨ reserves.output = 0) :=
    not_or.mpr ⟨Nat.ne_of_gt depth, Nat.ne_of_gt reserve⟩
  have deep : 0 < reserves.input * fee.denominator := Nat.mul_pos depth scaled
  have below := output_lt_reserve reserves.input reserves.output fee.denominator (sold * fee.keep)
    deep reserve
  unfold output
  rw [if_neg present]
  by_cases nothing : sold = 0
  · simp [nothing]
  · rw [if_neg nothing]
    exact if_neg (Nat.not_le_of_lt below)

theorem output_ok_iff (reserves : Reserves) {fee : FeeRatio} (scaled : 0 < fee.denominator)
    (sold : Amount) :
    (∃ bought, output reserves fee sold = .ok bought) ↔ reserves.Filled := by
  constructor
  · rintro ⟨bought, sale⟩
    unfold output at sale
    split at sale
    · cases sale
    case isFalse present =>
      obtain ⟨depth, reserve⟩ := not_or.mp present
      exact ⟨Nat.pos_of_ne_zero depth, Nat.pos_of_ne_zero reserve⟩
  · intro filled
    exact ⟨_, output_of_filled filled scaled sold⟩

theorem input_ok_iff (reserves : Reserves) {fee : FeeRatio} (keeps : 0 < fee.keep)
    (wanted : Amount) :
    (∃ needed, input reserves fee wanted = .ok needed) ↔
      0 < reserves.input ∧ wanted < reserves.output := by
  rw [← Nat.ne_zero_iff_zero_lt, ← Nat.not_le, ← not_or]
  unfold input
  split
  case isTrue short => simp [short]
  case isFalse long =>
    refine iff_of_true ?_ long
    by_cases nothing : wanted = 0
    · exact ⟨0, if_pos nothing⟩
    · rw [if_neg nothing, if_neg (Nat.ne_of_gt keeps)]
      exact ⟨_, rfl⟩

section Product
variable {reserves : Reserves} {fee : FeeRatio} {sold bought : Amount}
variable (scaled : 0 < fee.denominator)
include scaled

theorem releases_of_trades (trades : Trades reserves fee sold bought) :
    Releases reserves fee sold bought := by
  rcases trades with sale | purchase
  · obtain ⟨depth, reserve⟩ := (output_ok_iff reserves scaled sold).mp ⟨bought, sale⟩
    rcases Nat.eq_zero_or_pos bought with rfl | positive
    · refine ⟨Nat.ne_of_gt depth, reserve, ?_⟩
      rw [Nat.mul_zero, Nat.zero_mul]
      exact Nat.zero_le _
    · exact (output_covers_iff reserves fee sold bought scaled positive).mp
        ⟨bought, sale, Nat.le_refl bought⟩
  · exact (input_covers_iff reserves fee sold bought scaled).mp ⟨sold, purchase, Nat.le_refl sold⟩

variable (within : fee.keep ≤ fee.denominator)
include within

-- The pool keeps the fee, so without it the trader's side of the inequality only grows.
theorem paid_in_full (released : Releases reserves fee sold bought) :
    reserves.input * bought ≤ sold * (reserves.output - bought) := by
  apply Nat.le_of_mul_le_mul_right _ scaled
  calc reserves.input * bought * fee.denominator
      ≤ sold * ((reserves.output - bought) * fee.keep) := released.2.2
    _ ≤ sold * ((reserves.output - bought) * fee.denominator) :=
        Nat.mul_le_mul_left _ (Nat.mul_le_mul_left _ within)
    _ = sold * (reserves.output - bought) * fee.denominator := (Nat.mul_assoc ..).symm

theorem trade_keeps_product (trades : Trades reserves fee sold bought) :
    reserves.product ≤ (reserves.traded sold bought).product := by
  have released := releases_of_trades scaled trades
  have paid := paid_in_full scaled within released
  obtain ⟨left, held⟩ := Nat.exists_eq_add_of_le (Nat.le_of_lt released.2.1)
  rw [held, Nat.add_sub_cancel_left] at paid
  simp only [Reserves.product, Reserves.traded]
  rw [held, Nat.add_sub_cancel_left, Nat.mul_add, Nat.add_mul, Nat.add_comm]
  exact Nat.add_le_add_left paid _

omit within in
theorem trade_leaves_filled (trades : Trades reserves fee sold bought) :
    (reserves.traded sold bought).Filled := by
  obtain ⟨depth, short, _⟩ := releases_of_trades scaled trades
  exact ⟨Nat.add_pos_left (Nat.pos_of_ne_zero depth) sold, Nat.sub_pos_of_lt short⟩

end Product

/-- Trades one after the other against one pool, from either side. -/
inductive Run (fee : FeeRatio) : Reserves → Reserves → Prop where
  | rest (reserves : Reserves) : Run fee reserves reserves
  | turn {before after : Reserves} (later : Run fee before.turned after) : Run fee before after
  | trade {before after : Reserves} {sold bought : Amount}
      (trades : Trades before fee sold bought)
      (later : Run fee (before.traded sold bought) after) : Run fee before after

theorem run_keeps_product {fee : FeeRatio} (scaled : 0 < fee.denominator)
    (within : fee.keep ≤ fee.denominator) {before after : Reserves}
    (run : Run fee before after) : before.product ≤ after.product := by
  induction run with
  | rest reserves => exact Nat.le_refl _
  | turn later ih => exact Nat.le_trans (Nat.le_of_eq (Reserves.product_turned _).symm) ih
  | trade trades later ih => exact Nat.le_trans (trade_keeps_product scaled within trades) ih

theorem run_leaves_filled {fee : FeeRatio} (scaled : 0 < fee.denominator)
    {before after : Reserves} (run : Run fee before after) (filled : before.Filled) :
    after.Filled := by
  induction run with
  | rest reserves => exact filled
  | turn later ih => exact ih (Reserves.filled_turned filled)
  | trade trades later ih => exact ih (trade_leaves_filled scaled trades)

-- There and back is a run that ends with the output as it was, so the input cannot have shrunk.
theorem returned_le {reserves : Reserves} {fee : FeeRatio} {sold bought returned : Amount}
    (scaled : 0 < fee.denominator) (within : fee.keep ≤ fee.denominator)
    (trades : Trades reserves fee sold bought)
    (back : output (reserves.traded sold bought).turned fee bought = .ok returned) :
    returned ≤ sold := by
  have run : Run fee reserves ((reserves.traded sold bought).turned.traded bought returned) :=
    .trade trades (.turn (.trade (Or.inl back) (.rest _)))
  have kept := run_keeps_product scaled within run
  obtain ⟨_, short, _⟩ := releases_of_trades scaled trades
  obtain ⟨_, less, _⟩ := releases_of_trades scaled (Or.inl back)
  have again : reserves.output - bought + bought = reserves.output :=
    Nat.sub_add_cancel (Nat.le_of_lt short)
  simp only [Reserves.product, Reserves.traded, Reserves.turned, again] at kept less
  rw [Nat.mul_comm] at kept
  have shrunk := Nat.le_of_mul_le_mul_left kept (Nat.zero_lt_of_lt short)
  unfold Amount at *
  omega

/-- A sale needs two filled sides, and a purchase leaves something of what it takes; beyond that no
trade is refused. Every trade keeps the product and cannot be undone at a gain. -/
theorem no_trade_drains (reserves : Reserves) {charged : Decimal} {fee : FeeRatio}
    (taken : FeeRatio.ofDecimal? charged = some fee) :
    (∀ sold, (∃ bought, output reserves fee sold = .ok bought) ↔
      0 < reserves.input ∧ 0 < reserves.output) ∧
    (∀ wanted, (∃ needed, input reserves fee wanted = .ok needed) ↔
      0 < reserves.input ∧ wanted < reserves.output) ∧
    0 < fee.keep ∧
    (0 < reserves.input → 0 < reserves.output → ∀ sold,
      reserves.output * (sold * fee.keep) /
        (reserves.input * fee.denominator + sold * fee.keep) < reserves.output) ∧
    ∀ sold bought, Trades reserves fee sold bought →
      bought < reserves.output ∧
      reserves.input * reserves.output ≤
        (reserves.input + sold) * (reserves.output - bought) ∧
      ∃ returned, output ⟨reserves.output - bought, reserves.input + sold⟩ fee bought =
        .ok returned ∧ returned ≤ sold := by
  obtain ⟨keeps, within⟩ := ratio_bounds taken
  have scaled := denominator_pos taken
  refine ⟨output_ok_iff reserves scaled, input_ok_iff reserves keeps, keeps, ?_, ?_⟩
  · intro depth reserve sold
    exact output_lt_reserve _ _ _ _ (Nat.mul_pos depth scaled) reserve
  · intro sold bought trades
    refine ⟨(releases_of_trades scaled trades).2.1, trade_keeps_product scaled within trades, ?_⟩
    have filled := Reserves.filled_turned (trade_leaves_filled scaled trades)
    obtain ⟨returned, back⟩ := (output_ok_iff _ scaled bought).mpr filled
    exact ⟨returned, back, returned_le scaled within trades back⟩

-- Two units buy 1990 of a million, and those sold back bring one of the two.
theorem no_trade_drains_small :
    FeeRatio.ofDecimal? ⟨false, 3, 3, by decide, by decide⟩ = some ⟨997, 1000⟩ ∧
      Trades ⟨1000, 1000000⟩ ⟨997, 1000⟩ 2 1990 ∧ 1990 < 1000000 ∧
      1000 * 1000000 ≤ (1000 + 2) * (1000000 - 1990) ∧
      ∃ returned, output ⟨1000000 - 1990, 1000 + 2⟩ ⟨997, 1000⟩ 1990 = .ok returned ∧
        returned ≤ 2 := by
  have charged : FeeRatio.ofDecimal? ⟨false, 3, 3, by decide, by decide⟩ = some ⟨997, 1000⟩ := rfl
  have trades : Trades ⟨1000, 1000000⟩ ⟨997, 1000⟩ 2 1990 := Or.inl rfl
  obtain ⟨_, _, _, _, kept⟩ := no_trade_drains ⟨1000, 1000000⟩ charged
  exact ⟨charged, trades, kept 2 1990 trades⟩

end Hop
end PoolRouting
