import PoolRouting.Proofs.QuoteChoice

/-!
Whether the plan of a fixed output can be executed on the pools it was quoted from. The tolerance is
spread evenly over the hops while the price of a hop grows faster than what is asked of it, and
every amount is rounded down. So a hop can be executed exactly when what is at hand covers what is
asked by the inequality of the pool. That holds for the last hop and without a tolerance; elsewhere a
deep pool leaves at most one unit missing.
-/

namespace PoolRouting

/-- A hop of a plan: the pool as the trader meets it, what is at hand, and what is asked of it. -/
structure PlannedHop where
  reserves : Reserves
  fee : FeeRatio
  available : Amount
  asked : Amount

namespace PlannedHop

/-- The pool gives what is asked for no more than what is at hand. -/
def Executes (hop : PlannedHop) : Prop :=
  ∃ needed, Hop.input hop.reserves hop.fee hop.asked = .ok needed ∧ needed ≤ hop.available

/-- The inequality of the pool: what is asked leaves something in the reserve and is paid for. -/
def Covered (hop : PlannedHop) : Prop :=
  hop.asked < hop.reserves.output ∧
    hop.reserves.input * hop.asked * hop.fee.denominator ≤
      hop.available * ((hop.reserves.output - hop.asked) * hop.fee.keep)

end PlannedHop

/-- The hop at one place of a route under the bounds of a plan. The first hop has the amount that is
transferred, every other hop what was asked of the hop before it. -/
structure PlannedAt (route : Route) (bounds : SwapBounds) (index : Nat) (hop : PlannedHop) :
    Prop where
  pool : ∃ pool token, route.pools[index]? = some pool ∧ route.tokens[index]? = some token ∧
    pool.reservesFor? token = some hop.reserves ∧
      FeeRatio.ofDecimal? pool.feeFraction = some hop.fee
  available : (bounds.amountIn :: bounds.limits)[index]? = some hop.available
  asked : bounds.limits[index]? = some hop.asked

namespace Hop

-- With `kept` and `left` units in the reserve after the simulated and the raised request.
theorem exchange_raised (brought kept asked left scale share later : Nat)
    (same : brought + kept = asked + left)
    (raised : asked * scale ≤ brought * (scale + later * share))
    (deep : (later + 1) * asked ≤ asked + left) :
    kept * (asked * scale) ≤ (scale + (later + 1) * share) * (left * brought) := by
  have price := Nat.mul_le_mul_left (asked + left) raised
  have depth := Nat.mul_le_mul_right (share * brought) deep
  have total : (brought + kept) * (asked * scale) + (later + 1) * asked * (share * brought) ≤
      (asked + left) * (brought * (scale + later * share)) +
        (asked + left) * (share * brought) := by
    rw [same]
    exact Nat.add_le_add price depth
  have before : (brought + kept) * (asked * scale) + (later + 1) * asked * (share * brought) =
      kept * (asked * scale) + asked * brought * (scale + (later + 1) * share) := by ring
  have after : (asked + left) * (brought * (scale + later * share)) +
      (asked + left) * (share * brought) = (scale + (later + 1) * share) * (left * brought) +
        asked * brought * (scale + (later + 1) * share) := by ring
  rw [before, after] at total
  exact Nat.le_of_add_le_add_right total

-- The deeper the pool, the closer the price of the raised request stays to a proportional one; that
-- is what the larger margin of the amount at hand pays for.
theorem releases_raised {reserves : Reserves} {fee : FeeRatio}
    {paid brought available asked : Amount} {scale share later : Nat} (scaled : 0 < scale)
    (simulated : Releases reserves fee paid brought)
    (raised : asked * scale ≤ brought * (scale + later * share))
    (enough : paid * (scale + (later + 1) * share) ≤ available * scale)
    (within : asked < reserves.output) (deep : (later + 1) * asked ≤ reserves.output) :
    Releases reserves fee available asked := by
  obtain ⟨filled, below, covered⟩ := simulated
  refine ⟨filled, within, ?_⟩
  rcases Nat.eq_zero_or_pos brought with rfl | positive
  · have nothing : asked = 0 := by
      rw [Nat.zero_mul] at raised
      exact (Nat.mul_eq_zero.mp (Nat.le_zero.mp raised)).resolve_right (Nat.ne_of_gt scaled)
    rw [nothing, Nat.mul_zero, Nat.zero_mul]
    exact Nat.zero_le _
  obtain ⟨kept, held⟩ := Nat.exists_eq_add_of_le (Nat.le_of_lt below)
  obtain ⟨left, remains⟩ := Nat.exists_eq_add_of_le (Nat.le_of_lt within)
  have exchange := exchange_raised brought kept asked left scale share later
    (held.symm.trans remains) raised (remains ▸ deep)
  rw [held, Nat.add_sub_cancel_left] at covered
  rw [remains, Nat.add_sub_cancel_left]
  apply Nat.le_of_mul_le_mul_right _ (Nat.mul_pos positive scaled)
  calc
    reserves.input * asked * fee.denominator * (brought * scale) =
        reserves.input * brought * fee.denominator * (asked * scale) := by ring
    _ ≤ paid * (kept * fee.keep) * (asked * scale) := Nat.mul_le_mul_right _ covered
    _ = paid * fee.keep * (kept * (asked * scale)) := by ring
    _ ≤ paid * fee.keep * ((scale + (later + 1) * share) * (left * brought)) :=
      Nat.mul_le_mul_left _ exchange
    _ = paid * (scale + (later + 1) * share) * (fee.keep * left * brought) := by ring
    _ ≤ available * scale * (fee.keep * left * brought) := Nat.mul_le_mul_right _ enough
    _ = available * (left * fee.keep) * (brought * scale) := by ring

end Hop

namespace PlannedHop

theorem executes_iff (hop : PlannedHop) (scaled : 0 < hop.fee.denominator) :
    hop.Executes ↔ Hop.Releases hop.reserves hop.fee hop.available hop.asked :=
  Hop.input_covers_iff hop.reserves hop.fee hop.available hop.asked scaled

end PlannedHop

section Plan
variable {route : Route} {wanted first : Amount} {later : List Amount} {tolerance : Fraction}

theorem planned_at_exists (found : Route.backward wanted route.hops = .ok (first, later))
    {index : Nat} (within : index < later.length) :
    ∃ hop, PlannedAt route (SwapBounds.ofOutput tolerance first later) index hop := by
  obtain ⟨counted, steps⟩ := Route.backward_steps found
  have placed : index < route.hops.length := counted ▸ within
  obtain ⟨paid, brought, before, after, bought⟩ :=
    steps index _ _ (List.getElem?_eq_getElem placed)
  obtain ⟨token, pool⟩ := List.getElem?_zip_eq_some.mp (List.getElem?_eq_getElem placed)
  obtain ⟨reserves, fee, held, taken, _⟩ := (Pool.buy_ok_iff ..).mp bought
  have plan := SwapBounds.get_of_output tolerance first later
  have available := (plan index).trans (congrArg (Option.map _) before)
  have asked := (plan (index + 1)).trans (congrArg (Option.map _) after)
  exact ⟨⟨reserves, fee, SwapBounds.raised _ tolerance _ paid,
    SwapBounds.raised _ tolerance _ brought⟩, ⟨_, _, pool, token, held, taken⟩, available, asked⟩

-- A hop of the plan is a hop of the simulation with its two amounts raised, the amount paid by one
-- share more than the amount bought.
theorem planned_at_raised (found : Route.backward wanted route.hops = .ok (first, later))
    {index : Nat} {hop : PlannedHop}
    (planned : PlannedAt route (SwapBounds.ofOutput tolerance first later) index hop) :
    index < later.length ∧ 0 < hop.fee.denominator ∧ ∃ paid brought,
      Hop.Releases hop.reserves hop.fee paid brought ∧
      hop.available = SwapBounds.raised later.length tolerance (later.length - index) paid ∧
      hop.asked =
        SwapBounds.raised later.length tolerance (later.length - (index + 1)) brought := by
  obtain ⟨⟨pool, token, through, sold, held, taken⟩, available, asked⟩ := planned
  obtain ⟨counted, steps⟩ := Route.backward_steps found
  have placed : route.hops[index]? = some (token, pool) :=
    List.getElem?_zip_eq_some.mpr ⟨sold, through⟩
  obtain ⟨paid, brought, before, after, bought⟩ := steps index token pool placed
  obtain ⟨reserves, fee, heldToo, takenToo, computed⟩ := (Pool.buy_ok_iff ..).mp bought
  cases held.symm.trans heldToo
  cases taken.symm.trans takenToo
  have scaled := denominator_pos taken
  have plan := SwapBounds.get_of_output tolerance first later
  have within : index < later.length := (List.getElem?_eq_some_iff.mp after).1
  refine ⟨within, scaled, paid, brought, ?_, ?_, ?_⟩
  · exact (Hop.input_covers_iff _ _ _ _ scaled).mp ⟨paid, computed, Nat.le_refl paid⟩
  · exact Option.some.inj (available.symm.trans ((plan index).trans (congrArg _ before)))
  · exact Option.some.inj (asked.symm.trans ((plan (index + 1)).trans (congrArg _ after)))

theorem planned_executes_iff (found : Route.backward wanted route.hops = .ok (first, later))
    {index : Nat} {hop : PlannedHop}
    (planned : PlannedAt route (SwapBounds.ofOutput tolerance first later) index hop) :
    hop.Executes ↔ hop.Covered := by
  obtain ⟨_, scaled, paid, brought, ⟨filled, _⟩, _⟩ := planned_at_raised found planned
  rw [PlannedHop.executes_iff hop scaled, Hop.Releases, PlannedHop.Covered]
  exact and_iff_right filled

-- Where nothing is added to the request, what is at hand is at least what the simulation paid.
theorem planned_executes (found : Route.backward wanted route.hops = .ok (first, later))
    (scaled : 0 < tolerance.denominator) {index : Nat} {hop : PlannedHop}
    (planned : PlannedAt route (SwapBounds.ofOutput tolerance first later) index hop)
    (unraised : index + 1 = later.length ∨ tolerance.numerator = 0) : hop.Executes := by
  obtain ⟨within, charged, paid, brought, released, available, asked⟩ :=
    planned_at_raised found planned
  have scale : 0 < later.length * tolerance.denominator := Nat.mul_pos (by omega) scaled
  have nothing : (later.length - (index + 1)) * tolerance.numerator = 0 := by
    rcases unraised with last | free
    · rw [last, Nat.sub_self, Nat.zero_mul]
    · rw [free, Nat.mul_zero]
  have same : hop.asked = brought :=
    asked.trans (SwapBounds.raised_by_nothing scale brought nothing)
  have enough : paid ≤ hop.available := available ▸ SwapBounds.le_raised scale _ paid
  obtain ⟨needed, bought, below⟩ := (Hop.input_covers_iff _ _ _ _ charged).mpr released
  exact ⟨needed, same ▸ bought, Nat.le_trans below enough⟩

-- The amount at hand loses less than one unit to rounding.
theorem planned_executes_with_one_more
    (found : Route.backward wanted route.hops = .ok (first, later))
    (scaled : 0 < tolerance.denominator) {index : Nat} {hop : PlannedHop}
    (planned : PlannedAt route (SwapBounds.ofOutput tolerance first later) index hop)
    (deep : (later.length - index) * hop.asked ≤ hop.reserves.output) :
    { hop with available := hop.available + 1 }.Executes := by
  obtain ⟨within, charged, paid, brought, released, available, asked⟩ :=
    planned_at_raised found planned
  have scale : 0 < later.length * tolerance.denominator := Nat.mul_pos (by omega) scaled
  obtain ⟨remaining, left⟩ : ∃ remaining, later.length - index = remaining + 1 :=
    ⟨later.length - index - 1, by omega⟩
  have after : later.length - (index + 1) = remaining := by omega
  rw [left] at available deep
  rw [after] at asked
  have held := released.2.1
  have within : hop.asked < hop.reserves.output := by
    rcases Nat.eq_zero_or_pos remaining with rfl | more
    · rw [asked, SwapBounds.raised_by_nothing scale brought (Nat.zero_mul _)]
      exact held
    · have twice : 2 * hop.asked ≤ hop.reserves.output :=
        Nat.le_trans (Nat.mul_le_mul_right hop.asked (Nat.succ_le_succ more)) deep
      unfold Amount at *
      omega
  have raised := SwapBounds.raised_mul_le later.length tolerance remaining brought
  have enough := Nat.le_of_lt (SwapBounds.lt_raised_succ scale (remaining + 1) paid)
  rw [← asked] at raised
  rw [← available] at enough
  have covered := Hop.releases_raised scale released raised enough within deep
  exact (PlannedHop.executes_iff { hop with available := hop.available + 1 } charged).mpr covered

end Plan

namespace Quote

theorem plan_executes_iff (config : RouterConfig) (ledger : Ledger) (inquiry : Inquiry)
    (reads : Reads) (quote : Quote)
    (quoted : (compute config ledger inquiry).answer reads = .ok quote)
    (fixed : quote.type = .fixedOutput) :
    ∃ bounds, SwapBounds.compute quote.type quote.route.amounts quote.tolerance = .ok bounds ∧
      bounds.amountIn = quote.amountIn ∧
      (∀ index < quote.route.hopCount, ∃ hop, PlannedAt quote.route.route bounds index hop) ∧
      ∀ index hop, PlannedAt quote.route.route bounds index hop →
        (hop.Executes ↔ hop.Covered) ∧
        (index + 1 = quote.route.hopCount ∨ quote.tolerance.mantissa = 0 → hop.Executes) ∧
        ((quote.route.hopCount - index) * hop.asked ≤ hop.reserves.output →
          { hop with available := hop.available + 1 }.Executes) := by
  obtain ⟨pools, graph, facts, ready⟩ := ready_of_answer quoted
  rw [answer_of_ready reads ready, assemble_ok_iff] at quoted
  obtain ⟨best, amountIn, chosen, paid, rfl⟩ := quoted
  have offer := (best_route_spec ready.accepted chosen).1
  generalize directionOf inquiry facts = direction at *
  obtain ⟨type, wanted⟩ := direction
  cases fixed
  have bounded := valid_of_max_amount_in paid
  obtain ⟨_, _, first, later, found, same⟩ := (Route.simulate_output_iff ..).mp offer.simulated
  have counted : later.length = best.route.pools.length := by
    rw [(Route.backward_steps found).1, Route.hops, List.length_zip,
      joined_length offer.admissible.joined]
    omega
  have moves := offer.admissible.moves
  have several : later ≠ [] := List.ne_nil_of_length_pos (by omega)
  have scaled : 0 < (toleranceRatio inquiry.tolerance).denominator := place_value_pos _
  have amounts : best.amounts = first :: later := congrArg SimulatedRoute.amounts same
  have computed := SwapBounds.compute_output_ok first several bounded
  have transfer : (SwapBounds.ofOutput (toleranceRatio inquiry.tolerance) first later).amountIn =
      amountIn := by
    have entry : best.amountIn = first := by rw [SimulatedRoute.amountIn, amounts]; rfl
    have raised := Except.ok.inj ((max_amount_in_ok best.amountIn bounded).symm.trans paid)
    rw [← raised, entry]
    exact SwapBounds.raised_by_all (List.length_pos_iff.mpr several) _ first
  refine ⟨_, amounts ▸ computed, transfer, ?_, ?_⟩
  · intro index within
    exact planned_at_exists found (counted ▸ within)
  · intro index hop planned
    refine ⟨planned_executes_iff found planned, ?_, ?_⟩
    · intro unraised
      exact planned_executes found scaled planned (counted ▸ unraised)
    · intro deep
      exact planned_executes_with_one_more found scaled planned (counted ▸ deep)

-- The request to the first pool is raised past its reserve; the last hop is not affected.
theorem plan_executes_last_only :
    ∃ quote bounds first last,
      (compute .default Sample.ledger (Sample.inquiry ⟨.fixedOutput, 990⟩)).answer .zero =
        .ok quote ∧ quote.type = .fixedOutput ∧
      SwapBounds.compute quote.type quote.route.amounts quote.tolerance = .ok bounds ∧
      (PlannedAt quote.route.route bounds 0 first ∧ ¬ first.Executes) ∧
      PlannedAt quote.route.route bounds 1 last ∧ last.Executes := by
  have quoted := Sample.quoted 990 212784 [141856, 992979, 990] rfl rfl
  obtain ⟨bounds, computed, _, placed, decided⟩ := plan_executes_iff .default Sample.ledger
    (Sample.inquiry ⟨.fixedOutput, 990⟩) .zero _ quoted rfl
  cases computed
  have before : PlannedAt Sample.longRoute ⟨212784, [1241223, 990]⟩ 0
      ⟨⟨1000, 1000000⟩, ⟨997, 1000⟩, 212784, 1241223⟩ :=
    ⟨⟨Sample.first, Sample.usdc, rfl, rfl, rfl, rfl⟩, rfl, rfl⟩
  obtain ⟨last, planned⟩ := placed 1 (by decide)
  refine ⟨_, _, _, last, quoted, rfl, rfl, ⟨before, ?_⟩, planned, ?_⟩
  · rw [(decided 0 _ before).1, PlannedHop.Covered]
    decide
  · exact (decided 1 last planned).2.1 (Or.inl rfl)

-- One unit is transferred, and the raised request to the first pool costs two.
theorem plan_can_fall_short :
    ¬ ∀ (config : RouterConfig) (ledger : Ledger) (inquiry : Inquiry) (reads : Reads)
        (quote : Quote) (bounds : SwapBounds),
      config.fault? = none → inquiry.check = .ok () →
      (compute config ledger inquiry).answer reads = .ok quote → quote.type = .fixedOutput →
      SwapBounds.compute quote.type quote.route.amounts quote.tolerance = .ok bounds →
      ∀ index hop, PlannedAt quote.route.route bounds index hop → hop.Executes := by
  intro claimed
  have quoted := Sample.quoted 80 1 [1, 873, 80] rfl rfl
  have planned : PlannedAt Sample.longRoute ⟨1, [1091, 80]⟩ 0
      ⟨⟨1000, 1000000⟩, ⟨997, 1000⟩, 1, 1091⟩ :=
    ⟨⟨Sample.first, Sample.usdc, rfl, rfl, rfl, rfl⟩, rfl, rfl⟩
  obtain ⟨needed, bought, within⟩ :=
    claimed .default Sample.ledger _ .zero _ _ rfl rfl quoted rfl rfl 0 _ planned
  have two : Hop.input ⟨1000, 1000000⟩ ⟨997, 1000⟩ 1091 = .ok 2 := rfl
  cases two.symm.trans bought
  exact absurd within (by decide)

end Quote
end PoolRouting
