import PoolRouting.Proofs.QuoteChoice

/-!
Quotes for a fixed output and quotes for a fixed input answer each other. Route by route this is the
adjunction of the simulation; the two selections may take different routes, but the least input and
the largest output are taken over the same admissible routes.
-/

namespace PoolRouting

namespace Inquiry

/-- The question for what a fixed input brings. -/
def selling (inquiry : Inquiry) (paid : Amount) : Inquiry :=
  { inquiry with direction := some ⟨.fixedInput, paid⟩ }

/-- The question for what a fixed output costs. -/
def buying (inquiry : Inquiry) (wanted : Amount) : Inquiry :=
  { inquiry with direction := some ⟨.fixedOutput, wanted⟩ }

end Inquiry

/-- `sell` quotes fixed inputs and `buy` quotes fixed outputs of one pair. -/
structure Duality (sell buy : Amount → Except RouterError Quote) : Prop where
  adjoint : ∀ paid wanted, 1 ≤ wanted →
    ((∃ quote, buy wanted = .ok quote ∧ quote.route.amountIn ≤ paid) ↔
      ∃ quote, sell paid = .ok quote ∧ wanted ≤ quote.amountOut)
  enough : ∀ wanted quote, 1 ≤ wanted → buy wanted = .ok quote →
    ∃ other, sell quote.route.amountIn = .ok other ∧ wanted ≤ other.amountOut
  least : ∀ wanted quote paid other, 1 ≤ wanted → buy wanted = .ok quote →
    sell paid = .ok other → wanted ≤ other.amountOut → quote.route.amountIn ≤ paid
  fails : ∀ wanted, 1 ≤ wanted →
    ((∃ error, buy wanted = .error error) ↔
      ∀ paid quote, 1 ≤ paid → sell paid = .ok quote → quote.amountOut < wanted)
  sellMonotone : ∀ less more quote, 1 ≤ less → less ≤ more → sell less = .ok quote →
    ∃ other, sell more = .ok other ∧ quote.amountOut ≤ other.amountOut
  buyMonotone : ∀ less more quote, 1 ≤ less → less ≤ more → buy more = .ok quote →
    ∃ other, buy less = .ok other ∧ other.route.amountIn ≤ quote.route.amountIn ∧
      other.amountIn ≤ quote.amountIn

-- All of it follows from the adjunction once no quote costs or brings nothing.
theorem duality_of_adjoint {sell buy : Amount → Except RouterError Quote}
    (adjoint : ∀ paid wanted, 1 ≤ wanted →
      ((∃ quote, buy wanted = .ok quote ∧ quote.route.amountIn ≤ paid) ↔
        ∃ quote, sell paid = .ok quote ∧ wanted ≤ quote.amountOut))
    (costs : ∀ wanted quote, 1 ≤ wanted → buy wanted = .ok quote → 1 ≤ quote.route.amountIn)
    (brings : ∀ paid quote, 1 ≤ paid → sell paid = .ok quote → 1 ≤ quote.amountOut)
    (raised : ∀ left right quote other, buy left = .ok quote → buy right = .ok other →
      quote.route.amountIn ≤ other.route.amountIn → quote.amountIn ≤ other.amountIn) :
    Duality sell buy := by
  have enough : ∀ wanted quote, 1 ≤ wanted → buy wanted = .ok quote →
      ∃ other, sell quote.route.amountIn = .ok other ∧ wanted ≤ other.amountOut :=
    fun wanted quote positive bought =>
      (adjoint _ wanted positive).mp ⟨quote, bought, Nat.le_refl _⟩
  refine { adjoint, enough, least := ?_, fails := ?_, sellMonotone := ?_, buyMonotone := ?_ }
  · intro wanted quote paid other positive bought sold covered
    obtain ⟨same, again, within⟩ := (adjoint paid wanted positive).mpr ⟨other, sold, covered⟩
    cases bought.symm.trans again
    exact within
  · intro wanted positive
    constructor
    · rintro ⟨error, failed⟩ paid quote _ sold
      apply Nat.lt_of_not_le
      intro covered
      obtain ⟨other, bought, _⟩ := (adjoint paid wanted positive).mpr ⟨quote, sold, covered⟩
      cases failed.symm.trans bought
    · intro short
      cases bought : buy wanted with
      | error error => exact ⟨error, rfl⟩
      | ok quote =>
        obtain ⟨other, sold, covered⟩ := enough wanted quote positive bought
        have below := short _ other (costs wanted quote positive bought) sold
        exact (Nat.not_lt_of_le covered below).elim
  · intro less more quote positive within sold
    have brought := brings less quote positive sold
    obtain ⟨other, bought, cheap⟩ := (adjoint less _ brought).mpr ⟨quote, sold, Nat.le_refl _⟩
    exact (adjoint more _ brought).mp ⟨other, bought, Nat.le_trans cheap within⟩
  · intro less more quote positive within bought
    obtain ⟨other, sold, covered⟩ := enough more quote (Nat.le_trans positive within) bought
    obtain ⟨cheaper, found, cheap⟩ :=
      (adjoint _ less positive).mpr ⟨other, sold, Nat.le_trans within covered⟩
    exact ⟨cheaper, found, cheap, raised less more cheaper quote found bought cheap⟩

namespace SimulatedRoute

theorem open_amount_of_order {type : SwapType} {left right : SimulatedRoute}
    (ahead : (order type left right).isLE = true) : ¬ Gains type right left := by
  intro gains
  have behind : order type right left = .lt :=
    (order_lt_iff type right left).mpr (.byAmount gains)
  exact Std.OrientedCmp.not_isLE_of_lt behind ahead

end SimulatedRoute

namespace Quote
section Market
variable {config : RouterConfig} {ledger : Ledger} {inquiry : Inquiry} {pools : List Pool}
  {graph : LiquidityGraph} {facts : PairFacts}

/-- A quote keeps to a bound exactly when some offer does. -/
theorem quote_within_iff (inquiry : Inquiry) (reads : Reads)
    (ready : Ready config ledger inquiry.tokenIn inquiry.tokenOut pools graph facts)
    (bounded : validTolerance inquiry.tolerance = true) (keeps : SimulatedRoute → Prop)
    (upward : ∀ best other,
      ¬ SimulatedRoute.Gains (directionOf inquiry facts).type other best → keeps other → keeps best) :
    (∃ quote, (compute config ledger inquiry).answer reads = .ok quote ∧ keeps quote.route) ↔
      ∃ offered, Offer config inquiry.tokenIn inquiry.tokenOut pools (directionOf inquiry facts)
        offered ∧ keeps offered := by
  constructor
  · rintro ⟨quote, quoted, kept⟩
    have found := (answer_ok_route inquiry reads ready quoted).1
    exact ⟨quote.route, (best_route_spec ready.accepted found).1, kept⟩
  · rintro ⟨offered, offer, kept⟩
    rcases best_route_cases config inquiry ready.accepted (directionOf inquiry facts) with
      ⟨best, found⟩ | ⟨unoffered, _⟩
    · obtain ⟨quote, quoted, rfl⟩ := answer_of_best_route reads ready bounded found
      have ahead := (best_route_spec ready.accepted found).2 offered offer
      have level := SimulatedRoute.open_amount_of_order ahead
      exact ⟨quote, quoted, upward quote.route offered level kept⟩
    · exact (unoffered offered offer).elim

/-- The offers of the two directions are dual, each on its own route. -/
theorem offers_dual (paid wanted : Amount) (positive : 0 < wanted) :
    (∃ offered, Offer config inquiry.tokenIn inquiry.tokenOut pools ⟨.fixedOutput, wanted⟩ offered ∧
        offered.amountIn ≤ paid) ↔
      ∃ offered, Offer config inquiry.tokenIn inquiry.tokenOut pools ⟨.fixedInput, paid⟩ offered ∧
        wanted ≤ offered.amountOut := by
  constructor
  · rintro ⟨offered, ⟨admissible, found⟩, within⟩
    obtain ⟨other, sold, covered⟩ :=
      (offered.route.simulate_output_le_iff_input paid wanted positive).mp ⟨offered, found, within⟩
    have same := Route.simulate_route sold
    exact ⟨other, ⟨same ▸ admissible, same ▸ sold⟩, covered⟩
  · rintro ⟨offered, ⟨admissible, found⟩, covered⟩
    obtain ⟨other, bought, within⟩ :=
      (offered.route.simulate_output_le_iff_input paid wanted positive).mpr
        ⟨offered, found, covered⟩
    have same := Route.simulate_route bought
    exact ⟨other, ⟨same ▸ admissible, same ▸ bought⟩, within⟩

theorem offer_costs {wanted : Amount} {offered : SimulatedRoute} (positive : 0 < wanted)
    (offer : Offer config inquiry.tokenIn inquiry.tokenOut pools ⟨.fixedOutput, wanted⟩ offered) :
    0 < offered.amountIn := by
  obtain ⟨_, _, first, later, found, same⟩ := (Route.simulate_output_iff ..).mp offer.simulated
  rw [same]
  exact Route.backward_pos positive found

theorem offer_brings {paid : Amount} {offered : SimulatedRoute} (positive : 0 < paid)
    (offer : Offer config inquiry.tokenIn inquiry.tokenOut pools ⟨.fixedInput, paid⟩ offered) :
    0 < offered.amountOut := by
  obtain ⟨_, _, outputs, found, same⟩ := (Route.simulate_input_iff ..).mp offer.simulated
  have brought := Route.forward_pos positive found
  rw [same]
  simpa [SimulatedRoute.amountOut, List.getLast?_cons] using brought

theorem quotes_dual (config : RouterConfig) (ledger : Ledger) (inquiry : Inquiry)
    (pools : List Pool) (graph : LiquidityGraph) (facts : PairFacts) (reads : Reads)
    (ready : Ready config ledger inquiry.tokenIn inquiry.tokenOut pools graph facts)
    (bounded : validTolerance inquiry.tolerance = true) :
    Duality (fun paid => (compute config ledger (inquiry.selling paid)).answer reads)
      (fun wanted => (compute config ledger (inquiry.buying wanted)).answer reads) := by
  apply duality_of_adjoint
  case adjoint =>
    intro paid wanted positive
    have bought := quote_within_iff (inquiry.buying wanted) reads ready bounded
      (fun offered => offered.amountIn ≤ paid)
      (fun best other level within => Nat.le_trans (Nat.le_of_not_lt level) within)
    have sold := quote_within_iff (inquiry.selling paid) reads ready bounded
      (fun offered => wanted ≤ offered.amountOut)
      (fun best other level covered => Nat.le_trans covered (Nat.le_of_not_lt level))
    have shown : (∃ quote, (compute config ledger (inquiry.selling paid)).answer reads = .ok quote ∧
        wanted ≤ quote.amountOut) ↔ ∃ quote,
        (compute config ledger (inquiry.selling paid)).answer reads = .ok quote ∧
        wanted ≤ quote.route.amountOut := by
      refine exists_congr fun quote => and_congr_right fun quoted => ?_
      rw [(answer_ok_route (inquiry.selling paid) reads ready quoted).2.2]
    exact bought.trans ((offers_dual paid wanted positive).trans (sold.symm.trans shown.symm))
  case costs =>
    intro wanted quote positive bought
    have found := (answer_ok_route (inquiry.buying wanted) reads ready bought).1
    exact offer_costs positive (best_route_spec ready.accepted found).1
  case brings =>
    intro paid quote positive sold
    obtain ⟨found, _, shown⟩ := answer_ok_route (inquiry.selling paid) reads ready sold
    rw [shown]
    exact offer_brings positive (best_route_spec ready.accepted found).1
  case raised =>
    intro left right quote other bought again within
    have first := (answer_ok_route (inquiry.buying left) reads ready bought).2.1
    have second := (answer_ok_route (inquiry.buying right) reads ready again).2.1
    have paid := Except.ok.inj (first.symm.trans (max_amount_in_ok quote.route.amountIn bounded))
    have dearer := Except.ok.inj (second.symm.trans (max_amount_in_ok other.route.amountIn bounded))
    rw [paid, dearer]
    exact Nat.div_le_div_right (Nat.mul_le_mul_right _ within)

-- A price for 80 is also a price for less.
theorem quotes_dual_over_middle :
    ∃ quote other,
      (compute .default Sample.ledger (Sample.inquiry ⟨.fixedOutput, 40⟩)).answer .zero =
        .ok quote ∧
      (compute .default Sample.ledger (Sample.inquiry ⟨.fixedInput, quote.route.amountIn⟩)).answer
        .zero = .ok other ∧ 40 ≤ other.amountOut := by
  have dual := quotes_dual .default Sample.ledger (Sample.inquiry ⟨.fixedOutput, 40⟩) Sample.pools
    Sample.graph Sample.facts .zero Sample.ready (by decide)
  have offer : Offer .default Sample.usdc Sample.native Sample.pools ⟨.fixedOutput, 80⟩
      ⟨Sample.longRoute, [1, 873, 80]⟩ := ⟨Sample.long_admissible, rfl⟩
  obtain ⟨dear, bought, _⟩ := (quote_within_iff (Sample.inquiry ⟨.fixedOutput, 80⟩) .zero
    Sample.ready (by decide) (fun _ => True) (fun _ _ _ _ => trivial)).mpr ⟨_, offer, trivial⟩
  obtain ⟨quote, found, _⟩ := dual.buyMonotone 40 80 dear (by decide) (by decide) bought
  obtain ⟨other, sold, covered⟩ := dual.enough 40 quote (by decide) found
  exact ⟨quote, other, found, sold, covered⟩

end Market
end Quote
end PoolRouting
