import PoolRouting.Proofs.QuoteChoice

/-!
A quote is the best of all routes that the question admits, and a quote is missing only when no
admissible route can be simulated.
-/

namespace PoolRouting
namespace Quote

-- Nothing is asked of the configuration or of the amount: an amount of zero only leaves fewer offers.
theorem quote_optimal (config : RouterConfig) (ledger : Ledger) (inquiry : Inquiry)
    (pools : List Pool) (graph : LiquidityGraph) (facts : PairFacts) (reads : Reads)
    (ready : Ready config ledger inquiry.tokenIn inquiry.tokenOut pools graph facts)
    (bounded : validTolerance inquiry.tolerance = true) :
    let direction := inquiry.direction.getD ⟨.fixedInput, facts.tokenIn.oneUnit⟩
    let answer := (compute config ledger inquiry).answer reads
    ((∃ quote, answer = .ok quote) ↔
      ∃ offered, Offer config inquiry.tokenIn inquiry.tokenOut pools direction offered) ∧
    ((¬ ∃ offered, Offer config inquiry.tokenIn inquiry.tokenOut pools direction offered) →
      answer = .error (.noRouteFound inquiry.tokenIn inquiry.tokenOut)) ∧
    ∀ quote, answer = .ok quote →
      Offer config inquiry.tokenIn inquiry.tokenOut pools direction quote.route ∧
      ∀ other, Offer config inquiry.tokenIn inquiry.tokenOut pools direction other →
        ¬ SimulatedRoute.Better direction.type other quote.route := by
  intro direction answer
  have best : ∀ quote, answer = .ok quote →
      Offer config inquiry.tokenIn inquiry.tokenOut pools direction quote.route ∧
      ∀ other, Offer config inquiry.tokenIn inquiry.tokenOut pools direction other →
        ¬ SimulatedRoute.Better direction.type other quote.route := by
    intro quote quoted
    obtain ⟨found, _⟩ := answer_ok_route inquiry reads ready quoted
    obtain ⟨offer, ahead⟩ := best_route_spec ready.accepted found
    refine ⟨offer, fun other offered better => ?_⟩
    exact Std.OrientedCmp.not_isLE_of_lt ((SimulatedRoute.order_lt_iff ..).mpr better)
      (ahead other offered)
  rcases best_route_cases config inquiry ready.accepted direction with
    ⟨found, chosen⟩ | ⟨unoffered, missing⟩
  · obtain ⟨quote, quoted, _⟩ := answer_of_best_route reads ready bounded chosen
    have offer := (best quote quoted).1
    refine ⟨⟨fun _ => ⟨_, offer⟩, fun _ => ⟨quote, quoted⟩⟩, fun unoffered => ?_, best⟩
    exact (unoffered ⟨_, offer⟩).elim
  · have refused : answer = .error (.noRouteFound inquiry.tokenIn inquiry.tokenOut) :=
      (answer_of_ready reads ready).trans ((bind_error_iff ..).mpr (Or.inl missing))
    refine ⟨⟨?_, fun ⟨offered, offer⟩ => (unoffered offered offer).elim⟩, fun _ => refused, best⟩
    rintro ⟨quote, quoted⟩
    cases refused.symm.trans quoted

-- The direct pool cannot bring 80, so the offer over the token in between is the only one.
theorem quote_optimal_over_middle :
    ∃ quote, (compute .default Sample.ledger (Sample.inquiry ⟨.fixedOutput, 80⟩)).answer .zero =
        .ok quote ∧
      ¬ SimulatedRoute.Better .fixedOutput ⟨Sample.longRoute, [1, 873, 80]⟩ quote.route := by
  have offer : Offer .default Sample.usdc Sample.native Sample.pools ⟨.fixedOutput, 80⟩
      ⟨Sample.longRoute, [1, 873, 80]⟩ := ⟨Sample.long_admissible, rfl⟩
  obtain ⟨found, _, best⟩ := quote_optimal .default Sample.ledger
    (Sample.inquiry ⟨.fixedOutput, 80⟩) Sample.pools Sample.graph Sample.facts .zero Sample.ready
    (by decide)
  obtain ⟨quote, quoted⟩ := found.mpr ⟨_, offer⟩
  exact ⟨quote, quoted, (best quote quoted).2 _ offer⟩

end Quote
end PoolRouting
