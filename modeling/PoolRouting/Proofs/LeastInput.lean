import PoolRouting.Proofs.QuoteChoice

/-!
The backward simulation of a route finds the least sufficient input. The adjunction between the two
walks says so of the amounts at their ends; here the amounts in between follow: a forward walk that
starts from enough has enough in front of every hop.
-/

namespace PoolRouting
namespace Route

-- The induction is on the hops: what the first sale brings covers what the rest asks for, since the
-- purchase found for the rest is the least.
theorem forward_covers {hops : List (TokenId × Pool)} {paid wanted first : Amount}
    {later outputs : List Amount} (positive : 0 < wanted)
    (bought : backward wanted hops = .ok (first, later)) (sold : forward paid hops = .ok outputs)
    (within : first ≤ paid) : List.Forall₂ (· ≤ ·) (first :: later) (paid :: outputs) := by
  induction hops generalizing paid first later outputs with
  | nil =>
    cases bought
    cases sold
    exact .cons within .nil
  | cons hop rest ih =>
    obtain ⟨token, pool⟩ := hop
    obtain ⟨needed, after, tail, paidFor, rfl⟩ := (backward_cons_iff ..).mp bought
    obtain ⟨brought, onward, sale, goes, rfl⟩ := (forward_cons_iff ..).mp sold
    obtain ⟨most, again, enough⟩ :=
      (pool.buy_le_iff_le_sell token paid needed (backward_pos positive tail)).mp
        ⟨first, paidFor, within⟩
    have same : brought = most := Except.ok.inj (sale.symm.trans again)
    apply List.Forall₂.cons within
    apply ih tail goes
    simpa only [same] using enough

theorem simulations_cover {route : Route} {paid wanted : Amount} {bought sold : SimulatedRoute}
    (positive : 0 < wanted) (backwards : route.simulate ⟨.fixedOutput, wanted⟩ = .ok bought)
    (forwards : route.simulate ⟨.fixedInput, paid⟩ = .ok sold) (within : bought.amountIn ≤ paid) :
    List.Forall₂ (· ≤ ·) bought.amounts sold.amounts := by
  obtain ⟨_, _, first, later, found, rfl⟩ := (simulate_output_iff ..).mp backwards
  obtain ⟨_, _, outputs, goes, rfl⟩ := (simulate_input_iff ..).mp forwards
  apply forward_covers positive found goes
  simpa [SimulatedRoute.amountIn] using within

/-- Whatever the route, the backward simulation succeeds within a payment exactly when the payment
brings the wanted amount, and then the payment covers every amount on the way. -/
theorem backward_least (route : Route) (paid wanted : Amount) (positive : 0 < wanted) :
    ((∃ bought, route.simulate ⟨.fixedOutput, wanted⟩ = .ok bought ∧ bought.amountIn ≤ paid) ↔
      ∃ sold, route.simulate ⟨.fixedInput, paid⟩ = .ok sold ∧ wanted ≤ sold.amountOut) ∧
    (∀ bought sold, route.simulate ⟨.fixedOutput, wanted⟩ = .ok bought →
      route.simulate ⟨.fixedInput, paid⟩ = .ok sold →
      (bought.amountIn ≤ paid ∨ wanted ≤ sold.amountOut) →
      bought.amountIn ≤ paid ∧ wanted ≤ sold.amountOut ∧
        List.Forall₂ (· ≤ ·) bought.amounts sold.amounts) ∧
    ∀ (reserves : Reserves) (charged : Decimal) (fee : FeeRatio),
      FeeRatio.ofDecimal? charged = some fee →
      ((∃ needed, Hop.input reserves fee wanted = .ok needed ∧ needed ≤ paid) ↔
        ∃ brought, Hop.output reserves fee paid = .ok brought ∧ wanted ≤ brought) := by
  have adjoint := route.simulate_output_le_iff_input paid wanted positive
  refine ⟨adjoint, ?_, ?_⟩
  · intro bought sold backwards forwards either
    have within : bought.amountIn ≤ paid := by
      rcases either with within | covered
      · exact within
      · obtain ⟨least, found, cheap⟩ := adjoint.mpr ⟨sold, forwards, covered⟩
        cases backwards.symm.trans found
        exact cheap
    obtain ⟨most, goes, covered⟩ := adjoint.mp ⟨bought, backwards, within⟩
    cases forwards.symm.trans goes
    exact ⟨within, covered, simulations_cover positive backwards forwards within⟩
  · intro reserves charged fee taken
    exact Hop.input_le_iff_le_output reserves fee paid wanted (denominator_pos taken) positive

-- Paying two buys 80 where one would do; both walks, and a hop of the first pool's reserves.
theorem backward_least_over_middle :
    0 < 80 ∧ (∃ sold, Sample.longRoute.simulate ⟨.fixedInput, 2⟩ = .ok sold ∧ 80 ≤ sold.amountOut) ∧
      List.Forall₂ (· ≤ ·) [1, 873, 80] [2, 1990, 165] ∧
      ∃ brought, Hop.output ⟨1000, 1000000⟩ ⟨997, 1000⟩ 2 = .ok brought ∧ 80 ≤ brought := by
  have backwards : Sample.longRoute.simulate ⟨.fixedOutput, 80⟩ =
      .ok ⟨Sample.longRoute, [1, 873, 80]⟩ := rfl
  obtain ⟨adjoint, covers, hop⟩ := backward_least Sample.longRoute 2 80 (by decide)
  refine ⟨by decide, adjoint.mp ⟨_, backwards, by decide⟩, ?_, ?_⟩
  · exact (covers _ ⟨Sample.longRoute, [2, 1990, 165]⟩ backwards rfl (Or.inl (by decide))).2.2
  · exact (hop ⟨1000, 1000000⟩ Sample.first.feeFraction ⟨997, 1000⟩ rfl).mp
      ⟨1, rfl, by decide⟩

end Route
end PoolRouting
