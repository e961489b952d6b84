import PoolRouting.Proofs.PoolFees
import PoolRouting.Proofs.QuoteDuality
import PoolRouting.Proofs.SessionTransparency

/-!
Lower fees never worsen a quote. On each route the amounts move in the favour of the trader, and the
best route at the lower fees, which may be another one, is at least as good as the eased old one.
-/

namespace PoolRouting
namespace SimulatedRoute

theorem head_le {less more : List Amount} (paired : List.Forall₂ (· ≤ ·) less more) :
    less.head?.getD 0 ≤ more.head?.getD 0 := by
  cases paired with
  | nil => exact Nat.le_refl 0
  | cons within _ => exact within

theorem last_le {less more : List Amount} (paired : List.Forall₂ (· ≤ ·) less more) :
    less.getLast?.getD 0 ≤ more.getLast?.getD 0 := by
  rw [List.getLast?_eq_head?_reverse, List.getLast?_eq_head?_reverse]
  exact head_le (List.forall₂_reverse_iff.mpr paired)

theorem no_gain_of_eased {type : SwapType} {simulated eased : SimulatedRoute}
    (eases : simulated.Eased type eased) : ¬ Gains type simulated eased := by
  cases type with
  | fixedInput => exact Nat.not_lt_of_le (last_le eases)
  | fixedOutput => exact Nat.not_lt_of_le (head_le eases)

theorem no_gain_trans {type : SwapType} {one two three : SimulatedRoute}
    (first : ¬ Gains type one two) (second : ¬ Gains type two three) : ¬ Gains type one three := by
  cases type with
  | fixedInput =>
    exact Nat.not_lt_of_le (Nat.le_trans (Nat.le_of_not_lt first) (Nat.le_of_not_lt second))
  | fixedOutput =>
    exact Nat.not_lt_of_le (Nat.le_trans (Nat.le_of_not_lt second) (Nat.le_of_not_lt first))

end SimulatedRoute

/-- The other quote is for the same side and leaves the trader no worse off. -/
structure Quote.NoWorse (quote other : Quote) : Prop where
  type : other.type = quote.type
  brings : quote.type = .fixedInput →
    other.amountIn = quote.amountIn ∧ quote.amountOut ≤ other.amountOut
  costs : quote.type = .fixedOutput →
    other.route.amountIn ≤ quote.route.amountIn ∧ other.amountIn ≤ quote.amountIn

theorem Ledger.pools_of_with_pools {ledger : Ledger} {pools listed : List Pool}
    (answered : (ledger.withPools pools).pools = .ok listed) :
    listed = pools ∧ ∀ others, (ledger.withPools others).pools = .ok others := by
  unfold Ledger.pools Ledger.withPools Ledger.answer at answered ⊢
  cases down : ledger.poolsDown with
  | some message => simp [down] at answered
  | none =>
    simp only [down, Except.ok.injEq] at answered
    exact ⟨answered.symm, fun _ => rfl⟩

namespace Quote
section Market
variable {config : RouterConfig} {ledger : Ledger} {tokenIn tokenOut : TokenId}
variable {left right : List Pool} {first second : LiquidityGraph} {facts : PairFacts}

theorem ready_undercut (undercut : Undercut left right)
    (ready : Ready config (ledger.withPools left) tokenIn tokenOut left first facts) :
    Ready config (ledger.withPools right) tokenIn tokenOut right (LiquidityGraph.ofTrusted right)
      facts := by
  obtain ⟨_, rfl⟩ := (LiquidityGraph.of_pools_ok_iff ..).mp ready.accepted
  have known := LiquidityGraph.is_known_eq (names_recharged undercut)
  have routable := routable_recharged undercut
  exact
    { listed := (Ledger.pools_of_with_pools ready.listed).2 right
      accepted := accepted_recharged undercut charged_undercut ready.accepted
      knownIn := (known _).symm.trans ready.knownIn
      knownOut := (known _).symm.trans ready.knownOut
      routableIn := (routable _).symm.trans ready.routableIn
      routableOut := (routable _).symm.trans ready.routableOut
      describedIn := ready.describedIn
      describedOut := ready.describedOut
      pricedIn := ready.pricedIn
      pricedOut := ready.pricedOut }

theorem offer_undercut (undercut : Undercut left right) {direction : SwapDirection}
    {offered : SimulatedRoute} (offer : Offer config tokenIn tokenOut left direction offered) :
    ∃ eased, Offer config tokenIn tokenOut right direction eased ∧
      offered.Eased direction.type eased := by
  obtain ⟨pools, changed, admissible⟩ := admissible_recharged undercut offer.admissible
  obtain ⟨eased, found, eases⟩ := simulate_undercut changed offer.simulated
  have same : eased.route = offered.route.through pools := Route.simulate_route found
  exact ⟨eased, ⟨same ▸ admissible, same ▸ found⟩, eases⟩

theorem best_route_undercut {inquiry : Inquiry} {direction : SwapDirection} {best : SimulatedRoute}
    (undercut : Undercut left right) (acceptedLeft : LiquidityGraph.ofPools left = .ok first)
    (acceptedRight : LiquidityGraph.ofPools right = .ok second)
    (found : bestRoute config inquiry first direction = .ok best) :
    ∃ other, bestRoute config inquiry second direction = .ok other ∧
      ¬ SimulatedRoute.Gains direction.type best other := by
  obtain ⟨eased, offer, eases⟩ := offer_undercut undercut (best_route_spec acceptedLeft found).1
  rcases best_route_cases config inquiry acceptedRight direction with
    ⟨other, chosen⟩ | ⟨unoffered, _⟩
  · have ahead := (best_route_spec acceptedRight chosen).2 eased offer
    exact ⟨other, chosen, SimulatedRoute.no_gain_trans (SimulatedRoute.no_gain_of_eased eases)
      (SimulatedRoute.open_amount_of_order ahead)⟩
  · exact (unoffered eased offer).elim

theorem amount_in_of_input {route : Route} {amount : Amount} {simulated : SimulatedRoute}
    (found : route.simulate ⟨.fixedInput, amount⟩ = .ok simulated) :
    simulated.amountIn = amount := by
  obtain ⟨_, _, outputs, _, rfl⟩ := (Route.simulate_input_iff ..).mp found
  rfl

theorem assemble_undercut {inquiry : Inquiry} (undercut : Undercut left right)
    (acceptedLeft : LiquidityGraph.ofPools left = .ok first)
    (acceptedRight : LiquidityGraph.ofPools right = .ok second)
    (bounded : validTolerance inquiry.tolerance = true) {quote : Quote}
    (quoted : assemble config inquiry first facts = .ok quote) :
    ∃ other, assemble config inquiry second facts = .ok other ∧ quote.NoWorse other := by
  obtain ⟨best, amountIn, found, paid, rfl⟩ := (assemble_ok_iff quote).mp quoted
  obtain ⟨other, chosen, level⟩ := best_route_undercut undercut acceptedLeft acceptedRight found
  have sold := (best_route_spec acceptedLeft found).1.simulated
  have again := (best_route_spec acceptedRight chosen).1.simulated
  obtain ⟨cost, transfers⟩ := transferred_ok (directionOf inquiry facts).type other bounded
  refine ⟨_, (assemble_ok_iff _).mpr ⟨other, cost, chosen, transfers, rfl⟩, ?_⟩
  generalize directionOf inquiry facts = direction at *
  obtain ⟨type, amount⟩ := direction
  cases type with
  | fixedInput =>
    have started := amount_in_of_input sold
    have entered := amount_in_of_input again
    have paidFirst : best.amountIn = amountIn := Except.ok.inj paid
    have paidLater : other.amountIn = cost := Except.ok.inj transfers
    have even : cost = amountIn := by rw [← paidFirst, ← paidLater, started, entered]
    exact ⟨rfl, fun _ => ⟨even, Nat.le_of_not_lt level⟩, nofun⟩
  | fixedOutput =>
    have cheaper : other.amountIn ≤ best.amountIn := Nat.le_of_not_lt level
    have before := Except.ok.inj (paid.symm.trans (max_amount_in_ok best.amountIn bounded))
    have after := Except.ok.inj (transfers.symm.trans (max_amount_in_ok other.amountIn bounded))
    refine ⟨rfl, nofun, fun _ => ⟨cheaper, ?_⟩⟩
    change cost ≤ amountIn
    rw [before, after]
    exact Nat.div_le_div_right (Nat.mul_le_mul_right _ cheaper)

/-- Asked alone, the request is quoted over the other list as well. -/
theorem alone_undercut (undercut : Undercut left right) {request : SwapRequest} {quote : Quote}
    (quoted : Session.alone config (ledger.withPools left) request = .ok quote) :
    ∃ other, Session.alone config (ledger.withPools right) request = .ok other ∧
      quote.NoWorse other := by
  obtain ⟨inquiry, listed, first, facts, asked, ready, before⟩ := Session.ready_of_alone quoted
  obtain ⟨rfl, _⟩ := Ledger.pools_of_with_pools ready.listed
  have later := ready_undercut undercut ready
  obtain ⟨other, assembled, noWorse⟩ := assemble_undercut undercut ready.accepted later.accepted
    (valid_of_inquiry asked) before
  rw [Session.alone_eq, asked]
  exact ⟨other, (answer_of_ready .zero later).trans assembled, noWorse⟩

end Market

/-- At lower fees a quote is still given, and it is no worse; on each single route every amount
moves in the favour of the trader. Neither depends on what was asked before. -/
theorem lower_fees_never_worsen (config : RouterConfig) (ledger : Ledger) (left right : List Pool)
    (undercut : Undercut left right) :
    (∀ earlier before request quote,
      (((Session.start config (ledger.withPools left)).after earlier).resolve request).1 =
          .ok quote →
        ∃ other,
          (((Session.start config (ledger.withPools right)).after before).resolve request).1 =
              .ok other ∧ quote.NoWorse other) ∧
    ∀ (route : Route) (pools : List Pool) (direction : SwapDirection) (simulated : SimulatedRoute),
      Undercut route.pools pools → route.simulate direction = .ok simulated →
        ∃ eased, (route.through pools).simulate direction = .ok eased ∧
          simulated.Eased direction.type eased := by
  constructor
  · intro earlier before request quote quoted
    obtain ⟨alone, answered, tolerance, _, rfl⟩ := given_by_matches
      (quoted ▸ Session.answer_after config (ledger.withPools left) earlier request)
    obtain ⟨better, found, noWorse⟩ := alone_undercut undercut answered
    obtain ⟨other, given, _, _, rfl⟩ := given_of_matches
      (found ▸ Session.answer_after config (ledger.withPools right) before request)
    exact ⟨_, given, noWorse.type, noWorse.brings, noWorse.costs⟩
  · intro route pools direction simulated undercut found
    exact simulate_undercut undercut found

end Quote

namespace Sample

/-- The first pool charges nothing and the others as before. -/
def cheaperPools : List Pool := [first.charging Decimal.zero, second, direct]

theorem cheaper_undercut : Undercut pools cheaperPools :=
  .cons ⟨_, ⟨by decide, by decide⟩, rfl⟩
    (.cons ⟨_, ⟨by decide, by decide⟩, rfl⟩ (.cons ⟨_, ⟨by decide, by decide⟩, rfl⟩ .nil))

end Sample

namespace Quote

theorem lower_fees_never_worsen_sample :
    ∃ quote other,
      ((Session.start .default Sample.ledger).resolve (Sample.request Sample.half)).1 =
          .ok quote ∧
        ((Session.start .default (Sample.ledger.withPools Sample.cheaperPools)).resolve
          (Sample.request Sample.half)).1 = .ok other ∧
        other.amountIn ≤ quote.amountIn := by
  have given : ((Session.start .default Sample.ledger).resolve (Sample.request Sample.half)).1 =
      .ok (Sample.quote 80 1 [1, 873, 80]) :=
    (Session.resolve_start ..).trans (Sample.quoted 80 1 [1, 873, 80] rfl rfl)
  obtain ⟨improved, _⟩ := lower_fees_never_worsen .default Sample.ledger Sample.pools
    Sample.cheaperPools Sample.cheaper_undercut
  obtain ⟨other, found, noWorse⟩ := improved [] [] _ _ given
  exact ⟨_, other, given, found, (noWorse.costs rfl).2⟩

end Quote
end PoolRouting
