import PoolRouting.Proofs.CandidateOrder
import PoolRouting.Proofs.RouteSearch
import PoolRouting.Proofs.RouteSimulation
import PoolRouting.Proofs.Tolerance
import PoolRouting.Quote

/-!
From a question to its route. What is answered does not depend on the reads that are counted, so an
answer is a chain of steps that may fail. Once the two tokens are known, tradable and described, a
quote is the best of its offers: the admissible routes together with what they bring.
-/

namespace PoolRouting

namespace Consultation
variable {α β : Type}

/-- What a computation answers after some reads. -/
def answer (consultation : Consultation α) (reads : Reads) : Except RouterError α :=
  (consultation.run.run reads).1

def readsAfter (consultation : Consultation α) (reads : Reads) : Reads :=
  (consultation.run.run reads).2

theorem answer_bind (first : Consultation α) (next : α → Consultation β) (reads : Reads) :
    (first >>= next).answer reads =
      (first.answer reads).bind fun value => (next value).answer (first.readsAfter reads) := by
  rw [answer, answer, readsAfter, ExceptT.run_bind, StateT.run_bind]
  rcases first.run.run reads with ⟨outcome, later⟩
  cases outcome <;> rfl

theorem answer_pure (value : α) (reads : Reads) :
    (pure value : Consultation α).answer reads = .ok value := rfl

theorem answer_lift (outcome : Except RouterError α) (reads : Reads) :
    (liftM outcome : Consultation α).answer reads = outcome := by
  cases outcome <;> rfl

theorem answer_read (count : Reads → Reads) (value : Except ProviderError α) (reads : Reads) :
    (read count value).answer reads = value.mapError RouterError.provider := by
  cases value <;> rfl

end Consultation

namespace Quote

/-- The facts about a pair as one chain of look-ups. -/
def pairFacts (ledger : Ledger) (source target : TokenId) : Except RouterError PairFacts :=
  ((ledger.token source).mapError RouterError.provider).bind fun tokenIn =>
    ((ledger.token target).mapError RouterError.provider).bind fun tokenOut =>
      ((ledger.price source).mapError RouterError.provider).bind fun rawIn =>
        ((ledger.price target).mapError RouterError.provider).bind fun rawOut =>
          ((parsePrice rawIn).mapError RouterError.provider).bind fun priceIn =>
            ((parsePrice rawOut).mapError RouterError.provider).bind fun priceOut =>
              .ok ⟨tokenIn, tokenOut, priceIn, priceOut⟩

theorem read_facts_answer (ledger : Ledger) (source target : TokenId) (reads : Reads) :
    (readFacts ledger source target).answer reads = pairFacts ledger source target := by
  simp only [readFacts, pairFacts, Consultation.readTokens, Consultation.readPrices,
    Consultation.answer_bind, Consultation.answer_read, Consultation.answer_lift,
    Consultation.answer_pure]

theorem pair_facts_ok_iff (ledger : Ledger) (source target : TokenId) (facts : PairFacts) :
    pairFacts ledger source target = .ok facts ↔
      ledger.token source = .ok facts.tokenIn ∧ ledger.token target = .ok facts.tokenOut ∧
        (∃ raw, ledger.price source = .ok raw ∧ parsePrice raw = .ok facts.priceIn) ∧
          ∃ raw, ledger.price target = .ok raw ∧ parsePrice raw = .ok facts.priceOut := by
  simp only [pairFacts, bind_ok_iff, renamed_ok_iff]
  constructor
  · rintro ⟨_, describedIn, _, describedOut, rawIn, foundIn, rawOut, foundOut, _, readIn, _, readOut,
      same⟩
    cases same
    exact ⟨describedIn, describedOut, ⟨rawIn, foundIn, readIn⟩, ⟨rawOut, foundOut, readOut⟩⟩
  · rintro ⟨describedIn, describedOut, ⟨rawIn, foundIn, readIn⟩, ⟨rawOut, foundOut, readOut⟩⟩
    exact ⟨_, describedIn, _, describedOut, rawIn, foundIn, rawOut, foundOut, _, readIn, _, readOut,
      rfl⟩

theorem market_ok_iff (contracts : ContractsConfig) (inquiry : Inquiry) (pools : List Pool)
    (graph : LiquidityGraph) :
    market contracts inquiry pools = .ok graph ↔
      LiquidityGraph.ofPools pools = .ok graph ∧
        (graph.isKnown (contracts.routingToken inquiry.tokenIn) = true ∧
          graph.isKnown (contracts.routingToken inquiry.tokenOut) = true) ∧
        graph.isRoutable (contracts.routingToken inquiry.tokenIn) = true ∧
          graph.isRoutable (contracts.routingToken inquiry.tokenOut) = true := by
  rw [market, bind_ok_iff]
  constructor
  · rintro ⟨built, accepted, entered⟩
    dsimp only at entered
    split at entered
    · cases entered
    split at entered
    · cases entered
    split at entered
    · cases entered
    next unknownIn unknownOut unroutable =>
      cases entered
      exact ⟨accepted, by simpa using And.intro unknownIn unknownOut, by simpa using unroutable⟩
  · rintro ⟨accepted, ⟨knownIn, knownOut⟩, routableIn, routableOut⟩
    exact ⟨graph, accepted, by simp [knownIn, knownOut, routableIn, routableOut]⟩

theorem compute_answer (config : RouterConfig) (ledger : Ledger) (inquiry : Inquiry)
    (reads : Reads) :
    (compute config ledger inquiry).answer reads =
      (ledger.pools.mapError RouterError.provider).bind fun pools =>
        (market config.contracts inquiry pools).bind fun graph =>
          (pairFacts ledger (config.contracts.routingToken inquiry.tokenIn)
            (config.contracts.routingToken inquiry.tokenOut)).bind fun facts =>
            assemble config inquiry graph facts := by
  simp only [compute, Consultation.readPools, Consultation.answer_bind, Consultation.answer_read,
    Consultation.answer_lift, read_facts_answer]

end Quote

/-- Nothing stands between a pair of tokens and the search: the pool list is trusted, both tokens
occur in it and can be traded, and the ledger describes and prices them. -/
structure Ready (config : RouterConfig) (ledger : Ledger) (tokenIn tokenOut : TokenId)
    (pools : List Pool) (graph : LiquidityGraph) (facts : PairFacts) : Prop where
  listed : ledger.pools = .ok pools
  accepted : LiquidityGraph.ofPools pools = .ok graph
  knownIn : graph.isKnown (config.contracts.routingToken tokenIn) = true
  knownOut : graph.isKnown (config.contracts.routingToken tokenOut) = true
  routableIn : graph.isRoutable (config.contracts.routingToken tokenIn) = true
  routableOut : graph.isRoutable (config.contracts.routingToken tokenOut) = true
  describedIn : ledger.token (config.contracts.routingToken tokenIn) = .ok facts.tokenIn
  describedOut : ledger.token (config.contracts.routingToken tokenOut) = .ok facts.tokenOut
  pricedIn : ∃ raw, ledger.price (config.contracts.routingToken tokenIn) = .ok raw ∧
    parsePrice raw = .ok facts.priceIn
  pricedOut : ∃ raw, ledger.price (config.contracts.routingToken tokenOut) = .ok raw ∧
    parsePrice raw = .ok facts.priceOut

/-- A route that is admitted between two requested tokens, with its simulated amounts. -/
structure Offer (config : RouterConfig) (tokenIn tokenOut : TokenId) (pools : List Pool)
    (direction : SwapDirection) (offered : SimulatedRoute) : Prop where
  admissible : offered.route.Admissible pools (config.contracts.routingToken tokenIn)
    (config.contracts.routingToken tokenOut) config.routing.maxHops.toNat
  simulated : offered.route.simulate direction = .ok offered

namespace Quote
section Market
variable {config : RouterConfig} {ledger : Ledger} {inquiry : Inquiry} {pools : List Pool}
  {graph : LiquidityGraph} {facts : PairFacts}

theorem answer_of_ready (reads : Reads)
    (ready : Ready config ledger inquiry.tokenIn inquiry.tokenOut pools graph facts) :
    (compute config ledger inquiry).answer reads = assemble config inquiry graph facts := by
  have entered := (market_ok_iff config.contracts inquiry pools graph).mpr
    ⟨ready.accepted, ⟨ready.knownIn, ready.knownOut⟩, ready.routableIn, ready.routableOut⟩
  have known := (pair_facts_ok_iff ledger _ _ facts).mpr
    ⟨ready.describedIn, ready.describedOut, ready.pricedIn, ready.pricedOut⟩
  simp [compute_answer, ready.listed, entered, known, Except.bind]

/-- A quote is only given when nothing stood in the way. -/
theorem ready_of_answer {reads : Reads} {quote : Quote}
    (quoted : (compute config ledger inquiry).answer reads = .ok quote) :
    ∃ pools graph facts,
      Ready config ledger inquiry.tokenIn inquiry.tokenOut pools graph facts := by
  simp only [compute_answer, bind_ok_iff, renamed_ok_iff] at quoted
  obtain ⟨pools, listed, graph, entered, facts, known, _⟩ := quoted
  obtain ⟨accepted, ⟨knownIn, knownOut⟩, routableIn, routableOut⟩ := (market_ok_iff ..).mp entered
  obtain ⟨describedIn, describedOut, pricedIn, pricedOut⟩ := (pair_facts_ok_iff ..).mp known
  exact ⟨pools, graph, facts, listed, accepted, knownIn, knownOut, routableIn, routableOut,
    describedIn, describedOut, pricedIn, pricedOut⟩

-- A trusted list has valid fees and the search joins its pools, so only liquidity can fail a route.
theorem simulate_routes (accepted : LiquidityGraph.ofPools pools = .ok graph)
    (direction : SwapDirection) (source target : TokenId) (maxHops : Nat) :
    simulateAll direction (graph.routes source target maxHops) =
      .ok (simulations direction (graph.routes source target maxHops)) := by
  have sound := LiquidityGraph.fault_none_of_pools accepted
  obtain ⟨_, rfl⟩ := (LiquidityGraph.of_pools_ok_iff pools graph).mp accepted
  apply simulate_all_local
  intro route member error failed
  have admissible := (LiquidityGraph.mem_routes_iff ..).mp member
  refine simulate_error_local admissible.validate (fun pool through => ?_) failed
  exact ((pool_fault_none_iff pool).mp (sound pool (admissible.listed pool through))).2.1

theorem best_route_eq (accepted : LiquidityGraph.ofPools pools = .ok graph)
    (direction : SwapDirection) :
    bestRoute config inquiry graph direction =
      SimulatedRoute.select direction.type inquiry.tokenIn inquiry.tokenOut
        (simulations direction (graph.routes (config.contracts.routingToken inquiry.tokenIn)
          (config.contracts.routingToken inquiry.tokenOut) config.routing.maxHops.toNat)) := by
  rw [bestRoute, simulate_routes accepted]
  rfl

theorem mem_offers_iff (accepted : LiquidityGraph.ofPools pools = .ok graph)
    (direction : SwapDirection) (offered : SimulatedRoute) :
    offered ∈ simulations direction (graph.routes (config.contracts.routingToken inquiry.tokenIn)
        (config.contracts.routingToken inquiry.tokenOut) config.routing.maxHops.toNat) ↔
      Offer config inquiry.tokenIn inquiry.tokenOut pools direction offered := by
  obtain ⟨_, rfl⟩ := (LiquidityGraph.of_pools_ok_iff pools graph).mp accepted
  rw [mem_simulations_iff]
  constructor
  · rintro ⟨route, member, found⟩
    obtain rfl := Route.simulate_route found
    exact ⟨(LiquidityGraph.mem_routes_iff ..).mp member, found⟩
  · rintro ⟨admissible, found⟩
    exact ⟨offered.route, (LiquidityGraph.mem_routes_iff ..).mpr admissible, found⟩

/-- A route that is found is an offer, and no offer comes before it. -/
theorem best_route_spec (accepted : LiquidityGraph.ofPools pools = .ok graph)
    {direction : SwapDirection} {best : SimulatedRoute}
    (found : bestRoute config inquiry graph direction = .ok best) :
    Offer config inquiry.tokenIn inquiry.tokenOut pools direction best ∧
      ∀ other, Offer config inquiry.tokenIn inquiry.tokenOut pools direction other →
        (SimulatedRoute.order direction.type best other).isLE := by
  rw [best_route_eq accepted, SimulatedRoute.select] at found
  split at found
  case h_1 chosen =>
    cases found
    obtain ⟨member, ahead⟩ := SimulatedRoute.best_spec _ _ _ chosen
    refine ⟨(mem_offers_iff accepted ..).mp member, fun other offer => ?_⟩
    exact ahead other ((mem_offers_iff accepted ..).mpr offer)
  case h_2 => cases found

/-- Either some offer exists and a route is found, or none exists and that is what is reported. -/
theorem best_route_cases (config : RouterConfig) (inquiry : Inquiry)
    (accepted : LiquidityGraph.ofPools pools = .ok graph) (direction : SwapDirection) :
    (∃ best, bestRoute config inquiry graph direction = .ok best) ∨
      ((∀ offered, ¬ Offer config inquiry.tokenIn inquiry.tokenOut pools direction offered) ∧
        bestRoute config inquiry graph direction =
          .error (.noRouteFound inquiry.tokenIn inquiry.tokenOut)) := by
  rw [best_route_eq accepted, SimulatedRoute.select]
  split
  case h_1 best chosen => exact Or.inl ⟨best, rfl⟩
  case h_2 missing =>
    refine Or.inr ⟨fun offered offer => ?_, rfl⟩
    have member := (mem_offers_iff accepted ..).mpr offer
    rw [(SimulatedRoute.best_none_iff _ _).mp missing] at member
    cases member

theorem transferred_ok (type : SwapType) (route : SimulatedRoute) {tolerance : Decimal}
    (bounded : validTolerance tolerance = true) :
    ∃ amount, transferred type route tolerance = .ok amount := by
  cases type with
  | fixedInput => exact ⟨_, rfl⟩
  | fixedOutput => exact ⟨_, max_amount_in_ok route.amountIn bounded⟩

/-- The direction of a question, with its default of one whole token sold. -/
def directionOf (inquiry : Inquiry) (facts : PairFacts) : SwapDirection :=
  inquiry.direction.getD ⟨.fixedInput, facts.tokenIn.oneUnit⟩

/-- A quote is the description of the route that was found; nothing after the choice can fail. -/
theorem assemble_ok_iff (quote : Quote) :
    assemble config inquiry graph facts = .ok quote ↔
      ∃ best amountIn, bestRoute config inquiry graph (directionOf inquiry facts) = .ok best ∧
        transferred (directionOf inquiry facts).type best inquiry.tolerance = .ok amountIn ∧
        quote = describe config inquiry facts (directionOf inquiry facts).type best amountIn := by
  simp only [assemble, bind_ok_iff, map_ok_iff]
  constructor
  · rintro ⟨best, found, amountIn, paid, rfl⟩
    exact ⟨best, amountIn, found, paid, rfl⟩
  · rintro ⟨best, amountIn, found, paid, rfl⟩
    exact ⟨best, found, amountIn, paid, rfl⟩

theorem answer_ok_route (inquiry : Inquiry) (reads : Reads)
    (ready : Ready config ledger inquiry.tokenIn inquiry.tokenOut pools graph facts) {quote : Quote}
    (quoted : (compute config ledger inquiry).answer reads = .ok quote) :
    bestRoute config inquiry graph (directionOf inquiry facts) = .ok quote.route ∧
      transferred (directionOf inquiry facts).type quote.route inquiry.tolerance =
        .ok quote.amountIn ∧ quote.amountOut = quote.route.amountOut := by
  rw [answer_of_ready reads ready] at quoted
  obtain ⟨best, amountIn, found, paid, rfl⟩ := (assemble_ok_iff quote).mp quoted
  exact ⟨found, paid, rfl⟩

theorem answer_of_best_route (reads : Reads)
    (ready : Ready config ledger inquiry.tokenIn inquiry.tokenOut pools graph facts)
    (bounded : validTolerance inquiry.tolerance = true) {best : SimulatedRoute}
    (found : bestRoute config inquiry graph (directionOf inquiry facts) = .ok best) :
    ∃ quote, (compute config ledger inquiry).answer reads = .ok quote ∧ quote.route = best := by
  obtain ⟨amountIn, paid⟩ := transferred_ok (directionOf inquiry facts).type best bounded
  rw [answer_of_ready reads ready]
  exact ⟨_, (assemble_ok_iff _).mpr ⟨best, amountIn, found, paid, rfl⟩, rfl⟩

end Market
end Quote

/-! A small market, in which the only way for larger amounts leads over a token in between. -/
namespace Sample

def usdc : TokenId := ⟨"USDC-1111"⟩

def middle : TokenId := ⟨"TOK1-1111"⟩

def native : TokenId := ContractsConfig.default.native

def wrapped : TokenId := ContractsConfig.default.wrapped

/-- An active pool with a fee of 0.3 %. -/
def pool (address : String) (tokenA tokenB : TokenId) (reserveA reserveB : Amount) : Pool where
  address := ⟨address⟩
  tokenA := tokenA
  tokenB := tokenB
  reserveA := reserveA
  reserveB := reserveB
  totalSupply := 1000
  feeFraction := ⟨false, 3, 3, by decide, by decide⟩
  state := .active

def first : Pool :=
  pool "erd1qqqqqqqqqqqqqpgqq67uv84ma3cekpa55l4l68ajzhq8qm3u0n4s20ecvx" usdc middle 1000 1000000

def second : Pool :=
  pool "erd1qqqqqqqqqqqqqpgqe8m9w7cv2ekdc28q5ahku9x3hcregqpn0n4sum0e3u" middle wrapped 10000 1000

/-- Joins the ends of the other two and holds next to nothing. -/
def direct : Pool := pool "erd1direct" wrapped usdc 10 10

def pools : List Pool := [first, second, direct]

def graph : LiquidityGraph := LiquidityGraph.ofTrusted pools

def ledger : Ledger :=
  .ofSnapshot ⟨pools, [⟨usdc, 6⟩, ⟨wrapped, 18⟩], [(usdc, "1"), (wrapped, "1")]⟩

def facts : PairFacts where
  tokenIn := ⟨usdc, 6⟩
  tokenOut := ⟨wrapped, 18⟩
  priceIn := Decimal.one
  priceOut := Decimal.one

/-- What the native currency costs, or brings, with half of the amount as tolerance. -/
def inquiry (direction : SwapDirection) : Inquiry :=
  ⟨usdc, native, some direction, half⟩

def shortRoute : Route := ⟨[usdc, wrapped], [direct]⟩

def longRoute : Route := ⟨[usdc, middle, wrapped], [first, second]⟩

theorem leaving_usdc :
    graph.leaving usdc = [⟨first, usdc, middle⟩, ⟨direct, usdc, wrapped⟩] :=
  LiquidityGraph.leaving_of_sorted pools usdc _ (by decide +kernel) (by decide +kernel)

theorem leaving_middle :
    graph.leaving middle = [⟨first, middle, usdc⟩, ⟨second, middle, wrapped⟩] :=
  LiquidityGraph.leaving_of_sorted pools middle _ (by decide +kernel) (by decide +kernel)

theorem leaving_wrapped :
    graph.leaving wrapped = [⟨second, wrapped, middle⟩, ⟨direct, wrapped, usdc⟩] :=
  LiquidityGraph.leaving_of_sorted pools wrapped _ (by decide +kernel) (by decide +kernel)

theorem routes : graph.routes usdc wrapped 4 = [shortRoute, longRoute] := by
  have fromUsdc : graph.growths (.start usdc) =
      [⟨middle, [usdc], [first]⟩, ⟨wrapped, [usdc], [direct]⟩] := by
    change ((graph.leaving usdc).filter _).map _ = _
    rw [leaving_usdc]
    rfl
  have fromMiddle : graph.growths ⟨middle, [usdc], [first]⟩ =
      [⟨wrapped, [middle, usdc], [second, first]⟩] := by
    change ((graph.leaving middle).filter _).map _ = _
    rw [leaving_middle]
    rfl
  have apart : usdc ≠ wrapped := by decide
  have pending : middle ≠ wrapped := by decide
  rw [LiquidityGraph.routes, if_neg apart]
  simp [search_succ, fromUsdc, fromMiddle, pending, Path.route, Path.tokens, shortRoute, longRoute,
    LiquidityGraph.search]

theorem best_route (direction : SwapDirection) :
    Quote.bestRoute .default (inquiry direction) graph direction =
      (simulateAll direction [shortRoute, longRoute]).bind
        (SimulatedRoute.select direction.type usdc native) := by
  have found : graph.routes (RouterConfig.default.contracts.routingToken usdc)
      (RouterConfig.default.contracts.routingToken native)
      RouterConfig.default.routing.maxHops.toNat = [shortRoute, longRoute] := routes
  exact congrArg (fun routes => (simulateAll direction routes).bind
    (SimulatedRoute.select direction.type usdc native)) found

theorem known (token : TokenId)
    (named : token ∈ pools.flatMap fun pool => [pool.tokenA, pool.tokenB]) :
    graph.isKnown token = true := by
  rw [LiquidityGraph.isKnown, decide_eq_true_eq]
  exact (mem_sort_tokens token _).mpr named

theorem ready : Ready RouterConfig.default ledger usdc native pools graph facts where
  listed := rfl
  accepted := (LiquidityGraph.of_pools_ok_iff pools graph).mpr ⟨by decide +kernel, rfl⟩
  knownIn := known usdc (by decide)
  knownOut := known wrapped (by decide)
  routableIn := by
    change (!(graph.leaving usdc).isEmpty) = true
    rw [leaving_usdc]
    rfl
  routableOut := by
    change (!(graph.leaving wrapped).isEmpty) = true
    rw [leaving_wrapped]
    rfl
  describedIn := rfl
  describedOut := rfl
  pricedIn := ⟨"1", rfl, rfl⟩
  pricedOut := ⟨"1", rfl, rfl⟩

/-- The quote for an output, with the amounts on its way and the amount to transfer. -/
def quote (wanted amountIn : Amount) (amounts : List Amount) : Quote :=
  Quote.describe .default (inquiry ⟨.fixedOutput, wanted⟩) facts .fixedOutput
    ⟨longRoute, amounts⟩ amountIn

/-- The quote of two hops, with a zero as tolerance that carries a minus sign. -/
def minusZero : Quote :=
  { quote 80 1 [1, 873, 80] with tolerance := ⟨true, 0, 28, by decide, by decide⟩ }

theorem quoted (wanted amountIn : Amount) (amounts : List Amount)
    (chosen : (simulateAll ⟨.fixedOutput, wanted⟩ [shortRoute, longRoute]).bind
      (SimulatedRoute.select .fixedOutput usdc native) = .ok ⟨longRoute, amounts⟩)
    (paid : Quote.transferred .fixedOutput ⟨longRoute, amounts⟩ half = .ok amountIn) :
    (Quote.compute .default ledger (inquiry ⟨.fixedOutput, wanted⟩)).answer .zero =
      .ok (quote wanted amountIn amounts) := by
  rw [Quote.answer_of_ready .zero ready, Quote.assemble_ok_iff]
  exact ⟨_, amountIn, (best_route _).trans chosen, paid, rfl⟩

theorem long_admissible : longRoute.Admissible pools usdc wrapped 4 where
  starts := rfl
  ends := rfl
  simple := by decide
  joined := .hop (.inl ⟨rfl, rfl⟩) (.hop (.inl ⟨rfl, rfl⟩) (.arrived wrapped))
  moves := by decide
  bounded := by decide
  listed := by decide
  active := by decide
  filled := by decide

end Sample
end PoolRouting
