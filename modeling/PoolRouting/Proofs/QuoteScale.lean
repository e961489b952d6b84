import PoolRouting.Proofs.PoolFees
import PoolRouting.Proofs.QuoteBuilding
import PoolRouting.Proofs.QuoteRefusal

/-!
The scale of a decimal leaves no trace. Whatever zeros fees, prices, tolerances and the allowed
deviation are written with, a request is refused alike or its quote has the same route, the same
amounts and the same transactions.
-/

namespace PoolRouting

theorem Decimal.within_of_level {left right : Decimal} (level : left.sameValue right = true) :
    (Decimal.order left right).isLE = true := by
  rw [Decimal.sameValue, Ordering.isEq_iff_eq_eq] at level
  rw [level]
  rfl

/-! Fees of one value at two scales, each no higher than the other. -/

theorem undercuts_of_rescaled {fee other : Decimal} (rescales : fee.Rescales other)
    (charged : (FeeRatio.ofDecimal? fee).isSome = true) :
    other.Undercuts fee ∧ fee.Undercuts other := by
  obtain ⟨ratio, taken⟩ := Option.isSome_iff_exists.mp charged
  have nonnegative := ((fee_ratio_iff fee ratio).mp taken).1
  have alike : 0 ≤ other.signed := by
    rw [← Int.not_lt, Decimal.signed_neg_iff, rescales.sign, Ne, rescales.zero_iff,
      ← Decimal.signed_neg_iff, Int.not_lt]
    exact nonnegative
  exact ⟨⟨alike, Decimal.within_of_level rescales.level⟩,
    ⟨nonnegative, Decimal.within_of_level rescales.symm.level⟩⟩

theorem charged_rescaled (fee other : Decimal) (rescales : fee.Rescales other)
    (charged : (FeeRatio.ofDecimal? fee).isSome = true) :
    (FeeRatio.ofDecimal? other).isSome = true :=
  charged_undercut fee other (undercuts_of_rescaled rescales charged).1 charged

section Pools
variable {pools others : List Pool}

theorem undercut_rescaled (recharged : Recharged Decimal.Rescales pools others)
    (charged : ∀ pool ∈ pools, (FeeRatio.ofDecimal? pool.feeFraction).isSome = true) :
    Undercut pools others ∧ Undercut others pools := by
  induction recharged with
  | nil => exact ⟨.nil, .nil⟩
  | @cons pool other pools others changed _ ih =>
    obtain ⟨fee, rescales, rfl⟩ := changed
    obtain ⟨first, later⟩ := List.forall_mem_cons.mp charged
    obtain ⟨lower, higher⟩ := undercuts_of_rescaled rescales first
    obtain ⟨forth, back⟩ := ih later
    exact ⟨.cons ⟨fee, lower, rfl⟩ forth, .cons ⟨pool.feeFraction, higher, rfl⟩ back⟩

theorem eq_of_paired_le {less more : List Amount} (forth : List.Forall₂ (· ≤ ·) less more)
    (back : List.Forall₂ (· ≤ ·) more less) : less = more := by
  induction forth with
  | nil => rfl
  | cons within _ ih =>
    cases back with
    | cons again later => rw [Nat.le_antisymm within again, ih later]

theorem eq_of_eased {type : SwapType} {one two : SimulatedRoute} (forth : one.Eased type two)
    (back : two.Eased type one) : one.amounts = two.amounts := by
  cases type with
  | fixedInput => exact eq_of_paired_le forth back
  | fixedOutput => exact eq_of_paired_le back forth

theorem simulate_rescaled {route : Route} (recharged : Recharged Decimal.Rescales route.pools pools)
    (charged : ∀ pool ∈ route.pools, (FeeRatio.ofDecimal? pool.feeFraction).isSome = true)
    {direction : SwapDirection} {simulated : SimulatedRoute}
    (found : route.simulate direction = .ok simulated) :
    (route.through pools).simulate direction = .ok (simulated.through pools) := by
  obtain ⟨forth, back⟩ := undercut_rescaled recharged charged
  obtain ⟨eased, again, ahead⟩ := simulate_undercut forth found
  have reverse : Undercut (route.through pools).pools route.pools := back
  obtain ⟨returned, same, behind⟩ := simulate_undercut reverse again
  cases found.symm.trans same
  have amounts := eq_of_eased ahead behind
  have route := Route.simulate_route found
  have through := Route.simulate_route again
  rw [again, SimulatedRoute.through, route, ← through, amounts]

theorem offer_rescaled {config : RouterConfig} {tokenIn tokenOut : TokenId} {left right : List Pool}
    {direction : SwapDirection} {offered : SimulatedRoute}
    (recharged : Recharged Decimal.Rescales left right) (sound : ∀ pool ∈ left, pool.fault? = none)
    (offer : Offer config tokenIn tokenOut left direction offered) :
    ∃ pools, Recharged Decimal.Rescales offered.route.pools pools ∧
      Offer config tokenIn tokenOut right direction (offered.through pools) := by
  obtain ⟨pools, changed, admissible⟩ := admissible_recharged recharged offer.admissible
  have charged : ∀ pool ∈ offered.route.pools,
      (FeeRatio.ofDecimal? pool.feeFraction).isSome = true := fun pool member =>
    ((pool_fault_none_iff pool).mp (sound pool (offer.admissible.listed pool member))).2.1
  exact ⟨pools, changed, admissible, simulate_rescaled changed charged offer.simulated⟩

end Pools

/-! Inputs that differ at most in the scale of their decimals. -/

/-- Two prices as written: both unreadable, or read as decimals of one sign and value. -/
inductive RescaledText (raw other : String) : Prop where
  | unreadable (lost : ∀ price, Decimal.read (Text.trimBlanks raw.toList) ≠ .ok price)
      (gone : ∀ price, Decimal.read (Text.trimBlanks other.toList) ≠ .ok price)
  | read (price again : Decimal) (first : Decimal.read (Text.trimBlanks raw.toList) = .ok price)
      (second : Decimal.read (Text.trimBlanks other.toList) = .ok again)
      (rescales : price.Rescales again)

structure Snapshot.Rescales (snapshot other : Snapshot) : Prop where
  pools : Recharged Decimal.Rescales snapshot.pools other.pools
  tokens : other.tokens = snapshot.tokens
  prices : List.Forall₂ (fun entry again => again.1 = entry.1 ∧ RescaledText entry.2 again.2)
    snapshot.prices other.prices

/-- The same services over another snapshot. -/
def Ledger.withSnapshot (ledger : Ledger) (snapshot : Snapshot) : Ledger :=
  { ledger with snapshot := snapshot }

/-- The same router, up to the deviation that it allows. -/
def RouterConfig.allowing (config : RouterConfig) (limit : Decimal) : RouterConfig :=
  { config with routing := { config.routing with maxPriceDeviation := limit } }

def SwapRequest.tolerating (request : SwapRequest) (tolerance : Decimal) : SwapRequest :=
  { request with tolerance := tolerance }

structure PairFacts.Rescales (facts other : PairFacts) : Prop where
  tokenIn : other.tokenIn = facts.tokenIn
  tokenOut : other.tokenOut = facts.tokenOut
  priceIn : facts.priceIn.Rescales other.priceIn
  priceOut : facts.priceOut.Rescales other.priceOut

/-- Quotes with one route and the same amounts, which differ at most in the scale of decimals. -/
inductive Quote.Rescales (quote : Quote) : Quote → Prop where
  | of {pools : List Pool} {priceIn priceOut tolerance limit : Decimal}
      (fees : Recharged Decimal.Rescales quote.route.route.pools pools)
      (sold : quote.priceIn.Rescales priceIn) (bought : quote.priceOut.Rescales priceOut)
      (tolerances : quote.tolerance.Rescales tolerance)
      (limits : quote.maxPriceDeviation.Rescales limit) :
      Rescales quote
        { quote.through pools with
          priceIn := priceIn
          priceOut := priceOut
          tolerance := tolerance
          maxPriceDeviation := limit }

section Reading
variable {ledger : Ledger} {snapshot : Snapshot}

theorem lookup_paired {left right : List (TokenId × String)}
    (paired : List.Forall₂ (fun entry again => again.1 = entry.1 ∧ RescaledText entry.2 again.2)
      left right) (id : TokenId) :
    Option.Rel RescaledText (left.lookup id) (right.lookup id) := by
  induction paired with
  | nil => exact .none
  | @cons entry again left right related _ ih =>
    obtain ⟨same, rescaled⟩ := related
    obtain ⟨key, raw⟩ := entry
    obtain ⟨_, other⟩ := again
    cases same
    rw [List.lookup_cons, List.lookup_cons]
    cases id == key with
    | true => exact .some rescaled
    | false => exact ih

theorem price_rescaled (rescales : ledger.snapshot.Rescales snapshot) (id : TokenId) :
    Matches RescaledText (ledger.price id) ((ledger.withSnapshot snapshot).price id) := by
  have found := lookup_paired (List.forall₂_reverse_iff.mpr rescales.prices) id
  unfold Ledger.price Ledger.answer Ledger.withSnapshot
  dsimp only
  generalize ledger.snapshot.prices.reverse.lookup id = one at *
  generalize snapshot.prices.reverse.lookup id = two at *
  cases ledger.pricesDown with
  | some message => exact .refused _
  | none =>
    cases found with
    | none => exact .refused _
    | some rescaled => exact .given rescaled

theorem parse_price_rescaled {raw other : String} (rescaled : RescaledText raw other) :
    Matches Decimal.Rescales
      (((parsePrice raw).mapError RouterError.provider).mapError RouterError.code)
      (((parsePrice other).mapError RouterError.provider).mapError RouterError.code) := by
  unfold parsePrice
  cases rescaled with
  | unreadable lost gone =>
    cases first : Decimal.read (Text.trimBlanks raw.toList) with
    | ok price => exact (lost price first).elim
    | error reason =>
      cases second : Decimal.read (Text.trimBlanks other.toList) with
      | ok price => exact (gone price second).elim
      | error again => exact .refused _
  | read price again first second rescales =>
    rw [first, second]
    dsimp only
    rw [rescales.sign]
    split
    · exact .refused _
    · exact .given rescales

theorem token_rescaled (rescales : ledger.snapshot.Rescales snapshot) (id : TokenId) :
    (ledger.withSnapshot snapshot).token id = ledger.token id := by
  unfold Ledger.token Ledger.withSnapshot
  rw [rescales.tokens]

theorem facts_rescaled (rescales : ledger.snapshot.Rescales snapshot) (source target : TokenId) :
    Matches PairFacts.Rescales ((Quote.pairFacts ledger source target).mapError RouterError.code)
      ((Quote.pairFacts (ledger.withSnapshot snapshot) source target).mapError
        RouterError.code) := by
  have price := fun id =>
    renamed_matches RouterError.code
      (renamed_matches RouterError.provider (price_rescaled rescales id))
  simp only [Quote.pairFacts, renamed_bind, token_rescaled rescales]
  refine bind_matches (matches_self (fun _ => rfl) _) ?_
  rintro tokenIn _ rfl
  refine bind_matches (matches_self (fun _ => rfl) _) ?_
  rintro tokenOut _ rfl
  refine bind_matches (price source) fun rawIn otherIn writtenIn => ?_
  refine bind_matches (price target) fun rawOut otherOut writtenOut => ?_
  refine bind_matches (parse_price_rescaled writtenIn) fun priceIn againIn sold => ?_
  refine bind_matches (parse_price_rescaled writtenOut) fun priceOut againOut bought => ?_
  exact .given ⟨rfl, rfl, sold, bought⟩

end Reading

section Market
variable {config : RouterConfig} {inquiry : Inquiry} {left right : List Pool}
variable {first second : LiquidityGraph} {facts others : PairFacts} {tolerance limit : Decimal}

/-- Both lists are trusted, or both contradict themselves. -/
theorem accepted_rescaled (recharged : Recharged Decimal.Rescales left right) :
    (∃ first second, LiquidityGraph.ofPools left = .ok first ∧
        LiquidityGraph.ofPools right = .ok second) ∨
      ∃ fault other, LiquidityGraph.ofPools left = .error (.dataIntegrity fault) ∧
        LiquidityGraph.ofPools right = .error (.dataIntegrity other) := by
  cases accepted : LiquidityGraph.ofPools left with
  | ok first =>
    exact Or.inl ⟨first, _, rfl, accepted_recharged recharged charged_rescaled accepted⟩
  | error error =>
    obtain ⟨fault, rfl⟩ := LiquidityGraph.of_pools_fails left error accepted
    cases rejected : LiquidityGraph.ofPools right with
    | error other =>
      obtain ⟨other, rfl⟩ := LiquidityGraph.of_pools_fails right other rejected
      exact Or.inr ⟨fault, other, rfl, rfl⟩
    | ok second =>
      have back := accepted_recharged (recharged_back recharged)
        (fun fee other rescales => charged_rescaled fee other rescales.symm) rejected
      cases accepted.symm.trans back

theorem best_route_rescaled (recharged : Recharged Decimal.Rescales left right)
    (acceptedLeft : LiquidityGraph.ofPools left = .ok first)
    (acceptedRight : LiquidityGraph.ofPools right = .ok second) (direction : SwapDirection) :
    Matches (fun best other => ∃ pools, Recharged Decimal.Rescales best.route.pools pools ∧
        other = best.through pools)
      (Quote.bestRoute config inquiry first direction)
      (Quote.bestRoute config inquiry second direction) := by
  apply Quote.best_route_matched acceptedLeft acceptedRight direction
  case resembling => exact fun _ _ changed => recharged_resembling changed
  case forth =>
    exact fun offered offer =>
      offer_rescaled recharged (LiquidityGraph.fault_none_of_pools acceptedLeft) offer
  case back =>
    intro offered offer
    have back : Recharged Decimal.Rescales right left :=
      (recharged_back recharged).imp fun _ _ ⟨fee, rescales, same⟩ => ⟨fee, rescales.symm, same⟩
    obtain ⟨pools, changed, image⟩ :=
      offer_rescaled back (LiquidityGraph.fault_none_of_pools acceptedRight) offer
    exact ⟨pools, recharged_resembling changed, image⟩

theorem describe_rescaled (type : SwapType) (best : SimulatedRoute) (amountIn : Amount)
    {pools : List Pool} {priceIn priceOut : Decimal}
    (fees : Recharged Decimal.Rescales best.route.pools pools)
    (sold : facts.priceIn.Rescales priceIn) (bought : facts.priceOut.Rescales priceOut)
    (tolerances : inquiry.tolerance.Rescales tolerance)
    (limits : config.routing.maxPriceDeviation.Rescales limit) :
    (Quote.describe config inquiry facts type best amountIn).Rescales
      (Quote.describe (config.allowing limit) { inquiry with tolerance := tolerance }
        ⟨facts.tokenIn, facts.tokenOut, priceIn, priceOut⟩ type (best.through pools) amountIn) := by
  let decimalsIn := facts.tokenIn.decimals.toNat
  let decimalsOut := facts.tokenOut.decimals.toNat
  have flagged : PriceGuard.flagged ⟨best.amountIn, decimalsIn, priceIn⟩
        ⟨best.amountOut, decimalsOut, priceOut⟩ limit =
      PriceGuard.flagged ⟨best.amountIn, decimalsIn, facts.priceIn⟩
        ⟨best.amountOut, decimalsOut, facts.priceOut⟩ config.routing.maxPriceDeviation :=
    PriceGuard.flagged_rescaled ⟨best.amountIn, decimalsIn, facts.priceIn⟩
      ⟨best.amountOut, decimalsOut, facts.priceOut⟩ sold bought limits.level
  have same : Quote.describe (config.allowing limit) { inquiry with tolerance := tolerance }
        ⟨facts.tokenIn, facts.tokenOut, priceIn, priceOut⟩ type (best.through pools) amountIn =
      { (Quote.describe config inquiry facts type best amountIn).through pools with
        priceIn := priceIn
        priceOut := priceOut
        tolerance := tolerance
        maxPriceDeviation := limit } := by
    simp only [Quote.describe, ← flagged, decimalsIn, decimalsOut]
    rfl
  rw [same]
  exact .of fees sold bought tolerances limits

theorem assemble_rescaled (recharged : Recharged Decimal.Rescales left right)
    (acceptedLeft : LiquidityGraph.ofPools left = .ok first)
    (acceptedRight : LiquidityGraph.ofPools right = .ok second) (known : facts.Rescales others)
    (bounded : validTolerance inquiry.tolerance = true)
    (tolerances : inquiry.tolerance.Rescales tolerance)
    (limits : config.routing.maxPriceDeviation.Rescales limit) :
    Matches Quote.Rescales (Quote.assemble config inquiry first facts)
      (Quote.assemble (config.allowing limit) { inquiry with tolerance := tolerance } second
        others) := by
  obtain ⟨tokenIn, tokenOut, priceIn, priceOut⟩ := others
  obtain ⟨rfl, rfl, sold, bought⟩ := known
  refine bind_matches (best_route_rescaled recharged acceptedLeft acceptedRight _) ?_
  rintro best _ ⟨pools, fees, rfl⟩
  have paid : ∀ type, Matches Eq (Quote.transferred type best inquiry.tolerance)
      (Quote.transferred type (best.through pools) tolerance) := by
    intro type
    cases type with
    | fixedInput => exact .given rfl
    | fixedOutput =>
      rw [Quote.transferred, Quote.transferred, max_amount_in_rescaled _ bounded tolerances]
      exact matches_self (fun _ => rfl) _
  refine map_matches (paid _) ?_
  rintro amountIn _ rfl
  exact describe_rescaled _ best amountIn fees sold bought tolerances limits

end Market
section Requests
variable {config : RouterConfig} {ledger : Ledger} {snapshot : Snapshot} {request : SwapRequest}
variable {tolerance limit : Decimal}

theorem malformed_rescaled (tolerances : request.tolerance.Rescales tolerance) {fault : AmountFault}
    (malformed : request.Malformed fault) :
    ∃ other, (request.tolerating tolerance).Malformed other := by
  cases malformed with
  | bothSides sold bought fixedIn fixedOut => exact ⟨_, .bothSides sold bought fixedIn fixedOut⟩
  | zero nothing => exact ⟨_, .zero nothing⟩
  | tolerance intolerable =>
    rw [tolerable_iff, ← valid_rescaled tolerances, ← tolerable_iff] at intolerable
    exact ⟨_, .tolerance intolerable⟩

/-- Both requests are refused for their own sake, or both are taken as questions. -/
theorem inquiry_rescaled (tolerances : request.tolerance.Rescales tolerance) :
    (∃ fault other, request.inquiry? = .error (.invalidAmount fault) ∧
        (request.tolerating tolerance).inquiry? = .error (.invalidAmount other)) ∨
      request.inquiry? = .ok request.question ∧
        (request.tolerating tolerance).inquiry? =
          .ok { request.question with tolerance := tolerance } := by
  rcases inquiry_cases request with ⟨fault, malformed, asked⟩ | ⟨faultless, asked⟩
  · rcases inquiry_cases (request.tolerating tolerance) with ⟨other, _, again⟩ | ⟨clear, _⟩
    · exact Or.inl ⟨fault, other, asked, again⟩
    · obtain ⟨other, malformed⟩ := malformed_rescaled tolerances malformed
      exact (clear other malformed).elim
  · rcases inquiry_cases (request.tolerating tolerance) with ⟨other, malformed, _⟩ | ⟨_, again⟩
    · have back : (request.tolerating tolerance).tolerance.Rescales request.tolerance :=
        tolerances.symm
      obtain ⟨fault, malformed⟩ := malformed_rescaled back malformed
      exact (faultless fault malformed).elim
    · exact Or.inr ⟨asked, again⟩

theorem compute_rescaled {inquiry : Inquiry} (rescales : ledger.snapshot.Rescales snapshot)
    (bounded : validTolerance inquiry.tolerance = true)
    (tolerances : inquiry.tolerance.Rescales tolerance)
    (limits : config.routing.maxPriceDeviation.Rescales limit) (reads : Reads) :
    Matches Quote.Rescales
      (((Quote.compute config ledger inquiry).answer reads).mapError RouterError.code)
      (((Quote.compute (config.allowing limit) (ledger.withSnapshot snapshot)
        { inquiry with tolerance := tolerance }).answer reads).mapError RouterError.code) := by
  have listed : Matches
      (fun pools others => pools = ledger.snapshot.pools ∧ others = snapshot.pools) _ _ :=
    renamed_matches RouterError.code
      (Ledger.pools_matched ledger (ledger.withSnapshot snapshot) rfl)
  simp only [Quote.compute_answer, renamed_bind]
  refine bind_matches listed ?_
  rintro _ _ ⟨rfl, rfl⟩
  rcases accepted_rescaled rescales.pools with
    ⟨first, second, acceptedLeft, acceptedRight⟩ | ⟨fault, other, rejected, failed⟩
  · have entered := Quote.market_matched config.contracts inquiry acceptedLeft acceptedRight
      (names_recharged rescales.pools) (routable_recharged rescales.pools)
    refine bind_matches (renamed_matches RouterError.code entered) ?_
    rintro _ _ ⟨rfl, rfl⟩
    refine bind_matches (facts_rescaled rescales _ _) fun facts others known => ?_
    exact renamed_matches RouterError.code
      (assemble_rescaled rescales.pools acceptedLeft acceptedRight known bounded tolerances limits)
  · simp only [Quote.market, rejected, failed, Except.bind]
    exact .refused _

theorem alone_rescaled (rescales : ledger.snapshot.Rescales snapshot)
    (tolerances : request.tolerance.Rescales tolerance)
    (limits : config.routing.maxPriceDeviation.Rescales limit) :
    Matches Quote.Rescales ((Session.alone config ledger request).mapError RouterError.code)
      ((Session.alone (config.allowing limit) (ledger.withSnapshot snapshot)
        (request.tolerating tolerance)).mapError RouterError.code) := by
  rw [Session.alone_eq, Session.alone_eq]
  rcases inquiry_rescaled tolerances with ⟨fault, other, asked, again⟩ | ⟨asked, again⟩
  · rw [asked, again]
    exact .refused _
  · rw [asked, again]
    exact compute_rescaled rescales (valid_of_inquiry asked) tolerances limits .zero

end Requests

namespace Quote
variable {config : RouterConfig} {quote other : Quote}

/-- Neither fees nor prices enter the transactions, and the bounds only depend on values. -/
theorem transactions_rescaled (limit : Decimal) (sender : Address) (rescales : quote.Rescales other)
    (bounded : validTolerance quote.tolerance = true) :
    other.transactions (config.allowing limit) sender = quote.transactions config sender := by
  obtain @⟨pools, priceIn, priceOut, tolerance, allowed, fees, _, _, tolerances, _⟩ := rescales
  have bounds : Quote.bounds { quote.through pools with
      priceIn := priceIn, priceOut := priceOut, tolerance := tolerance,
      maxPriceDeviation := allowed } = (quote.through pools).bounds := by
    simp only [Quote.bounds, Quote.through, SwapBounds.compute_rescaled _ _ bounded tolerances]
  rw [← transactions_resembling config sender (recharged_resembling fees), transactions,
    transactions, bounds]
  rfl

theorem rescales_agreeing (rescales : quote.Rescales other) {tolerance again : Decimal}
    (one : tolerance.sameValue quote.tolerance = true)
    (two : again.sameValue other.tolerance = true)
    (bounded : validTolerance tolerance = true) (valid : validTolerance again = true) :
    Rescales { quote with tolerance := tolerance } { other with tolerance := again } := by
  obtain ⟨fees, sold, bought, tolerances, limits⟩ := rescales
  have level : again.sameValue tolerance = true := by
    rw [← Decimal.at_max_scale_eq_iff] at one two ⊢
    exact two.trans (((Decimal.at_max_scale_eq_iff ..).mpr tolerances.level).trans one.symm)
  exact .of fees sold bought (rescales_of_valid bounded valid level) limits

end Quote

namespace Session

theorem valid_of_resolve {config : RouterConfig} {ledger : Ledger} {earlier : List SwapRequest}
    {request : SwapRequest} {quote : Quote}
    (given : (((start config ledger).after earlier).resolve request).1 = .ok quote) :
    validTolerance quote.tolerance = true := by
  have trusted : Trusted config ((start config ledger).after earlier) :=
    reached_trusted (after_reached (.start ledger) earlier)
  exact (Quote.sourced_of_issued ((resolve_trusted trusted request).2 quote given)).bounded

/-- Where nothing but the scale of decimals differs, two routers refuse with one code or give quotes
that differ in nothing else, and build the same transactions. Neither depends on what was asked
before. -/
theorem scale_leaves_no_trace (config : RouterConfig) (ledger : Ledger) (snapshot : Snapshot)
    (request : SwapRequest) (tolerance limit : Decimal)
    (rescales : ledger.snapshot.Rescales snapshot)
    (tolerances : request.tolerance.Rescales tolerance)
    (limits : config.routing.maxPriceDeviation.Rescales limit) (earlier before : List SwapRequest) :
    let answer := (((start config ledger).after earlier).resolve request).1
    let other :=
      (((start (config.allowing limit) (ledger.withSnapshot snapshot)).after before).resolve
        (request.tolerating tolerance)).1
    Matches Quote.Rescales (answer.mapError RouterError.code) (other.mapError RouterError.code) ∧
      ∀ quote again sender, answer = .ok quote → other = .ok again →
        again.transactions (config.allowing limit) sender = quote.transactions config sender := by
  intro answer other
  have matched : Matches Quote.Rescales (answer.mapError RouterError.code)
      (other.mapError RouterError.code) := by
    have alike := alone_rescaled rescales tolerances limits
    have first : Quote.Agrees _ answer := answer_after config ledger earlier request
    have second : Quote.Agrees _ other := answer_after ..
    have bounded : ∀ quote, answer = .ok quote → validTolerance quote.tolerance = true :=
      fun _ => valid_of_resolve
    have valid : ∀ quote, other = .ok quote → validTolerance quote.tolerance = true :=
      fun _ => valid_of_resolve
    generalize alone config ledger request = one at alike first
    generalize alone (config.allowing limit) _ _ = two at alike second
    clear_value answer other
    cases first with
    | refused error =>
      cases second with
      | refused fault => exact alike
      | given holds => cases alike
    | given holds =>
      obtain ⟨_, level, rfl⟩ := holds
      cases second with
      | refused fault => cases alike
      | given holds =>
        obtain ⟨_, again, rfl⟩ := holds
        cases alike with
        | given related =>
          exact .given (Quote.rescales_agreeing related level again (bounded _ rfl) (valid _ rfl))
  refine ⟨matched, fun quote again sender given found => ?_⟩
  rw [given, found] at matched
  cases matched with
  | given related =>
    exact Quote.transactions_rescaled limit sender related (valid_of_resolve given)

end Session

namespace Sample

/-- The value 1.0. -/
def longOne : Decimal := ⟨false, 10, 1, by decide, by decide⟩

/-- The fee 0.0030. -/
def longFee : Decimal := ⟨false, 30, 4, by decide, by decide⟩

/-- One fee and one price are written with a zero more. -/
def rescaledSnapshot : Snapshot :=
  ⟨[first.charging longFee, second, direct], ledger.snapshot.tokens,
    [(usdc, "1.0"), (wrapped, "1")]⟩

theorem snapshot_rescales : ledger.snapshot.Rescales rescaledSnapshot where
  pools := .cons ⟨longFee, ⟨rfl, by decide⟩, rfl⟩ (.cons ⟨_, Decimal.rescales_self _, rfl⟩
    (.cons ⟨_, Decimal.rescales_self _, rfl⟩ .nil))
  tokens := rfl
  prices := .cons ⟨rfl, .read Decimal.one longOne rfl rfl ⟨rfl, by decide⟩⟩
    (.cons ⟨rfl, .read Decimal.one Decimal.one rfl rfl (Decimal.rescales_self _)⟩ .nil)

end Sample

namespace Session

theorem scale_leaves_no_trace_sample :
    ∃ quote other,
      ((start .default Sample.ledger).resolve (Sample.request Sample.half)).1 = .ok quote ∧
        ((start (RouterConfig.default.allowing Sample.longOne)
          (Sample.ledger.withSnapshot Sample.rescaledSnapshot)).resolve
            (Sample.request Sample.rescaled)).1 = .ok other ∧
        other.amountIn = quote.amountIn ∧
        other.transactions (RouterConfig.default.allowing Sample.longOne) ⟨"erd1sender"⟩ =
          quote.transactions .default ⟨"erd1sender"⟩ := by
  have given : ((start .default Sample.ledger).resolve (Sample.request Sample.half)).1 =
      .ok (Sample.quote 80 1 [1, 873, 80]) :=
    (resolve_start ..).trans (Sample.quoted 80 1 [1, 873, 80] rfl rfl)
  obtain ⟨matched, built⟩ := scale_leaves_no_trace .default Sample.ledger Sample.rescaledSnapshot
    (Sample.request Sample.half) Sample.rescaled Sample.longOne Sample.snapshot_rescales
    ⟨rfl, by decide⟩ ⟨rfl, by decide⟩ [] []
  dsimp only [after] at matched built
  rw [given] at matched
  obtain ⟨other, found, related⟩ := given_of_matches matched
  have again := (renamed_ok_iff ..).mp found
  refine ⟨_, other, given, again, ?_, built _ other _ given again⟩
  cases related
  rfl

end Session
end PoolRouting
