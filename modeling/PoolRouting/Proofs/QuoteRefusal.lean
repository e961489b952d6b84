import PoolRouting.Proofs.DecimalValue
import PoolRouting.Proofs.MarketMatching
import PoolRouting.Proofs.SessionTransparency

/-!
Why a request is refused. Seven obstacles are looked at in a fixed order; the first that stands
decides what is reported, and a request that none stands against is quoted. What a single route
cannot do is never reported.
-/

namespace PoolRouting

namespace SwapRequest

/-- The fixed side of a request with at most one amount. -/
def fixed? (request : SwapRequest) : Option SwapDirection :=
  match request.amountIn, request.amountOut with
  | some amount, _ => some ⟨.fixedInput, amount⟩
  | none, some amount => some ⟨.fixedOutput, amount⟩
  | none, none => none

def question (request : SwapRequest) : Inquiry :=
  ⟨request.tokenIn, request.tokenOut, request.fixed?, request.tolerance⟩

/-- No swap can have the amounts or the tolerance. -/
inductive Malformed (request : SwapRequest) : AmountFault → Prop where
  | bothSides (sold bought : Amount) (fixedIn : request.amountIn = some sold)
      (fixedOut : request.amountOut = some bought) : Malformed request .bothSides
  | zero (nothing : request.amountIn = some 0 ∨ request.amountOut = some 0) :
      Malformed request .zero
  -- As in a quote, a zero with a minus sign is not tolerable.
  | tolerance (intolerable : ¬ request.tolerance.Tolerable) :
      Malformed request (.tolerance request.tolerance)

end SwapRequest

/-- The snapshot has metadata of the token and a price for it that can be read and is not
negative. -/
structure Snapshot.Describes (snapshot : Snapshot) (id : TokenId) : Prop where
  named : ∃ token ∈ snapshot.tokens, token.id = id
  priced : ∃ raw price, snapshot.prices.reverse.lookup id = some raw ∧
    Decimal.read (Text.trimBlanks raw.toList) = .ok price ∧ price.negative = false

/-- What can stand between a request and its quote. -/
inductive Obstacle where
  | malformed
  | contradiction
  | unknownIn
  | unknownOut
  | untraded
  | undescribed
  | unreachable
  deriving DecidableEq

namespace Obstacle

/-- The place in the order in which the obstacles are looked at. -/
def rank : Obstacle → Nat
  | malformed => 0
  | contradiction => 1
  | unknownIn => 2
  | unknownOut => 3
  | untraded => 4
  | undescribed => 5
  | unreachable => 6

section Request
variable (config : RouterConfig) (snapshot : Snapshot) (request : SwapRequest)

def Stands : Obstacle → Prop
  | malformed => ∃ fault, request.Malformed fault
  | contradiction => ∃ fault, LiquidityGraph.ofPools snapshot.pools = .error fault
  | unknownIn => ¬ Names snapshot.pools (config.contracts.routingToken request.tokenIn)
  | unknownOut => ¬ Names snapshot.pools (config.contracts.routingToken request.tokenOut)
  | untraded =>
    ¬ (Names (snapshot.pools.filter Pool.usable) (config.contracts.routingToken request.tokenIn) ∧
      Names (snapshot.pools.filter Pool.usable) (config.contracts.routingToken request.tokenOut))
  | undescribed =>
    ¬ (snapshot.Describes (config.contracts.routingToken request.tokenIn) ∧
      snapshot.Describes (config.contracts.routingToken request.tokenOut))
  | unreachable =>
    ∀ sold offered,
      (Ledger.ofSnapshot snapshot).token (config.contracts.routingToken request.tokenIn) =
          .ok sold →
        ¬ Offer config request.tokenIn request.tokenOut snapshot.pools
          (request.fixed?.getD ⟨.fixedInput, sold.oneUnit⟩) offered

/-- None of the obstacles before a place stands. -/
def Clear (place : Nat) : Prop :=
  ∀ other : Obstacle, other.rank < place → ¬ other.Stands config snapshot request

def First (obstacle : Obstacle) : Prop :=
  obstacle.Stands config snapshot request ∧ Clear config snapshot request obstacle.rank

/-- What is reported of an obstacle: tokens by the names in the request. -/
inductive Reports : Obstacle → RouterError → Prop where
  | malformed (fault : AmountFault) (holds : request.Malformed fault) :
      Reports malformed (.invalidAmount fault)
  | contradiction (fault : PoolFault)
      (found : LiquidityGraph.ofPools snapshot.pools = .error (.dataIntegrity fault)) :
      Reports contradiction (.dataIntegrity fault)
  | unknownIn : Reports unknownIn (.unknownToken request.tokenIn)
  | unknownOut : Reports unknownOut (.unknownToken request.tokenOut)
  | untraded : Reports untraded (.noRouteFound request.tokenIn request.tokenOut)
  | undescribed (error : ProviderError) : Reports undescribed (.provider error)
  | unreachable : Reports unreachable (.noRouteFound request.tokenIn request.tokenOut)

/-- No obstacle stands and there is a quote, or the first one is reported. -/
inductive Decides : Except RouterError Quote → Prop where
  | quoted {quote : Quote}
      (clear : ∀ obstacle : Obstacle, ¬ obstacle.Stands config snapshot request) :
      Decides (.ok quote)
  | refused (obstacle : Obstacle) {error : RouterError}
      (first : obstacle.First config snapshot request)
      (reports : obstacle.Reports snapshot request error) : Decides (.error error)

end Request

section Order
variable {config : RouterConfig} {snapshot : Snapshot} {request : SwapRequest}

theorem clear_next (obstacle : Obstacle) (clear : Clear config snapshot request obstacle.rank)
    (passed : ¬ obstacle.Stands config snapshot request) :
    Clear config snapshot request (obstacle.rank + 1) := by
  intro other within
  rcases Nat.lt_succ_iff_lt_or_eq.mp within with before | level
  · exact clear other before
  · have same : other = obstacle := by
      revert level
      cases other <;> cases obstacle <;> decide
    exact same ▸ passed

theorem first_unique {one two : Obstacle} (first : one.First config snapshot request)
    (other : two.First config snapshot request) : one = two := by
  have least := fun before => first.2 two before other.1
  have again := fun before => other.2 one before first.1
  revert least again
  cases one <;> cases two <;> decide

end Order
end Obstacle

section Checks
variable {request : SwapRequest}

theorem direction_cases (request : SwapRequest) :
    (∃ sold bought, request.amountIn = some sold ∧ request.amountOut = some bought) ∨
      SwapDirection.ofAmounts? request.amountIn request.amountOut = .ok request.fixed? := by
  unfold SwapRequest.fixed?
  cases request.amountIn with
  | none =>
    right
    cases request.amountOut <;> rfl
  | some sold =>
    cases request.amountOut with
    | none => exact Or.inr rfl
    | some bought => exact Or.inl ⟨sold, bought, rfl, rfl⟩

theorem fixes_nothing_iff (taken : SwapDirection.ofAmounts? request.amountIn request.amountOut =
    .ok request.fixed?) :
    (∃ direction, request.fixed? = some direction ∧ direction.amount = 0) ↔
      request.amountIn = some 0 ∨ request.amountOut = some 0 := by
  unfold SwapRequest.fixed? at taken ⊢
  generalize request.amountIn = sold at *
  generalize request.amountOut = bought at *
  cases sold <;> cases bought <;> simp_all [SwapDirection.ofAmounts?]

theorem check_cases (inquiry : Inquiry) :
    inquiry.check = .ok () ∨
      ((∃ direction, inquiry.direction = some direction ∧ direction.amount = 0) ∧
        inquiry.check = .error (.invalidAmount .zero)) ∨
      (¬ inquiry.tolerance.Tolerable ∧
        inquiry.check = .error (.invalidAmount (.tolerance inquiry.tolerance))) := by
  rw [tolerable_iff]
  unfold Inquiry.check validateTolerance
  by_cases bounded : validTolerance inquiry.tolerance = true
  · cases inquiry.direction with
    | none => simp [bounded, Except.bind]
    | some direction =>
      by_cases nothing : direction.amount = 0 <;>
        simp [SwapDirection.validate, bounded, nothing, Except.bind]
  · cases inquiry.direction with
    | none => simp [bounded, Except.bind]
    | some direction =>
      by_cases nothing : direction.amount = 0 <;>
        simp [SwapDirection.validate, bounded, nothing, Except.bind]

/-- A request is malformed and told so, or it is taken as a question. -/
theorem inquiry_cases (request : SwapRequest) :
    (∃ fault, request.Malformed fault ∧ request.inquiry? = .error (.invalidAmount fault)) ∨
      (∀ fault, ¬ request.Malformed fault) ∧ request.inquiry? = .ok request.question := by
  rcases direction_cases request with ⟨sold, bought, fixedIn, fixedOut⟩ | taken
  · refine Or.inl ⟨.bothSides, .bothSides sold bought fixedIn fixedOut, ?_⟩
    rw [SwapRequest.inquiry?, Inquiry.ofRequest, fixedIn, fixedOut]
    rfl
  have posed : request.inquiry? = request.question.check.map fun _ => request.question := by
    rw [SwapRequest.inquiry?, Inquiry.ofRequest, taken]
    rfl
  have nothing := fixes_nothing_iff taken
  rw [posed]
  rcases check_cases request.question with passed | ⟨zero, failed⟩ | ⟨intolerable, failed⟩
  · obtain ⟨positive, bounded⟩ := (inquiry_check_ok_iff _).mp passed
    refine Or.inr ⟨?_, by rw [passed]; rfl⟩
    rintro _ (⟨sold, bought, fixedIn, fixedOut⟩ | zero | intolerable)
    · rw [fixedIn, fixedOut] at taken
      cases taken
    · obtain ⟨direction, fixed, empty⟩ := nothing.mpr zero
      exact Nat.ne_of_gt (positive direction fixed) empty
    · exact intolerable ((tolerable_iff _).mpr bounded)
  · exact Or.inl ⟨.zero, .zero (nothing.mp zero), by rw [failed]; rfl⟩
  · exact Or.inl ⟨.tolerance request.tolerance, .tolerance intolerable, by rw [failed]; rfl⟩

end Checks

namespace Quote

theorem market_cases (contracts : ContractsConfig) (inquiry : Inquiry) {pools : List Pool}
    {graph : LiquidityGraph} (accepted : LiquidityGraph.ofPools pools = .ok graph) :
    let source := contracts.routingToken inquiry.tokenIn
    let target := contracts.routingToken inquiry.tokenOut
    let usable := pools.filter Pool.usable
    (¬ Names pools source ∧
        market contracts inquiry pools = .error (.unknownToken inquiry.tokenIn)) ∨
      (Names pools source ∧ ¬ Names pools target ∧
        market contracts inquiry pools = .error (.unknownToken inquiry.tokenOut)) ∨
      (Names pools source ∧ Names pools target ∧ ¬ (Names usable source ∧ Names usable target) ∧
        market contracts inquiry pools =
          .error (.noRouteFound inquiry.tokenIn inquiry.tokenOut)) ∨
      (Names pools source ∧ Names pools target ∧ (Names usable source ∧ Names usable target) ∧
        market contracts inquiry pools = .ok graph) := by
  intro source target usable
  obtain ⟨_, rfl⟩ := (LiquidityGraph.of_pools_ok_iff ..).mp accepted
  simp only [usable, ← LiquidityGraph.is_routable_iff_names]
  simp only [← LiquidityGraph.is_known_iff, market, accepted, Except.bind]
  cases (LiquidityGraph.ofTrusted pools).isKnown source with
  | false => simp
  | true =>
    cases (LiquidityGraph.ofTrusted pools).isKnown target with
    | false => simp
    | true =>
      cases (LiquidityGraph.ofTrusted pools).isRoutable source <;>
        cases (LiquidityGraph.ofTrusted pools).isRoutable target <;> simp

theorem pair_facts_fails (ledger : Ledger) (source target : TokenId) :
    FailsAs RouterError.provider (pairFacts ledger source target) := by
  refine fails_bind (fails_renamed _ _) fun _ => ?_
  refine fails_bind (fails_renamed _ _) fun _ => ?_
  refine fails_bind (fails_renamed _ _) fun _ => ?_
  refine fails_bind (fails_renamed _ _) fun _ => ?_
  refine fails_bind (fails_renamed _ _) fun _ => ?_
  refine fails_bind (fails_renamed _ _) fun _ => ?_
  exact nofun

end Quote

theorem parse_price_ok_iff (raw : String) (price : Decimal) :
    parsePrice raw = .ok price ↔
      Decimal.read (Text.trimBlanks raw.toList) = .ok price ∧ price.negative = false := by
  unfold parsePrice
  cases Decimal.read (Text.trimBlanks raw.toList) with
  | error reason => simp
  | ok read =>
    dsimp only
    by_cases below : read.negative = true
    · rw [if_pos below]
      simp only [reduceCtorEq, Except.ok.injEq, false_iff, not_and]
      rintro rfl
      simp [below]
    · rw [if_neg below]
      simp only [Except.ok.injEq]
      exact ⟨fun same => ⟨same, same ▸ Bool.eq_false_iff.mpr below⟩, And.left⟩

theorem describes_iff (snapshot : Snapshot) (id : TokenId) :
    snapshot.Describes id ↔
      (∃ token, (Ledger.ofSnapshot snapshot).token id = .ok token) ∧
        ∃ price raw, (Ledger.ofSnapshot snapshot).price id = .ok raw ∧
          parsePrice raw = .ok price := by
  have named : (∃ token, (Ledger.ofSnapshot snapshot).token id = .ok token) ↔
      ∃ token ∈ snapshot.tokens, token.id = id := by
    unfold Ledger.token Ledger.answer Ledger.ofSnapshot
    dsimp only
    cases found : snapshot.tokens.find? fun token => token.id = id with
    | none => simpa using List.find?_eq_none.mp found
    | some token =>
      have same : token.id = id := by simpa using List.find?_some found
      exact ⟨fun _ => ⟨token, List.mem_of_find?_eq_some found, same⟩, fun _ => ⟨token, rfl⟩⟩
  have priced : ∀ raw, (Ledger.ofSnapshot snapshot).price id = .ok raw ↔
      snapshot.prices.reverse.lookup id = some raw := by
    intro raw
    unfold Ledger.price Ledger.answer Ledger.ofSnapshot
    dsimp only
    cases snapshot.prices.reverse.lookup id <;> simp
  simp only [named, priced, parse_price_ok_iff]
  exact ⟨fun ⟨known, raw, price, written⟩ => ⟨known, price, raw, written⟩,
    fun ⟨known, price, raw, written⟩ => ⟨known, raw, price, written⟩⟩

theorem facts_cases (snapshot : Snapshot) (source target : TokenId) :
    (∃ facts, (snapshot.Describes source ∧ snapshot.Describes target) ∧
      Quote.pairFacts (.ofSnapshot snapshot) source target = .ok facts) ∨
    (¬ (snapshot.Describes source ∧ snapshot.Describes target) ∧
      ∃ error,
        Quote.pairFacts (.ofSnapshot snapshot) source target = .error (.provider error)) := by
  cases read : Quote.pairFacts (.ofSnapshot snapshot) source target with
  | ok facts =>
    obtain ⟨describedIn, describedOut, pricedIn, pricedOut⟩ :=
      (Quote.pair_facts_ok_iff ..).mp read
    refine Or.inl ⟨facts, ⟨?_, ?_⟩, rfl⟩
    · exact (describes_iff snapshot source).mpr ⟨⟨_, describedIn⟩, _, pricedIn⟩
    · exact (describes_iff snapshot target).mpr ⟨⟨_, describedOut⟩, _, pricedOut⟩
  | error error =>
    obtain ⟨cause, rfl⟩ := Quote.pair_facts_fails _ source target _ read
    refine Or.inr ⟨?_, cause, rfl⟩
    rintro ⟨first, second⟩
    obtain ⟨⟨tokenIn, describedIn⟩, priceIn, pricedIn⟩ := (describes_iff snapshot source).mp first
    obtain ⟨⟨tokenOut, describedOut⟩, priceOut, pricedOut⟩ :=
      (describes_iff snapshot target).mp second
    have answered := (Quote.pair_facts_ok_iff _ _ _ ⟨tokenIn, tokenOut, priceIn, priceOut⟩).mpr
      ⟨describedIn, describedOut, pricedIn, pricedOut⟩
    cases read.symm.trans answered

section Decision
variable {config : RouterConfig} {snapshot : Snapshot} {request : SwapRequest}

theorem search_decided {graph : LiquidityGraph} {facts : PairFacts}
    (clear : Obstacle.Clear config snapshot request Obstacle.unreachable.rank)
    (bounded : validTolerance request.tolerance = true)
    (accepted : LiquidityGraph.ofPools snapshot.pools = .ok graph)
    (described : (Ledger.ofSnapshot snapshot).token
      (config.contracts.routingToken request.tokenIn) = .ok facts.tokenIn) :
    Obstacle.Decides config snapshot request
      (Quote.assemble config request.question graph facts) := by
  rcases Quote.best_route_cases config request.question accepted
    (Quote.directionOf request.question facts) with ⟨best, found⟩ | ⟨unoffered, missing⟩
  · obtain ⟨amountIn, paid⟩ :=
      Quote.transferred_ok (Quote.directionOf request.question facts).type best bounded
    rw [(Quote.assemble_ok_iff _).mpr ⟨best, amountIn, found, paid, rfl⟩]
    have reachable : ¬ Obstacle.unreachable.Stands config snapshot request := fun closed =>
      closed facts.tokenIn best described (Quote.best_route_spec accepted found).1
    refine .quoted fun obstacle => Obstacle.clear_next .unreachable clear reachable obstacle ?_
    cases obstacle <;> decide
  · rw [show Quote.assemble config request.question graph facts = .error _ from
      (bind_error_iff ..).mpr (Or.inl missing)]
    refine .refused .unreachable ⟨fun sold offered found offer => ?_, clear⟩ .unreachable
    cases described.symm.trans found
    exact unoffered offered offer

theorem facts_decided {graph : LiquidityGraph}
    (clear : Obstacle.Clear config snapshot request Obstacle.undescribed.rank)
    (bounded : validTolerance request.tolerance = true)
    (accepted : LiquidityGraph.ofPools snapshot.pools = .ok graph) :
    Obstacle.Decides config snapshot request
      ((Quote.pairFacts (.ofSnapshot snapshot) (config.contracts.routingToken request.tokenIn)
        (config.contracts.routingToken request.tokenOut)).bind fun facts =>
          Quote.assemble config request.question graph facts) := by
  rcases facts_cases snapshot (config.contracts.routingToken request.tokenIn)
    (config.contracts.routingToken request.tokenOut) with
    ⟨facts, described, read⟩ | ⟨undescribed, error, read⟩
  · rw [read]
    have known := ((Quote.pair_facts_ok_iff ..).mp read).1
    have informed := Obstacle.clear_next .undescribed clear fun missing => missing described
    exact search_decided informed bounded accepted known
  · rw [read]
    exact .refused .undescribed ⟨undescribed, clear⟩ (.undescribed error)

theorem market_decided
    (clear : Obstacle.Clear config snapshot request Obstacle.contradiction.rank)
    (bounded : validTolerance request.tolerance = true) :
    Obstacle.Decides config snapshot request
      ((Quote.compute config (.ofSnapshot snapshot) request.question).answer .zero) := by
  have listed : (Ledger.ofSnapshot snapshot).pools = .ok snapshot.pools := rfl
  rw [Quote.compute_answer, listed, renamed_ok, Except.bind]
  cases accepted : LiquidityGraph.ofPools snapshot.pools with
  | error error =>
    obtain ⟨fault, rfl⟩ := LiquidityGraph.of_pools_fails snapshot.pools error accepted
    have rejected : Quote.market config.contracts request.question snapshot.pools =
        .error (.dataIntegrity fault) := by rw [Quote.market, accepted, Except.bind]
    rw [rejected]
    exact .refused .contradiction ⟨⟨_, accepted⟩, clear⟩
      (.contradiction fault accepted)
  | ok graph =>
    have trusted := Obstacle.clear_next .contradiction clear (by
      rintro ⟨fault, failed⟩
      cases accepted.symm.trans failed)
    rcases Quote.market_cases config.contracts request.question accepted with
      ⟨unknown, entered⟩ | ⟨knownIn, unknown, entered⟩ | ⟨knownIn, knownOut, untraded, entered⟩ |
        ⟨knownIn, knownOut, traded, entered⟩
    · rw [entered]
      exact .refused .unknownIn ⟨unknown, trusted⟩ .unknownIn
    all_goals have first := Obstacle.clear_next .unknownIn trusted fun unknown => unknown knownIn
    · rw [entered]
      exact .refused .unknownOut ⟨unknown, first⟩ .unknownOut
    all_goals have second := Obstacle.clear_next .unknownOut first fun unknown => unknown knownOut
    · rw [entered]
      exact .refused .untraded ⟨untraded, second⟩ .untraded
    · rw [entered]
      have third := Obstacle.clear_next .untraded second fun untraded => untraded traded
      exact facts_decided third bounded accepted

theorem alone_decided (config : RouterConfig) (snapshot : Snapshot) (request : SwapRequest) :
    Obstacle.Decides config snapshot request
      (Session.alone config (.ofSnapshot snapshot) request) := by
  have start : Obstacle.Clear config snapshot request Obstacle.malformed.rank := nofun
  rw [Session.alone_eq]
  rcases inquiry_cases request with ⟨fault, malformed, asked⟩ | ⟨faultless, asked⟩
  · rw [asked]
    exact .refused .malformed ⟨⟨fault, malformed⟩, start⟩ (.malformed fault malformed)
  · rw [asked]
    refine market_decided (Obstacle.clear_next .malformed start ?_) (valid_of_inquiry asked)
    exact fun ⟨fault, malformed⟩ => faultless fault malformed

theorem decides_agreeing {outcome later : Except RouterError Quote}
    (decides : Obstacle.Decides config snapshot request outcome)
    (agrees : Quote.Agrees outcome later) : Obstacle.Decides config snapshot request later := by
  cases agrees with
  | refused error => exact decides
  | given holds =>
    cases decides with
    | quoted clear => exact .quoted clear

theorem unreachable_of_same (same : config.contracts.routingToken request.tokenIn =
    config.contracts.routingToken request.tokenOut) :
    Obstacle.unreachable.Stands config snapshot request := fun _ _ _ offer =>
  LiquidityGraph.admissible_ends_differ offer.admissible same

theorem unread_of_malformed (session : Session)
    (malformed : Obstacle.malformed.Stands config snapshot request) :
    (session.resolve request).2 = session := by
  obtain ⟨fault, holds⟩ := malformed
  rw [Session.resolve_eq]
  rcases inquiry_cases request with ⟨reported, _, asked⟩ | ⟨faultless, _⟩
  · rw [asked]
  · exact (faultless fault holds).elim

end Decision

namespace Session

/-- A request is quoted when no obstacle stands against it, and else refused for the first that
does. A malformed one is refused unread. No refusal speaks of a single route, and the pool list is
blamed only when it contradicts itself. -/
theorem first_obstacle_decides (config : RouterConfig) (snapshot : Snapshot)
    (earlier : List SwapRequest) (request : SwapRequest) :
    let session := (start config (.ofSnapshot snapshot)).after earlier
    let answer := (session.resolve request).1
    ((∃ quote, answer = .ok quote) ↔
        ∀ obstacle : Obstacle, ¬ obstacle.Stands config snapshot request) ∧
      (∀ obstacle : Obstacle, obstacle.First config snapshot request →
        ∃ error, answer = .error error ∧ obstacle.Reports snapshot request error) ∧
      (Obstacle.malformed.Stands config snapshot request →
        (session.resolve request).2 = session) ∧
      (config.contracts.routingToken request.tokenIn =
          config.contracts.routingToken request.tokenOut →
        Obstacle.unreachable.Stands config snapshot request) ∧
      ∀ error, answer = .error error →
        (∀ pool, error ≠ .insufficientLiquidity pool) ∧ (∀ pool, error ≠ .poolInactive pool) ∧
          (∀ fault, error ≠ .invalidRoute fault) ∧
          ∀ fault, error = .dataIntegrity fault →
            Obstacle.contradiction.First config snapshot request := by
  intro session answer
  have decides : Obstacle.Decides config snapshot request answer :=
    decides_agreeing (alone_decided config snapshot request) (answer_after ..)
  clear_value answer
  refine ⟨?_, ?_, unread_of_malformed session, unreachable_of_same, ?_⟩
  · cases decides with
    | quoted clear => exact ⟨fun _ => clear, fun _ => ⟨_, rfl⟩⟩
    | refused obstacle first reports =>
      refine ⟨fun ⟨quote, given⟩ => ?_, fun clear => (clear obstacle first.1).elim⟩
      cases given
  · intro obstacle first
    cases decides with
    | quoted clear => exact (clear obstacle first.1).elim
    | refused other least reports =>
      obtain rfl := Obstacle.first_unique first least
      exact ⟨_, rfl, reports⟩
  · intro error failed
    rw [failed] at decides
    cases decides with
    | refused obstacle first reports =>
      cases reports with
      | contradiction fault found => exact ⟨nofun, nofun, nofun, fun _ _ => first⟩
      | malformed | unknownIn | unknownOut | untraded | undescribed | unreachable =>
        exact ⟨nofun, nofun, nofun, nofun⟩

-- Nothing is known of the token bought, so it has neither pools nor a price; the first is reported.
theorem first_obstacle_decides_unknown :
    ((start .default Sample.ledger).resolve
      ⟨Sample.usdc, ⟨"NONE-0000"⟩, none, some 80, Sample.half⟩).1 =
        .error (.unknownToken ⟨"NONE-0000"⟩) := by
  obtain ⟨_, refuses, _⟩ := first_obstacle_decides .default Sample.ledger.snapshot []
    ⟨Sample.usdc, ⟨"NONE-0000"⟩, none, some 80, Sample.half⟩
  have first : Obstacle.unknownOut.First .default Sample.ledger.snapshot
      ⟨Sample.usdc, ⟨"NONE-0000"⟩, none, some 80, Sample.half⟩ := by
    refine ⟨?_, fun other before => ?_⟩
    · change ¬ ∃ pool ∈ Sample.pools, _
      decide +kernel
    · cases other with
      | malformed =>
        rintro ⟨_, ⟨_, _, fixedIn, _⟩ | zero | intolerable⟩
        · cases fixedIn
        · revert zero
          decide
        · exact intolerable ((tolerable_iff _).mpr (by decide))
      | contradiction =>
        rintro ⟨fault, failed⟩
        cases Sample.ready.accepted.symm.trans failed
      | unknownIn =>
        change ¬ ¬ ∃ pool ∈ Sample.pools, _
        decide +kernel
      | unknownOut | untraded | undescribed | unreachable => exact absurd before (by decide)
  obtain ⟨_, refused, reports⟩ := refuses .unknownOut first
  cases reports
  exact refused

end Session
end PoolRouting
