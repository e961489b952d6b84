import PoolRouting.Proofs.QuoteBuilding
import PoolRouting.Proofs.QuoteRefusal

/-!
The native currency stands for its wrapped token. Pools trade only the wrapped one, so a question is
answered for the wrapped token and the names in it are only repeated; the two differ in the
transactions at the ends, where the native currency is wrapped and unwrapped.
-/

namespace PoolRouting

/-! The same request, question or quote under other names of its tokens. -/

def SwapRequest.naming (request : SwapRequest) (tokenIn tokenOut : TokenId) : SwapRequest :=
  { request with tokenIn := tokenIn, tokenOut := tokenOut }

def Inquiry.naming (inquiry : Inquiry) (tokenIn tokenOut : TokenId) : Inquiry :=
  { inquiry with tokenIn := tokenIn, tokenOut := tokenOut }

def Quote.naming (quote : Quote) (tokenIn tokenOut : TokenId) : Quote :=
  { quote with tokenIn := tokenIn, tokenOut := tokenOut }

/-- The same refusal; a token of the request that it names is named anew. -/
def RouterError.naming (sold tokenIn tokenOut : TokenId) : RouterError → RouterError
  | .unknownToken token => .unknownToken (if token = sold then tokenIn else tokenOut)
  | .noRouteFound _ _ => .noRouteFound tokenIn tokenOut
  | error => error

/-- An end of a request, and whether the native currency replaces the wrapped token there. -/
inductive ContractsConfig.Replaces (contracts : ContractsConfig) :
    Bool → TokenId → TokenId → Prop where
  | kept (token : TokenId) : Replaces contracts false token token
  | native : Replaces contracts true contracts.wrapped contracts.native

theorem ContractsConfig.routing_native (contracts : ContractsConfig) :
    contracts.routingToken contracts.native = contracts.wrapped := by
  simp [routingToken, isNative]

theorem ContractsConfig.routing_wrapped (contracts : ContractsConfig) :
    contracts.routingToken contracts.wrapped = contracts.wrapped := by
  simp [routingToken]

theorem ContractsConfig.Replaces.routing_eq {contracts : ContractsConfig} {replaced : Bool}
    {token other : TokenId} (replaces : contracts.Replaces replaced token other) :
    contracts.routingToken other = contracts.routingToken token := by
  cases replaces with
  | kept => rfl
  | native => rw [contracts.routing_native, contracts.routing_wrapped]

-- Where the wrapped token is not the native currency, an edge is added exactly at a replaced end.
theorem ContractsConfig.Replaces.edge_eq {contracts : ContractsConfig} {replaced : Bool}
    {token other : TokenId} (replaces : contracts.Replaces replaced token other)
    (distinct : contracts.native ≠ contracts.wrapped) (edge : Transaction) :
    (if contracts.isNative other then [edge] else []) =
        (if replaced then [edge] else []) ++ (if contracts.isNative token then [edge] else []) ∧
      (if contracts.isNative other then [edge] else []) =
        (if contracts.isNative token then [edge] else []) ++ if replaced then [edge] else [] := by
  cases replaces with
  | kept => simp
  | native => simp [isNative, distinct.symm]

section Questions
variable {config : RouterConfig} {ledger : Ledger} {request : SwapRequest} {inquiry : Inquiry}
variable {tokenIn tokenOut : TokenId}

theorem inquiry_naming (request : SwapRequest) (tokenIn tokenOut : TokenId) :
    (request.naming tokenIn tokenOut).inquiry? =
      recast (RouterError.naming request.tokenIn tokenIn tokenOut)
        (fun inquiry => inquiry.naming tokenIn tokenOut) request.inquiry? := by
  have named : Inquiry.ofRequest (request.naming tokenIn tokenOut) =
      (Inquiry.ofRequest request).map fun inquiry => inquiry.naming tokenIn tokenOut := by
    unfold Inquiry.ofRequest SwapRequest.naming
    cases SwapDirection.ofAmounts? request.amountIn request.amountOut <;> rfl
  rw [recast_eq_map]
  · rw [SwapRequest.inquiry?, SwapRequest.inquiry?, named]
    cases Inquiry.ofRequest request with
    | error error => rfl
    | ok inquiry =>
      change (inquiry.check.map fun _ => inquiry.naming tokenIn tokenOut) =
        (inquiry.check.map fun _ => inquiry).map _
      cases inquiry.check <;> rfl
  · intro error failed
    rcases inquiry_cases request with ⟨fault, _, refused⟩ | ⟨_, asked⟩
    · cases refused.symm.trans failed
      rfl
    · cases asked.symm.trans failed

theorem names_of_inquiry (asked : request.inquiry? = .ok inquiry) :
    inquiry.tokenIn = request.tokenIn ∧ inquiry.tokenOut = request.tokenOut := by
  rcases inquiry_cases request with ⟨fault, _, refused⟩ | ⟨_, posed⟩
  · cases refused.symm.trans asked
  · cases posed.symm.trans asked
    exact ⟨rfl, rfl⟩

variable (sameIn : config.contracts.routingToken tokenIn =
  config.contracts.routingToken inquiry.tokenIn)
variable (sameOut : config.contracts.routingToken tokenOut =
  config.contracts.routingToken inquiry.tokenOut)

namespace Quote
include sameIn sameOut

theorem market_naming (pools : List Pool) :
    market config.contracts (inquiry.naming tokenIn tokenOut) pools =
      recast (RouterError.naming inquiry.tokenIn tokenIn tokenOut) id
        (market config.contracts inquiry pools) := by
  unfold market
  cases accepted : LiquidityGraph.ofPools pools with
  | error error =>
    obtain ⟨fault, rfl⟩ := LiquidityGraph.of_pools_fails pools error accepted
    rfl
  | ok graph =>
    simp only [Except.bind, Inquiry.naming, sameIn, sameOut]
    split
    · simp [recast, RouterError.naming]
    split
    · next known unknown =>
      -- Two ends of one name are known alike, so this one is not mistaken for the other.
      have apart : inquiry.tokenOut ≠ inquiry.tokenIn := by
        intro same
        rw [same] at unknown
        exact known unknown
      simp [recast, RouterError.naming, apart]
    split
    · rfl
    · rfl

theorem best_route_naming {pools : List Pool} {graph : LiquidityGraph}
    (accepted : LiquidityGraph.ofPools pools = .ok graph) (direction : SwapDirection) :
    bestRoute config (inquiry.naming tokenIn tokenOut) graph direction =
      recast (RouterError.naming inquiry.tokenIn tokenIn tokenOut) id
        (bestRoute config inquiry graph direction) := by
  rw [best_route_eq accepted, best_route_eq accepted]
  simp only [Inquiry.naming, sameIn, sameOut]
  unfold SimulatedRoute.select
  split <;> rfl

theorem assemble_naming {pools : List Pool} {graph : LiquidityGraph} (facts : PairFacts)
    (accepted : LiquidityGraph.ofPools pools = .ok graph)
    (bounded : validTolerance inquiry.tolerance = true) :
    assemble config (inquiry.naming tokenIn tokenOut) graph facts =
      recast (RouterError.naming inquiry.tokenIn tokenIn tokenOut)
        (fun quote => quote.naming tokenIn tokenOut) (assemble config inquiry graph facts) := by
  rw [assemble, assemble, best_route_naming sameIn sameOut accepted]
  apply bind_recast
  intro route _
  obtain ⟨amountIn, paid⟩ := transferred_ok (directionOf inquiry facts).type route bounded
  unfold directionOf at paid
  simp only [Inquiry.naming, id, paid]
  rfl

theorem answer_naming (ledger : Ledger) (bounded : validTolerance inquiry.tolerance = true)
    (reads : Reads) :
    (compute config ledger (inquiry.naming tokenIn tokenOut)).answer reads =
      recast (RouterError.naming inquiry.tokenIn tokenIn tokenOut)
        (fun quote => quote.naming tokenIn tokenOut)
        ((compute config ledger inquiry).answer reads) := by
  have named : ∀ {β : Type} {outcome : Except RouterError β}, FailsAs RouterError.provider outcome →
      ∀ error, outcome = .error error →
        RouterError.naming inquiry.tokenIn tokenIn tokenOut error = error := by
    intro β outcome fails error failed
    obtain ⟨cause, rfl⟩ := fails error failed
    rfl
  rw [compute_answer, compute_answer]
  apply bind_recast_kept (named (fails_renamed _ _))
  intro pools _
  rw [market_naming sameIn sameOut]
  apply bind_recast
  intro graph entered
  have accepted := ((market_ok_iff ..).mp entered).1
  simp only [Inquiry.naming, sameIn, sameOut]
  apply bind_recast_kept (named (pair_facts_fails ledger _ _))
  intro facts _
  exact assemble_naming sameIn sameOut facts accepted bounded

end Quote
end Questions

section Requests
variable {config : RouterConfig} {ledger : Ledger} {request : SwapRequest}

theorem resolve_naming (request : SwapRequest) (tokenIn tokenOut : TokenId)
    (sameIn : config.contracts.routingToken tokenIn = config.contracts.routingToken request.tokenIn)
    (sameOut : config.contracts.routingToken tokenOut =
      config.contracts.routingToken request.tokenOut) :
    ((Session.start config ledger).resolve (request.naming tokenIn tokenOut)).1 =
      recast (RouterError.naming request.tokenIn tokenIn tokenOut)
        (fun quote => quote.naming tokenIn tokenOut)
        ((Session.start config ledger).resolve request).1 := by
  rw [Session.resolve_start, Session.resolve_start, inquiry_naming]
  apply bind_recast
  intro inquiry asked
  obtain ⟨namedIn, namedOut⟩ := names_of_inquiry asked
  rw [← namedIn] at sameIn ⊢
  rw [← namedOut] at sameOut
  exact Quote.answer_naming sameIn sameOut ledger (valid_of_inquiry asked) .zero

theorem names_of_alone {quote : Quote} (quoted : Session.alone config ledger request = .ok quote) :
    quote.tokenIn = request.tokenIn ∧ quote.tokenOut = request.tokenOut := by
  obtain ⟨inquiry, pools, graph, facts, asked, _, quoted⟩ := Session.ready_of_alone quoted
  obtain ⟨best, amountIn, _, _, rfl⟩ := (Quote.assemble_ok_iff quote).mp quoted
  exact names_of_inquiry asked

/-- One token on both sides has no quote, whatever was asked before. -/
theorem not_quoted_of_same (same : config.contracts.routingToken request.tokenIn =
    config.contracts.routingToken request.tokenOut) (earlier : List SwapRequest) (quote : Quote) :
    (((Session.start config ledger).after earlier).resolve request).1 ≠ .ok quote := by
  intro given
  obtain ⟨alone, quoted, _⟩ :=
    given_by_matches (given ▸ Session.answer_after config ledger earlier request)
  obtain ⟨inquiry, pools, graph, facts, asked, ready, quoted⟩ := Session.ready_of_alone quoted
  obtain ⟨best, amountIn, found, _, _⟩ := (Quote.assemble_ok_iff alone).mp quoted
  have offer := (Quote.best_route_spec ready.accepted found).1
  obtain ⟨namedIn, namedOut⟩ := names_of_inquiry asked
  rw [← namedIn, ← namedOut] at same
  exact LiquidityGraph.admissible_ends_differ offer.admissible same

end Requests

namespace Quote
variable {config : RouterConfig} {quote : Quote} {tokenIn tokenOut : TokenId}

theorem validate_naming (sourced : Sourced config quote)
    (sameIn : config.contracts.routingToken tokenIn = config.contracts.routingToken quote.tokenIn)
    (sameOut : config.contracts.routingToken tokenOut =
      config.contracts.routingToken quote.tokenOut) :
    (quote.naming tokenIn tokenOut).validate config.contracts =
      quote.validate config.contracts := by
  obtain ⟨pools, direction, _, _, offer⟩ := sourced.offered
  have starts := offer.admissible.starts
  have ends := offer.admissible.ends
  have faults : (quote.naming tokenIn tokenOut).fault? config.contracts =
      quote.fault? config.contracts := by
    simp [fault?, naming, Route.tokenIn?, Route.tokenOut?, sameIn, sameOut, starts, ends]
  rw [validate, validate, faults]
  rfl

theorem transactions_naming (sourced : Sourced config quote) (sender : Address)
    (distinct : config.contracts.native ≠ config.contracts.wrapped) {atIn atOut : Bool}
    (endIn : config.contracts.Replaces atIn quote.tokenIn tokenIn)
    (endOut : config.contracts.Replaces atOut quote.tokenOut tokenOut) :
    (quote.naming tokenIn tokenOut).transactions config sender =
      (quote.transactions config sender).map fun txs =>
        (if atIn then [Transaction.wrap config sender quote.amountIn] else []) ++ txs ++
          if atOut then [Transaction.unwrap config sender quote.route.amountOut] else [] := by
  have same : (quote.naming tokenIn tokenOut).bounds = quote.bounds := rfl
  rw [transactions, transactions, validate_naming sourced endIn.routing_eq endOut.routing_eq, same]
  cases quote.validate config.contracts with
  | error error => rfl
  | ok valid =>
    cases bounded : quote.bounds with
    | error error => rfl
    | ok bounds =>
      have paid := ((bounds_ok_iff quote bounds).mp bounded).2
      have written : Transaction.swap config sender (quote.naming tokenIn tokenOut) bounds =
          Transaction.swap config sender quote bounds := rfl
      simp only [Except.bind, written]
      cases Transaction.swap config sender quote bounds with
      | error error => rfl
      | ok swap =>
        have before := (endIn.edge_eq distinct (Transaction.wrap config sender bounds.amountIn)).1
        have after :=
          (endOut.edge_eq distinct (Transaction.unwrap config sender quote.route.amountOut)).2
        rw [paid] at before
        change Except.ok ((if config.contracts.isNative tokenIn then
            [Transaction.wrap config sender bounds.amountIn] else []) ++ swap ::
          if config.contracts.isNative tokenOut then
            [Transaction.unwrap config sender quote.route.amountOut] else []) = _
        rw [paid, before, after]
        simp only [Except.map, List.append_assoc, List.cons_append]

theorem unwrap_of_sourced (sourced : Sourced config quote) (sender : Address) :
    ∃ bounds, quote.bounds = .ok bounds ∧
      Unwraps config quote bounds (Transaction.unwrap config sender quote.route.amountOut) := by
  obtain ⟨bounds, bounded⟩ := bounds_of_sourced sourced
  have computed := ((bounds_ok_iff quote bounds).mp bounded).1
  have counted := SwapBounds.length_limits computed
  have nonempty : quote.route.amounts ≠ [] :=
    List.ne_nil_of_length_pos (Nat.lt_of_lt_of_eq (Nat.succ_pos _) counted.symm)
  have ends := List.getLast?_eq_some_getLast nonempty
  exact ⟨bounds, bounded, unwrap_unwraps config sender ends computed⟩

end Quote

theorem native_ne_wrapped {config : RouterConfig} (valid : config.validate = .ok config) :
    config.contracts.native ≠ config.contracts.wrapped := by
  have faultless : config.fault? = none := by
    unfold RouterConfig.validate at valid
    split at valid
    · cases valid
    · assumption
  intro same
  unfold RouterConfig.fault? at faultless
  rw [if_pos same] at faultless
  repeat' split at faultless
  all_goals cases faultless

namespace Session

/-- With the native currency in place of its wrapped token, a request has the same answer under the
new names, and the transactions gain a wrap before and an unwrap after them. Between the two there
is no quote at all. -/
theorem native_stands_for_wrapped (config : RouterConfig) (valid : config.validate = .ok config)
    (ledger : Ledger) (request : SwapRequest) (tokenIn tokenOut : TokenId) (atIn atOut : Bool)
    (endIn : config.contracts.Replaces atIn request.tokenIn tokenIn)
    (endOut : config.contracts.Replaces atOut request.tokenOut tokenOut) :
    let answer := ((start config ledger).resolve request).1
    ((start config ledger).resolve (request.naming tokenIn tokenOut)).1 =
        recast (RouterError.naming request.tokenIn tokenIn tokenOut)
          (fun quote => quote.naming tokenIn tokenOut) answer ∧
      (∀ quote sender, answer = .ok quote →
        ∃ before after,
          (quote.naming tokenIn tokenOut).transactions config sender =
              (quote.transactions config sender).map (fun txs => before ++ txs ++ after) ∧
            (if atIn then ∃ wrap, before = [wrap] ∧ Wraps config quote.amountIn wrap
              else before = []) ∧
            (if atOut then ∃ bounds unwrap, after = [unwrap] ∧ quote.bounds = .ok bounds ∧
                Unwraps config quote bounds unwrap
              else after = [])) ∧
      ∀ earlier other quote,
        (other.tokenIn = config.contracts.native ∧ other.tokenOut = config.contracts.wrapped ∨
          other.tokenIn = config.contracts.wrapped ∧ other.tokenOut = config.contracts.native) →
        (((start config ledger).after earlier).resolve other).1 ≠ .ok quote := by
  intro answer
  refine ⟨resolve_naming request tokenIn tokenOut endIn.routing_eq endOut.routing_eq, ?_, ?_⟩
  · intro quote sender given
    have sourced := Quote.sourced_of_issued
      ((resolve_trusted (start_trusted config ledger) request).2 quote given)
    have quoted : alone config ledger request = .ok quote :=
      (alone_eq ..).trans ((resolve_start ..).symm.trans given)
    obtain ⟨namedIn, namedOut⟩ := names_of_alone quoted
    rw [← namedIn] at endIn
    rw [← namedOut] at endOut
    refine ⟨_, _, Quote.transactions_naming sourced sender (native_ne_wrapped valid) endIn
      endOut, ?_, ?_⟩
    · cases atIn with
      | false => rfl
      | true => exact ⟨_, rfl, Transaction.wrap_wraps config sender quote.amountIn⟩
    · cases atOut with
      | false => rfl
      | true =>
        obtain ⟨bounds, bounded, unwraps⟩ := Quote.unwrap_of_sourced sourced sender
        exact ⟨bounds, _, rfl, bounded, unwraps⟩
  · rintro earlier other quote mixed
    refine not_quoted_of_same ?_ earlier quote
    rcases mixed with ⟨sold, bought⟩ | ⟨sold, bought⟩ <;>
      simp [sold, bought, ContractsConfig.routing_native, ContractsConfig.routing_wrapped]

-- What is bought in the native currency is bought in the wrapped token and unwrapped.
theorem native_stands_for_wrapped_sample :
    ∃ quote txs bounds unwrap,
      ((start .default Sample.ledger).resolve
        ⟨Sample.usdc, Sample.wrapped, none, some 80, Sample.half⟩).1 = .ok quote ∧
      ((start .default Sample.ledger).resolve (Sample.request Sample.half)).1 =
        .ok (quote.naming Sample.usdc Sample.native) ∧
      quote.transactions .default ⟨"erd1sender"⟩ = .ok txs ∧
      (quote.naming Sample.usdc Sample.native).transactions .default ⟨"erd1sender"⟩ =
        .ok (txs ++ [unwrap]) ∧
      Unwraps .default quote bounds unwrap := by
  have given : ((start .default Sample.ledger).resolve
      ⟨Sample.usdc, Sample.wrapped, none, some 80, Sample.half⟩).1 =
      .ok ((Sample.quote 80 1 [1, 873, 80]).naming Sample.usdc Sample.wrapped) := by
    have quoted : ((start .default Sample.ledger).resolve (Sample.request Sample.half)).1 =
        .ok (Sample.quote 80 1 [1, 873, 80]) :=
      (resolve_start ..).trans (Sample.quoted 80 1 [1, 873, 80] rfl rfl)
    exact (resolve_naming (Sample.request Sample.half) Sample.usdc Sample.wrapped rfl rfl).trans
      (congrArg (recast _ _) quoted)
  have builds : (((Sample.quote 80 1 [1, 873, 80]).naming Sample.usdc Sample.wrapped).transactions
      .default ⟨"erd1sender"⟩).toOption.isSome = true := by
    decide +kernel
  obtain ⟨same, edges, _⟩ := native_stands_for_wrapped .default rfl Sample.ledger
    ⟨Sample.usdc, Sample.wrapped, none, some 80, Sample.half⟩ Sample.usdc Sample.native false true
    (.kept _) .native
  obtain ⟨before, after, built, plain, unwrapped⟩ := edges _ ⟨"erd1sender"⟩ given
  obtain ⟨bounds, unwrap, rfl, _, unwraps⟩ := unwrapped
  cases plain
  cases swapped : ((Sample.quote 80 1 [1, 873, 80]).naming Sample.usdc Sample.wrapped).transactions
      .default ⟨"erd1sender"⟩ with
  | error error =>
    rw [swapped] at builds
    cases builds
  | ok txs =>
    rw [swapped] at built
    rw [given] at same
    exact ⟨_, txs, bounds, unwrap, given, same, swapped, built, unwraps⟩

end Session
end PoolRouting
