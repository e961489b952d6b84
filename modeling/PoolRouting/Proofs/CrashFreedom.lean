import PoolRouting.Proofs.CheckedQuotes
import PoolRouting.Proofs.SessionLookup

/-!
Nothing crashes. With every partial step checked, a session answers each request as it does without
the checks, and the transactions of every quote, however it came about, are built or refused as
without them. No subtraction goes below zero, nothing is divided by zero, no decimal outgrows its
bits and no index leaves its list.
-/

namespace PoolRouting
namespace Checked
variable {ε α β : Type}

def transferred (type : SwapType) (route : SimulatedRoute) (tolerance : Decimal) :
    Checked RouterError Amount :=
  match type with
  | .fixedInput => amountIn route
  | .fixedOutput => do
    let first ← amountIn route
    raised first tolerance

/-- Rates and deviation of a chosen route. -/
def describe (config : RouterConfig) (inquiry : Inquiry) (facts : PairFacts) (type : SwapType)
    (route : SimulatedRoute) (paid : Amount) : Checked ε Quote := do
  let decimalsIn := facts.tokenIn.decimals.toNat
  let decimalsOut := facts.tokenOut.decimals.toNat
  let sold ← amountIn route
  let bought ← amountOut route
  let rateIn ← exchangeRate sold bought decimalsIn
  let rateOut ← exchangeRate bought sold decimalsOut
  let priceDeviation ← flagged ⟨sold, decimalsIn, facts.priceIn⟩
    ⟨bought, decimalsOut, facts.priceOut⟩ config.routing.maxPriceDeviation
  let rateInText ← denominate rateIn decimalsOut
  let rateOutText ← denominate rateOut decimalsIn
  return { type := type
           tokenIn := inquiry.tokenIn
           tokenOut := inquiry.tokenOut
           amountIn := paid
           amountOut := bought
           route := route
           priceIn := facts.priceIn
           priceOut := facts.priceOut
           rateIn := rateIn
           rateOut := rateOut
           rateInText := rateInText
           rateOutText := rateOutText
           tolerance := inquiry.tolerance
           maxPriceDeviation := config.routing.maxPriceDeviation
           priceDeviation := priceDeviation }

def bestRoute (config : RouterConfig) (inquiry : Inquiry) (graph : LiquidityGraph)
    (direction : SwapDirection) : Checked RouterError SimulatedRoute := do
  let candidates ← simulateAll direction
    (graph.routes (config.contracts.routingToken inquiry.tokenIn)
      (config.contracts.routingToken inquiry.tokenOut) config.routing.maxHops.toNat)
  select direction.type inquiry.tokenIn inquiry.tokenOut candidates

def assemble (config : RouterConfig) (inquiry : Inquiry) (graph : LiquidityGraph)
    (facts : PairFacts) : Checked RouterError Quote := do
  let direction := inquiry.direction.getD ⟨.fixedInput, facts.tokenIn.oneUnit⟩
  let route ← bestRoute config inquiry graph direction
  let paid ← transferred direction.type route inquiry.tolerance
  describe config inquiry facts direction.type route paid

section Route
variable {route : SimulatedRoute} (several : route.amounts ≠ [])
include several

theorem transferred_agrees (type : SwapType) (tolerance : Decimal) :
    transferred type route tolerance = lift (Quote.transferred type route tolerance) := by
  cases type with
  | fixedInput => exact amount_in_agrees several
  | fixedOutput =>
    rw [transferred, amount_in_agrees several, ok_bind, raised_agrees]
    rfl

theorem describe_agrees (config : RouterConfig) (inquiry : Inquiry) (facts : PairFacts)
    (type : SwapType) (paid : Amount) :
    (describe config inquiry facts type route paid : Checked ε Quote) =
      .ok (Quote.describe config inquiry facts type route paid) := by
  rw [describe, amount_in_agrees several, ok_bind, amount_out_agrees several, ok_bind,
    exchange_rate_agrees, ok_bind, exchange_rate_agrees, ok_bind, flagged_agrees, ok_bind,
    denominate_agrees, ok_bind, denominate_agrees]
  rfl

end Route

theorem best_route_agrees (config : RouterConfig) (inquiry : Inquiry) (graph : LiquidityGraph)
    (direction : SwapDirection) :
    bestRoute config inquiry graph direction =
      lift (Quote.bestRoute config inquiry graph direction) := by
  rw [bestRoute, simulate_all_agrees]
  exact bind_lifted fun candidates found =>
    select_agrees direction.type _ _ (amounts_of_all found)

theorem amounts_of_best {config : RouterConfig} {inquiry : Inquiry} {graph : LiquidityGraph}
    {direction : SwapDirection} {route : SimulatedRoute}
    (found : Quote.bestRoute config inquiry graph direction = .ok route) : route.amounts ≠ [] := by
  obtain ⟨candidates, simulated, selected⟩ := (bind_ok_iff ..).mp found
  unfold SimulatedRoute.select at selected
  split at selected
  · next best chosen =>
    cases selected
    exact amounts_of_all simulated _ (SimulatedRoute.best_spec _ _ _ chosen).1
  · cases selected

theorem assemble_agrees (config : RouterConfig) (inquiry : Inquiry) (graph : LiquidityGraph)
    (facts : PairFacts) :
    assemble config inquiry graph facts = lift (Quote.assemble config inquiry graph facts) := by
  rw [assemble, best_route_agrees]
  refine bind_lifted fun route found => ?_
  have several := amounts_of_best found
  rw [transferred_agrees several]
  exact map_lifted fun paid _ => describe_agrees several ..

/-! Reading the ledger, and the session around it. -/

/-- A consultation whose partial steps are checked. -/
abbrev Consulting (α : Type) := ExceptT (Stop RouterError) (StateM Reads) α

/-- A consultation without partial steps. -/
def consult (consultation : Consultation α) : Consulting α :=
  ExceptT.mk (lift <$> consultation.run)

def compute (config : RouterConfig) (ledger : Ledger) (inquiry : Inquiry) : Consulting Quote := do
  let pools ← consult (Consultation.readPools ledger.pools)
  let graph ← market config.contracts inquiry pools
  let facts ← consult (Quote.readFacts ledger (config.contracts.routingToken inquiry.tokenIn)
    (config.contracts.routingToken inquiry.tokenOut))
  assemble config inquiry graph facts

theorem consult_bind (first : Consultation α) (next : α → Consultation β) :
    consult (first >>= next) = consult first >>= fun value => consult (next value) := by
  refine ExceptT.ext (StateT.ext fun reads => ?_)
  simp only [consult, ExceptT.run_mk, ExceptT.run_bind, StateT.run_map, StateT.run_bind]
  rcases first.run.run reads with ⟨outcome, later⟩
  cases outcome <;> rfl

theorem consult_lift (outcome : Except RouterError α) :
    consult (liftM outcome) = (liftM (lift outcome) : Consulting α) := by
  cases outcome <;> rfl

theorem compute_agrees (config : RouterConfig) (ledger : Ledger) (inquiry : Inquiry) :
    compute config ledger inquiry = consult (Quote.compute config ledger inquiry) := by
  simp only [compute, Quote.compute, consult_bind, consult_lift, market_agrees, assemble_agrees]

def computeIn (session : Session) (inquiry : Inquiry) : Checked RouterError Quote × Session :=
  let (result, reads) := (compute session.config session.ledger inquiry).run.run session.reads
  (result, { session with reads := reads })

-- A crash leaves the cell of its producer as empty as a refusal does.
def lookup (session : Session) (inquiry : Inquiry) : Checked RouterError Quote × Session :=
  match session.cache with
  | none => computeIn session inquiry
  | some cache =>
    match cache.request inquiry.key .lasting with
    | (cache, .hit quote) => (.ok quote, { session with cache := some cache })
    | (cache, .bypass) => computeIn { session with cache := some cache } inquiry
    | (cache, .cell cell) =>
      let (result, session) := computeIn session inquiry
      (result, { session with cache := some (cache.settle cell result) })

def resolve (session : Session) (request : SwapRequest) : Checked RouterError Quote × Session :=
  match request.inquiry? with
  | .error error => (refuse error, session)
  | .ok inquiry => lookup session inquiry

theorem compute_in_agrees (session : Session) (inquiry : Inquiry) :
    computeIn session inquiry =
      (lift (session.compute inquiry).1, (session.compute inquiry).2) := by
  rw [computeIn, compute_agrees]
  rfl

theorem settle_lifted {κ : Type} [DecidableEq κ] (cache : Cache κ α) (cell : Nat)
    (outcome : Except ε α) : cache.settle cell (lift outcome) = cache.settle cell outcome := by
  cases outcome <;> rfl

theorem lookup_agrees (session : Session) (inquiry : Inquiry) :
    lookup session inquiry = (lift (session.lookup inquiry).1, (session.lookup inquiry).2) := by
  unfold lookup Session.lookup
  cases session.cache with
  | none => exact compute_in_agrees session inquiry
  | some cache =>
    dsimp only
    rcases cache.request inquiry.key .lasting with ⟨later, _ | cell | _⟩
    · rfl
    · dsimp only
      rw [compute_in_agrees]
      dsimp only
      rw [settle_lifted]
    · exact compute_in_agrees _ inquiry

theorem resolve_agrees (session : Session) (request : SwapRequest) :
    resolve session request = (lift (session.resolve request).1, (session.resolve request).2) := by
  rw [resolve, Session.resolve_eq]
  cases request.inquiry? with
  | error error => rfl
  | ok inquiry => exact lookup_agrees session inquiry

/-- Every request and every quote is answered as without the checks, and no step crashes on the
way. -/
theorem nothing_crashes :
    (∀ (session : Session) (request : SwapRequest),
      Survives (resolve session request).1 ∧
      resolve session request =
        (lift (session.resolve request).1, (session.resolve request).2)) ∧
    ∀ (config : RouterConfig) (sender : Address) (quote : Quote),
      Survives (transactions config sender quote) ∧
      transactions config sender quote = lift (quote.transactions config sender) := by
  refine ⟨fun session request => ?_, fun config sender quote => ?_⟩
  · have agree := resolve_agrees session request
    exact ⟨agree ▸ survives_lift _, agree⟩
  · have agree := transactions_agree config sender quote
    exact ⟨agree ▸ survives_lift _, agree⟩

end Checked
end PoolRouting
