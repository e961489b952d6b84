import PoolRouting.Proofs.CandidateOrder
import PoolRouting.Proofs.CheckedBuilding
import PoolRouting.Proofs.CheckedRates
import PoolRouting.Session

/-!
Quotes with every partial step checked, from the pool list to the answer of a session. Fees and
prices are checked by other steps than those that divide by them, and the amounts of a candidate are
read after the route that made them has been simulated; carried along the whole way, these checks
leave nothing to crash.
-/

namespace PoolRouting
namespace Checked
variable {ε α β : Type}

/-! The liquidity graph. -/

def poolFault? (pool : Pool) : Checked ε (Option PoolFault) :=
  if pool.tokenA = pool.tokenB then return some (.selfPaired pool.address pool.tokenA)
  else do
    let ratio ← feeRatio? pool.feeFraction
    if ratio.isNone then return some (.feeOutOfRange pool.address pool.feeFraction)
    else if pool.totalSupply = 0 ∧ (pool.reserveA ≠ 0 ∨ pool.reserveB ≠ 0) then
      return some (.reservesWithoutSupply pool.address)
    else return none

def firstFault? (seen : List Address) : List Pool → Checked ε (Option PoolFault)
  | [] => return none
  | pool :: rest =>
    if pool.address ∈ seen then return some (.repeated pool.address)
    else do
      match ← poolFault? pool with
      | some fault => return some fault
      | none => firstFault? (pool.address :: seen) rest

def ofPools (pools : List Pool) : Checked RouterError LiquidityGraph := do
  match ← firstFault? [] pools with
  | some fault => refuse (.dataIntegrity fault)
  | none => return .ofTrusted pools

def market (contracts : ContractsConfig) (inquiry : Inquiry) (pools : List Pool) :
    Checked RouterError LiquidityGraph := do
  let graph ← ofPools pools
  let source := contracts.routingToken inquiry.tokenIn
  let target := contracts.routingToken inquiry.tokenOut
  if !graph.isKnown source then refuse (.unknownToken inquiry.tokenIn)
  else if !graph.isKnown target then refuse (.unknownToken inquiry.tokenOut)
  else if !graph.isRoutable source || !graph.isRoutable target then
    refuse (.noRouteFound inquiry.tokenIn inquiry.tokenOut)
  else return graph

theorem pool_fault_agrees (pool : Pool) :
    (poolFault? pool : Checked ε (Option PoolFault)) = .ok pool.fault? := by
  unfold poolFault? Pool.fault?
  split
  · rfl
  rw [fee_ratio_agrees, ok_bind]
  split
  · rfl
  split <;> rfl

theorem first_fault_agrees (seen : List Address) (pools : List Pool) :
    (firstFault? seen pools : Checked ε (Option PoolFault)) =
      .ok (PoolRouting.firstFault? seen pools) := by
  induction pools generalizing seen with
  | nil => rfl
  | cons pool rest ih =>
    rw [firstFault?, PoolRouting.firstFault?]
    split
    · rfl
    · rw [pool_fault_agrees, ok_bind]
      cases pool.fault? with
      | some fault => rfl
      | none => exact ih (pool.address :: seen)

theorem of_pools_agrees (pools : List Pool) :
    ofPools pools = lift (LiquidityGraph.ofPools pools) := by
  rw [ofPools, first_fault_agrees, ok_bind, LiquidityGraph.ofPools]
  cases PoolRouting.firstFault? [] pools <;> rfl

theorem market_agrees (contracts : ContractsConfig) (inquiry : Inquiry) (pools : List Pool) :
    market contracts inquiry pools = lift (Quote.market contracts inquiry pools) := by
  rw [market, of_pools_agrees]
  refine bind_lifted fun graph _ => ?_
  dsimp only
  rw [apply_ite lift, apply_ite lift, apply_ite lift]
  rfl

/-! Candidates: every route is simulated before any failure is looked at. -/

/-- The simulations that came to something, unless a failure reaches beyond its route. -/
def gathered : List (Except RouterError SimulatedRoute) →
    Except RouterError (List SimulatedRoute)
  | [] => .ok []
  | .ok simulated :: rest => (gathered rest).map fun later => simulated :: later
  | .error error :: rest => if error.isRouteLocal then gathered rest else .error error

def simulateAll (direction : SwapDirection) (routes : List Route) :
    Checked RouterError (List SimulatedRoute) := do
  let outcomes ← routes.mapM fun route => settled (simulate route direction)
  lift (gathered outcomes)

def openAmountOrder (type : SwapType) (left right : SimulatedRoute) : Checked ε Ordering :=
  match type with
  | .fixedInput => do
    let theirs ← amountOut right
    let ours ← amountOut left
    return compare theirs ours
  | .fixedOutput => do
    let ours ← amountIn left
    let theirs ← amountIn right
    return compare ours theirs

def order (type : SwapType) (left right : SimulatedRoute) : Checked ε Ordering := do
  let byAmount ← openAmountOrder type left right
  return byAmount.then
    ((compare left.hopCount right.hopCount).then
      ((compare left.route.tokens right.route.tokens).then
        (compare left.route.addresses right.route.addresses)))

/-- The best of a candidate and those after it, compared from the left. -/
def bestFrom (type : SwapType) (best : SimulatedRoute) :
    List SimulatedRoute → Checked ε SimulatedRoute
  | [] => return best
  | candidate :: rest => do
    let order ← order type best candidate
    bestFrom type (if order.isLE then best else candidate) rest

def select (type : SwapType) (tokenIn tokenOut : TokenId) :
    List SimulatedRoute → Checked RouterError SimulatedRoute
  | [] => refuse (.noRouteFound tokenIn tokenOut)
  | first :: rest => bestFrom type first rest

theorem gathered_simulations (direction : SwapDirection) (routes : List Route) :
    gathered (routes.map fun route => route.simulate direction) =
      PoolRouting.simulateAll direction routes := by
  induction routes with
  | nil => rfl
  | cons route rest ih =>
    rw [List.map_cons, PoolRouting.simulateAll]
    cases route.simulate direction with
    | ok simulated => rw [gathered, ih]
    | error error => rw [gathered, ih]

theorem simulate_all_agrees (direction : SwapDirection) (routes : List Route) :
    simulateAll direction routes = lift (PoolRouting.simulateAll direction routes) := by
  have each : ∀ route ∈ routes, (settled (simulate route direction) :
      Checked RouterError (Except RouterError SimulatedRoute)) =
        .ok (route.simulate direction) := by
    intro route _
    rw [simulate_agrees, settled_lift]
  rw [simulateAll, map_m_ok each, ok_bind, gathered_simulations]

end Checked

theorem simulated_of_all {direction : SwapDirection} {routes : List Route}
    {candidates : List SimulatedRoute} (found : simulateAll direction routes = .ok candidates) :
    ∀ candidate ∈ candidates, ∃ route : Route, route.simulate direction = .ok candidate := by
  induction routes generalizing candidates with
  | nil =>
    cases found
    simp
  | cons route rest ih =>
    unfold simulateAll at found
    split at found
    · next simulated outcome =>
      obtain ⟨later, goes, rfl⟩ := (map_ok_iff ..).mp found
      rintro candidate (_ | ⟨_, listed⟩)
      · exact ⟨route, outcome⟩
      · exact ih goes candidate listed
    · split at found
      · exact ih found
      · cases found

theorem amounts_of_all {direction : SwapDirection} {routes : List Route}
    {candidates : List SimulatedRoute} (found : simulateAll direction routes = .ok candidates) :
    ∀ candidate ∈ candidates, candidate.amounts ≠ [] := by
  intro candidate listed empty
  obtain ⟨route, simulated⟩ := simulated_of_all found candidate listed
  have counted := Route.length_simulated simulated
  rw [empty] at counted
  cases counted

namespace Checked

theorem order_agrees (type : SwapType) {left right : SimulatedRoute} (listed : left.amounts ≠ [])
    (other : right.amounts ≠ []) :
    (order type left right : Checked ε Ordering) = .ok (SimulatedRoute.order type left right) := by
  cases type with
  | fixedInput =>
    rw [order, openAmountOrder, amount_out_agrees other, amount_out_agrees listed]
    rfl
  | fixedOutput =>
    rw [order, openAmountOrder, amount_in_agrees listed, amount_in_agrees other]
    rfl

theorem best_from_agrees (type : SwapType) {best : SimulatedRoute} {rest : List SimulatedRoute}
    (several : ∀ candidate ∈ best :: rest, candidate.amounts ≠ []) :
    ∃ chosen, SimulatedRoute.best? type (best :: rest) = some chosen ∧
      (bestFrom type best rest : Checked ε SimulatedRoute) = .ok chosen := by
  induction rest generalizing best with
  | nil => exact ⟨best, rfl, rfl⟩
  | cons candidate rest ih =>
    obtain ⟨first, others⟩ := List.forall_mem_cons.mp several
    obtain ⟨second, others⟩ := List.forall_mem_cons.mp others
    have kept : (SimulatedRoute.preferred type best candidate).amounts ≠ [] := by
      unfold SimulatedRoute.preferred
      split
      · exact first
      · exact second
    rw [SimulatedRoute.best_of_first_two, bestFrom, order_agrees type first second, ok_bind]
    exact ih (List.forall_mem_cons.mpr ⟨kept, others⟩)

theorem select_agrees (type : SwapType) (tokenIn tokenOut : TokenId)
    {candidates : List SimulatedRoute}
    (several : ∀ candidate ∈ candidates, candidate.amounts ≠ []) :
    select type tokenIn tokenOut candidates =
      lift (SimulatedRoute.select type tokenIn tokenOut candidates) := by
  cases candidates with
  | nil => rfl
  | cons first rest =>
    obtain ⟨chosen, best, found⟩ := best_from_agrees type several
    rw [select, found, SimulatedRoute.select, best]
    rfl

end Checked
end PoolRouting
