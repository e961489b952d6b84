import Mathlib.Data.List.Forall2
import PoolRouting.Proofs.RouteShape
import PoolRouting.Transaction

/-!
Pools that a route cannot tell apart: they have one address, give the same tokens for each other and
are active alike. The shape of a route and the transactions of a quote look at nothing else of a
pool, so both stay as they are when the pools on the way are replaced like this; reserves and fees
only count in the amounts.
-/

namespace PoolRouting

/-- The same place in a route, whatever the pool holds and charges. -/
structure Pool.Resembles (pool other : Pool) : Prop where
  address : other.address = pool.address
  joins : ∀ token, other.otherToken? token = pool.otherToken? token
  active : other.isActive = pool.isActive

theorem Pool.Resembles.trades_iff {pool other : Pool} (resembles : pool.Resembles other)
    (sold bought : TokenId) : other.Trades sold bought ↔ pool.Trades sold bought := by
  rw [← other_token_iff, ← other_token_iff, resembles.joins]

abbrev Resembling : List Pool → List Pool → Prop := List.Forall₂ Pool.Resembles

section Resembling
variable {pools others : List Pool}

theorem addresses_resembling (resembling : Resembling pools others) :
    others.map Pool.address = pools.map Pool.address := by
  induction resembling with
  | nil => rfl
  | cons resembles _ ih => rw [List.map_cons, List.map_cons, resembles.address, ih]

theorem find_resembling {β : Type} (resembling : Resembling pools others) (test : Pool → Bool)
    (blind : ∀ pool other, pool.Resembles other → test other = test pool) (view : Address → β) :
    (others.find? test).map (fun pool => view pool.address) =
      (pools.find? test).map fun pool => view pool.address := by
  induction resembling with
  | nil => rfl
  | @cons pool other pools others resembles _ ih =>
    rw [List.find?_cons, List.find?_cons, blind pool other resembles]
    cases test pool with
    | true => exact congrArg (some ∘ view) resembles.address
    | false => exact ih

theorem gap_resembling (resembling : Resembling pools others) (tokens : List TokenId) :
    Route.gap? tokens others = Route.gap? tokens pools := by
  induction resembling generalizing tokens with
  | nil => rfl
  | cons resembles _ ih =>
    match tokens with
    | [] | [_] => rfl
    | left :: right :: tokens =>
      rw [Route.gap?, Route.gap?, resembles.joins, resembles.address, ih]

theorem hop_arguments_resembling (type : SwapType) (resembling : Resembling pools others)
    (tokens : List TokenId) (limits : List Amount) :
    Transaction.hopArguments type others tokens limits =
      Transaction.hopArguments type pools tokens limits := by
  induction resembling generalizing tokens limits with
  | nil => rfl
  | cons resembles _ ih =>
    match tokens, limits with
    | [], _ | _ :: _, [] => rfl
    | token :: tokens, limit :: limits =>
      rw [Transaction.hopArguments, Transaction.hopArguments, resembles.address, ih]

theorem joined_resembling {tokens : List TokenId} (joined : Joined tokens pools)
    (resembling : Resembling pools others) : Joined tokens others := by
  induction joined generalizing others with
  | arrived token =>
    cases resembling
    exact .arrived token
  | hop trades _ ih =>
    cases resembling with
    | cons resembles rest => exact .hop ((resembles.trades_iff _ _).mpr trades) (ih rest)

end Resembling

/-! The same route, simulation or quote over other pool records. -/

def Route.through (route : Route) (pools : List Pool) : Route := { route with pools := pools }

def SimulatedRoute.through (simulated : SimulatedRoute) (pools : List Pool) : SimulatedRoute :=
  { simulated with route := simulated.route.through pools }

def Quote.through (quote : Quote) (pools : List Pool) : Quote :=
  { quote with route := quote.route.through pools }

section Through
variable {route : Route} {pools : List Pool}

theorem fault_through (resembling : Resembling route.pools pools) :
    (route.through pools).fault? = route.fault? := by
  have counted := resembling.length_eq
  have empty : pools = [] ↔ route.pools = [] := by
    rw [← List.length_eq_zero_iff, ← List.length_eq_zero_iff, counted]
  unfold Route.fault? Route.through
  simp only [empty, counted, gap_resembling resembling]

theorem validate_through (resembling : Resembling route.pools pools) :
    (route.through pools).validate = route.validate := by
  rw [Route.validate, Route.validate, fault_through resembling]

theorem check_active_through (resembling : Resembling route.pools pools) :
    (route.through pools).checkActive = route.checkActive := by
  have found := find_resembling resembling (fun pool => !pool.isActive)
    (fun pool other resembles => congrArg not resembles.active) id
  unfold Route.checkActive Route.through
  dsimp only
  generalize pools.find? (fun pool => !pool.isActive) = right at found ⊢
  generalize route.pools.find? (fun pool => !pool.isActive) = left at found ⊢
  cases left <;> cases right <;> simp_all

end Through

namespace Quote
variable {quote : Quote} {pools : List Pool}

theorem validate_resembling (contracts : ContractsConfig)
    (resembling : Resembling quote.route.route.pools pools) :
    (quote.through pools).validate contracts = quote.validate contracts := by
  have found := find_resembling resembling (fun pool => !pool.address.isContract)
    (fun pool other resembles => by rw [resembles.address]) RouteFault.notContract
  have fault : (quote.through pools).fault? contracts = quote.fault? contracts := by
    unfold fault?
    dsimp only
    rw [← found]
    rfl
  have shape : (quote.through pools).route.route.validate = quote.route.route.validate :=
    validate_through resembling
  rw [validate, validate, shape, fault]

theorem swap_resembling (config : RouterConfig) (sender : Address) (bounds : SwapBounds)
    (resembling : Resembling quote.route.route.pools pools) :
    Transaction.swap config sender (quote.through pools) bounds =
      Transaction.swap config sender quote bounds := by
  have call : Transaction.swapCall (quote.through pools) bounds =
      Transaction.swapCall quote bounds := by
    unfold Transaction.swapCall
    simp only [Quote.through, SimulatedRoute.through, Route.through,
      hop_arguments_resembling _ resembling]
  have hops : (quote.through pools).route.hopCount = quote.route.hopCount :=
    resembling.length_eq.symm
  rw [Transaction.swap, Transaction.swap, call, hops]

theorem transactions_resembling (config : RouterConfig) (sender : Address)
    (resembling : Resembling quote.route.route.pools pools) :
    (quote.through pools).transactions config sender = quote.transactions config sender := by
  rw [transactions, transactions, validate_resembling config.contracts resembling]
  simp only [swap_resembling config sender _ resembling]
  rfl

end Quote
end PoolRouting
