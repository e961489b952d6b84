import PoolRouting.Proofs.PoolResemblance
import PoolRouting.Proofs.RouteSimulation

/-!
A pool record may name its two sides in either order. No check, no trade and no transaction tells the
two apart, so a route, a simulation and a quote keep their meaning when pools on them are mirrored.
-/

namespace PoolRouting

/-- The same record, perhaps with its sides exchanged. -/
inductive Pool.Mirrors (pool : Pool) : Pool → Prop where
  | same : Mirrors pool pool
  | swapped : Mirrors pool pool.swapped

namespace Pool

theorem Mirrors.symm {pool other : Pool} (mirrors : pool.Mirrors other) : other.Mirrors pool := by
  cases mirrors with
  | same => exact .same
  | swapped => exact (.swapped : pool.swapped.Mirrors pool.swapped.swapped)

/-- What does not tell a record from its exchange does not tell mirrored records apart. -/
theorem Mirrors.view_eq {β : Type} {pool other : Pool} (mirrors : pool.Mirrors other)
    (view : Pool → β) (blind : view pool.swapped = view pool) : view other = view pool := by
  cases mirrors with
  | same => rfl
  | swapped => exact blind

section Swapped
variable (pool : Pool)

theorem other_token_swapped (token : TokenId) :
    pool.swapped.otherToken? token = pool.otherToken? token := by
  by_cases holdsA : pool.tokenA = token
  · by_cases holdsB : pool.tokenB = token
    · simp [otherToken?, swapped, holdsA, holdsB]
    · simp [otherToken?, swapped, holdsA, holdsB]
  · simp [otherToken?, swapped, holdsA]

theorem reserves_for_swapped (apart : pool.tokenA ≠ pool.tokenB) (token : TokenId) :
    pool.swapped.reservesFor? token = pool.reservesFor? token := by
  by_cases holdsA : pool.tokenA = token
  · have other : pool.tokenB ≠ token := fun holdsB => apart (holdsA.trans holdsB.symm)
    simp [reservesFor?, swapped, holdsA, other]
  · simp [reservesFor?, swapped, holdsA]

theorem fault_swapped : pool.swapped.fault? = pool.fault? := by
  by_cases paired : pool.tokenA = pool.tokenB
  · simp [fault?, swapped, paired]
  · simp [fault?, swapped, paired, Ne.symm paired, or_comm]

theorem trade_swapped (apart : pool.tokenA ≠ pool.tokenB) (token : TokenId)
    (compute : Reserves → FeeRatio → Except HopError Amount) :
    pool.swapped.trade token compute = pool.trade token compute := by
  have oriented : pool.swapped.orientedReserves token = pool.orientedReserves token := by
    rw [orientedReserves, orientedReserves, reserves_for_swapped pool apart]
    rfl
  rw [trade, trade, oriented]
  rfl

theorem sell_swapped (apart : pool.tokenA ≠ pool.tokenB) (token : TokenId) (amount : Amount) :
    pool.swapped.sell token amount = pool.sell token amount := by
  rw [sell, sell, trade_swapped pool apart]
  rfl

theorem buy_swapped (apart : pool.tokenA ≠ pool.tokenB) (token : TokenId) (amount : Amount) :
    pool.swapped.buy token amount = pool.buy token amount :=
  trade_swapped pool apart token _

end Swapped

theorem Mirrors.resembles {pool other : Pool} (mirrors : pool.Mirrors other) :
    pool.Resembles other where
  address := mirrors.view_eq Pool.address rfl
  joins := fun token =>
    mirrors.view_eq (fun pool => pool.otherToken? token) (pool.other_token_swapped token)
  active := mirrors.view_eq Pool.isActive rfl

end Pool

/-- Pool by pool the same records, perhaps with their sides exchanged. -/
abbrev Mirrored : List Pool → List Pool → Prop := List.Forall₂ Pool.Mirrors

section Mirrored
variable {pools others : List Pool}

theorem Mirrored.map_eq {β : Type} (mirrored : Mirrored pools others) (view : Pool → β)
    (blind : ∀ pool, view pool.swapped = view pool) : others.map view = pools.map view := by
  induction mirrored with
  | nil => rfl
  | cons mirrors _ ih => rw [List.map_cons, List.map_cons, ih, mirrors.view_eq view (blind _)]

theorem Mirrored.resembling (mirrored : Mirrored pools others) : Resembling pools others :=
  mirrored.imp fun _ _ mirrors => mirrors.resembles

/-! Amounts need two different tokens in every pool: a pool of one token has only one side. -/
variable (apart : ∀ pool ∈ pools, pool.tokenA ≠ pool.tokenB)
include apart

theorem forward_mirrored (mirrored : Mirrored pools others) (tokens : List TokenId)
    (amount : Amount) :
    Route.forward amount (tokens.zip others) = Route.forward amount (tokens.zip pools) := by
  induction mirrored generalizing tokens amount with
  | nil => rfl
  | @cons pool other pools others mirrors _ ih =>
    obtain ⟨first, later⟩ := List.forall_mem_cons.mp apart
    cases tokens with
    | nil => rfl
    | cons token tokens =>
      have sold := mirrors.view_eq (fun pool => pool.sell token amount)
        (pool.sell_swapped first token amount)
      rw [List.zip_cons_cons, List.zip_cons_cons, Route.forward, Route.forward, sold]
      simp only [ih later]

theorem backward_mirrored (mirrored : Mirrored pools others) (tokens : List TokenId)
    (amount : Amount) :
    Route.backward amount (tokens.zip others) = Route.backward amount (tokens.zip pools) := by
  induction mirrored generalizing tokens with
  | nil => rfl
  | @cons pool other pools others mirrors _ ih =>
    obtain ⟨first, later⟩ := List.forall_mem_cons.mp apart
    cases tokens with
    | nil => rfl
    | cons token tokens =>
      have bought : ∀ wanted, other.buy token wanted = pool.buy token wanted := fun wanted =>
        mirrors.view_eq (fun pool => pool.buy token wanted) (pool.buy_swapped first token wanted)
      rw [List.zip_cons_cons, List.zip_cons_cons, Route.backward, Route.backward, ih later]
      simp only [bought]

end Mirrored

section Through
variable {route : Route} {pools : List Pool}

theorem simulate_through (mirrored : Mirrored route.pools pools)
    (apart : ∀ pool ∈ route.pools, pool.tokenA ≠ pool.tokenB) (direction : SwapDirection) :
    (route.through pools).simulate direction =
      (route.simulate direction).map fun simulated => simulated.through pools := by
  have forward := forward_mirrored apart mirrored route.tokens direction.amount
  have backward := backward_mirrored apart mirrored route.tokens direction.amount
  have amounts : (route.through pools).amounts direction = route.amounts direction := by
    unfold Route.amounts
    simp only [Route.hops, Route.through, forward, backward]
  rw [Route.simulate, Route.simulate, validate_through mirrored.resembling,
    check_active_through mirrored.resembling, amounts]
  cases route.validate with
  | error => rfl
  | ok =>
    cases route.checkActive with
    | error => rfl
    | ok => cases route.amounts direction <;> rfl

end Through

end PoolRouting
