import PoolRouting.Hop
import PoolRouting.Route
import PoolRouting.Swap

/-!
Simulation of a swap along a route. A fixed input walks forward and a fixed output backward, always
on the reserves as listed; a route visits no pool twice, so no hop changes another's reserves.
-/

namespace PoolRouting

namespace Pool

def feeRatio (pool : Pool) : Except RouterError FeeRatio :=
  match FeeRatio.ofDecimal? pool.feeFraction with
  | some ratio => .ok ratio
  | none => .error (.dataIntegrity (.feeOutOfRange pool.address pool.feeFraction))

def orientedReserves (pool : Pool) (token : TokenId) : Except RouterError Reserves :=
  match pool.reservesFor? token with
  | some reserves => .ok reserves
  | none => .error (.invalidRoute (.notTraded pool.address token))

/-- Applies the pool's reserves and fee to a hop computation. -/
def trade (pool : Pool) (token : TokenId)
    (compute : Reserves → FeeRatio → Except HopError Amount) : Except RouterError Amount :=
  (pool.orientedReserves token).bind fun reserves =>
    pool.feeRatio.bind fun fee =>
      (compute reserves fee).mapError fun
        | .insufficientLiquidity => .insufficientLiquidity pool.address

-- An output of nothing could not be bounded against slippage.
/-- The amount that leaves the pool, which must not be nothing. -/
def sell (pool : Pool) (token : TokenId) (amount : Amount) : Except RouterError Amount :=
  (pool.trade token fun reserves fee => Hop.output reserves fee amount).bind fun bought =>
    if bought = 0 then .error (.insufficientLiquidity pool.address) else .ok bought

/-- The amount that must enter the pool. -/
def buy (pool : Pool) (token : TokenId) (amount : Amount) : Except RouterError Amount :=
  pool.trade token fun reserves fee => Hop.input reserves fee amount

end Pool

namespace Route

/-- The amounts behind each hop for an amount in front of the first. -/
def forward (amount : Amount) : List (TokenId × Pool) → Except RouterError (List Amount)
  | [] => .ok []
  | (token, pool) :: rest =>
    (pool.sell token amount).bind fun bought =>
      (forward bought rest).map fun later => bought :: later

/-- The amount in front of the first hop and those behind each hop, for one behind the last. -/
def backward (amount : Amount) : List (TokenId × Pool) → Except RouterError (Amount × List Amount)
  | [] => .ok (amount, [])
  | (token, pool) :: rest =>
    (backward amount rest).bind fun (needed, later) =>
      (pool.buy token needed).map fun first => (first, needed :: later)

def amounts (route : Route) (direction : SwapDirection) : Except RouterError (List Amount) :=
  match direction.type with
  | .fixedInput => (forward direction.amount route.hops).map fun later => direction.amount :: later
  | .fixedOutput => (backward direction.amount route.hops).map fun (first, later) => first :: later

def checkActive (route : Route) : Except RouterError Unit :=
  match route.pools.find? fun pool => !pool.isActive with
  | some pool => .error (.poolInactive pool.address)
  | none => .ok ()

def simulate (route : Route) (direction : SwapDirection) : Except RouterError SimulatedRoute :=
  route.validate.bind fun _ =>
    route.checkActive.bind fun _ =>
      (route.amounts direction).map fun amounts => ⟨route, amounts⟩

end Route
end PoolRouting
