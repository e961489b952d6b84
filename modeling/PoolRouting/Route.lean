import PoolRouting.Failure

/-!
Routes: tokens joined by pools, each pool between the token before it and the token after it.
-/

namespace PoolRouting

structure Route where
  tokens : List TokenId
  pools : List Pool
  deriving DecidableEq

namespace Route

def hopCount (route : Route) : Nat := route.pools.length

def tokenIn? (route : Route) : Option TokenId := route.tokens.head?

def tokenOut? (route : Route) : Option TokenId := route.tokens.getLast?

def addresses (route : Route) : List Address := route.pools.map Pool.address

def display (route : Route) : String := joinTokens route.tokens

/-- Every pool with the token sold to it. -/
def hops (route : Route) : List (TokenId × Pool) := route.tokens.zip route.pools

/-- The first pool that does not join the two tokens beside it. -/
def gap? : List TokenId → List Pool → Option RouteFault
  | left :: right :: tokens, pool :: pools =>
    if pool.otherToken? left = some right then gap? (right :: tokens) pools
    else some (.disconnected pool.address left right)
  | _, _ => none

/-- The first token that occurs again later. -/
def repeated? : List TokenId → Option RouteFault
  | [] => none
  | token :: rest => if token ∈ rest then some (.repeatedToken token) else repeated? rest

/-- What is wrong with the shape of a route, if anything. -/
def fault? (route : Route) : Option RouteFault :=
  if route.pools = [] then some .noPools
  else if route.tokens.length ≠ route.pools.length + 1 then
    some (.tokenCount route.tokens.length route.pools.length)
  else (gap? route.tokens route.pools).or (repeated? route.tokens)

def validate (route : Route) : Except RouterError Unit :=
  match route.fault? with
  | some fault => .error (.invalidRoute fault)
  | none => .ok ()

end Route

/-- A route with the amount that enters its first hop and the amounts that leave its hops. -/
structure SimulatedRoute where
  route : Route
  amounts : List Amount
  deriving DecidableEq

namespace SimulatedRoute

def amountIn (simulated : SimulatedRoute) : Amount := simulated.amounts.head?.getD 0

def amountOut (simulated : SimulatedRoute) : Amount := simulated.amounts.getLast?.getD 0

def hopCount (simulated : SimulatedRoute) : Nat := simulated.route.hopCount

end SimulatedRoute
end PoolRouting
