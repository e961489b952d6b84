import PoolRouting.Hop

/-!
The liquidity graph of a pool list. Every token that a pool names is known; only usable pools give
edges, one in each direction. A list that contradicts itself gives no graph at all.
-/

namespace PoolRouting

/-- One direction through one pool. -/
structure Edge where
  pool : Pool
  source : TokenId
  target : TokenId
  deriving DecidableEq

def Edge.order (left right : Edge) : Ordering :=
  (compare left.target right.target).then (compare left.pool.address right.pool.address)

/-- The two directions through a pool. -/
def Pool.edges (pool : Pool) : List Edge :=
  [⟨pool, pool.tokenA, pool.tokenB⟩, ⟨pool, pool.tokenB, pool.tokenA⟩]

-- Either reserve alone contradicts an empty supply.
/-- What contradicts itself in one pool record, if anything. -/
def Pool.fault? (pool : Pool) : Option PoolFault :=
  if pool.tokenA = pool.tokenB then some (.selfPaired pool.address pool.tokenA)
  else if (FeeRatio.ofDecimal? pool.feeFraction).isNone then
    some (.feeOutOfRange pool.address pool.feeFraction)
  else if pool.totalSupply = 0 ∧ (pool.reserveA ≠ 0 ∨ pool.reserveB ≠ 0) then
    some (.reservesWithoutSupply pool.address)
  else none

/-- The first fault of a pool list; `seen` are the addresses before it. -/
def firstFault? (seen : List Address) : List Pool → Option PoolFault
  | [] => none
  | pool :: rest =>
    if pool.address ∈ seen then some (.repeated pool.address)
    else pool.fault?.or (firstFault? (pool.address :: seen) rest)

def sortTokens (tokens : List TokenId) : List TokenId :=
  (tokens.mergeSort fun left right => (compare left right).isLE).eraseReps

def sortEdges (edges : List Edge) : List Edge :=
  edges.mergeSort fun left right => (Edge.order left right).isLE

structure LiquidityGraph where
  /-- Tokens named by any pool, in order. -/
  known : List TokenId
  /-- The pools that give edges, as listed. -/
  usable : List Pool
  /-- Edges by source; sources in order, edges of one source by target and pool address. -/
  adjacency : List (TokenId × List Edge)

namespace LiquidityGraph

/-- The edges through usable pools that leave one token. -/
def edgesFrom (pools : List Pool) (token : TokenId) : List Edge :=
  sortEdges ((pools.flatMap Pool.edges).filter fun edge => edge.source = token)

def ofTrusted (pools : List Pool) : LiquidityGraph :=
  let usable := pools.filter Pool.usable
  let sources := sortTokens (usable.flatMap fun pool => [pool.tokenA, pool.tokenB])
  { known := sortTokens (pools.flatMap fun pool => [pool.tokenA, pool.tokenB])
    usable := usable
    adjacency := sources.map fun token => (token, edgesFrom usable token) }

def ofPools (pools : List Pool) : Except RouterError LiquidityGraph :=
  match firstFault? [] pools with
  | some fault => .error (.dataIntegrity fault)
  | none => .ok (ofTrusted pools)

def poolCount (graph : LiquidityGraph) : Nat := graph.usable.length

def leaving (graph : LiquidityGraph) (token : TokenId) : List Edge :=
  (graph.adjacency.lookup token).getD []

def isKnown (graph : LiquidityGraph) (token : TokenId) : Bool := decide (token ∈ graph.known)

def isRoutable (graph : LiquidityGraph) (token : TokenId) : Bool := !(graph.leaving token).isEmpty

end LiquidityGraph
end PoolRouting
