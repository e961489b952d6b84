import PoolRouting.Liquidity
import PoolRouting.Route

/-!
Enumeration of routes. Paths grow by one hop per round; those that arrive become routes and those
that may still grow form the next round. Routes therefore come shortest first, and routes of one
length in the order of their edges.
-/

namespace PoolRouting

/-- A path from the source of the search that has not arrived yet. -/
structure Path where
  current : TokenId
  /-- The tokens before the current one, latest first. -/
  visited : List TokenId
  /-- The pools passed, latest first. -/
  pools : List Pool
  deriving DecidableEq

namespace Path

def start (source : TokenId) : Path := ⟨source, [], []⟩

def tokens (path : Path) : List TokenId := path.current :: path.visited

def extend (path : Path) (edge : Edge) : Path :=
  ⟨edge.target, path.tokens, edge.pool :: path.pools⟩

def route (path : Path) : Route := ⟨path.tokens.reverse, path.pools.reverse⟩

end Path

namespace LiquidityGraph

/-- All ways to go on to a token not yet on the path. -/
def growths (graph : LiquidityGraph) (path : Path) : List Path :=
  ((graph.leaving path.current).filter fun edge => edge.target ∉ path.tokens).map path.extend

/-- The routes that the paths of a frontier lead to within a number of hops. -/
def search (graph : LiquidityGraph) (target : TokenId) : Nat → List Path → List Route
  | 0, _ => []
  | _ + 1, [] => []
  | hops + 1, frontier =>
    let grown := frontier.flatMap graph.growths
    let (arrived, pending) := grown.partition fun path => path.current = target
    arrived.map Path.route ++ search graph target hops pending

/-- Every route between two tokens with at most `maxHops` pools and no repeated token. -/
def routes (graph : LiquidityGraph) (source target : TokenId) (maxHops : Nat) : List Route :=
  if source = target then [] else graph.search target maxHops [Path.start source]

end LiquidityGraph
end PoolRouting
