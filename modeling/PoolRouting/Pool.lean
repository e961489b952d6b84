import PoolRouting.Decimal
import PoolRouting.Token

/-!
Constant-product pools. A pool holds reserves of two tokens and trades either for the other while it
is active.
-/

namespace PoolRouting

inductive PoolState where
  | active
  | paused
  deriving DecidableEq

structure Pool where
  address : Address
  tokenA : TokenId
  tokenB : TokenId
  reserveA : Amount
  reserveB : Amount
  totalSupply : Amount
  /-- The fraction of every input that the pool keeps as a fee. -/
  feeFraction : Decimal
  state : PoolState
  deriving DecidableEq

/-- The two reserves of a pool as seen by one trade. -/
structure Reserves where
  /-- Held in the token that the trader sells. -/
  input : Amount
  /-- Held in the token that the trader buys. -/
  output : Amount
  deriving DecidableEq

def PoolState.text : PoolState → String
  | .active => "Active"
  | .paused => "Paused"

namespace Pool

def isActive (pool : Pool) : Bool := pool.state = .active

/-- Both sides hold something. -/
def hasLiquidity (pool : Pool) : Bool := pool.reserveA != 0 && pool.reserveB != 0

/-- A pool that routes may pass through. -/
def usable (pool : Pool) : Bool := pool.isActive && pool.hasLiquidity

def otherToken? (pool : Pool) (token : TokenId) : Option TokenId :=
  if pool.tokenA = token then some pool.tokenB
  else if pool.tokenB = token then some pool.tokenA
  else none

/-- The reserves as seen by a trader who sells `token`. -/
def reservesFor? (pool : Pool) (token : TokenId) : Option Reserves :=
  if pool.tokenA = token then some ⟨pool.reserveA, pool.reserveB⟩
  else if pool.tokenB = token then some ⟨pool.reserveB, pool.reserveA⟩
  else none

/-- The pool with its sides exchanged. -/
def swapped (pool : Pool) : Pool :=
  { pool with
    tokenA := pool.tokenB, tokenB := pool.tokenA
    reserveA := pool.reserveB, reserveB := pool.reserveA }

def display (pool : Pool) : String :=
  s!"Pool {pool.address.text} | {pool.tokenA.text}: {Amount.text pool.reserveA} | " ++
    s!"{pool.tokenB.text}: {Amount.text pool.reserveB} | {pool.state.text}"

end Pool
end PoolRouting
