import PoolRouting.Decimal.Plain
import PoolRouting.Decimal.Text
import PoolRouting.Pool

/-!
Why a quote or its transactions cannot be given. Each failure keeps its cause; its code, its status
and its message are functions of the cause.
-/

namespace PoolRouting

/-- A trade that its pool cannot serve. -/
inductive HopError where
  | insufficientLiquidity
  deriving DecidableEq

def HopError.message : HopError → String
  | .insufficientLiquidity => "insufficient liquidity"

/-- An amount or a tolerance that no swap can have. -/
inductive AmountFault where
  | bothSides
  | zero
  | tolerance (value : Decimal)
  deriving DecidableEq

def AmountFault.message : AmountFault → String
  | .bothSides => "only one of amount in or amount out may be specified"
  | .zero => "swap amount must be positive"
  | .tolerance value => s!"tolerance {value.text} must be in [0, 1)"

/-- A pool record that contradicts itself or another one. -/
inductive PoolFault where
  | repeated (pool : Address)
  | selfPaired (pool : Address) (token : TokenId)
  | feeOutOfRange (pool : Address) (fee : Decimal)
  | reservesWithoutSupply (pool : Address)
  deriving DecidableEq

def PoolFault.message : PoolFault → String
  | .repeated pool => s!"pool address {pool.text} listed more than once"
  | .selfPaired pool token => s!"pool {pool.text} pairs {token.text} with itself"
  | .feeOutOfRange pool fee => s!"pool {pool.text} has fee {fee.text} outside [0, 1)"
  | .reservesWithoutSupply pool => s!"pool {pool.text} holds reserves with zero liquidity supply"

def joinTokens (tokens : List TokenId) : String := " -> ".intercalate (tokens.map TokenId.text)

/-- A route, or a quote over it, that does not hold together. -/
inductive RouteFault where
  | noPools
  | tokenCount (tokens pools : Nat)
  | disconnected (pool : Address) (left right : TokenId)
  | repeatedToken (token : TokenId)
  | notTraded (pool : Address) (token : TokenId)
  | tooFewAmounts
  | amountCount (amounts tokens : Nat)
  | wrongEnds (route : List TokenId) (tokenIn tokenOut : TokenId)
  | notContract (pool : Address)
  | undecodable (pool : Address)
  | amountMismatch (quoted expected : Amount)
  deriving DecidableEq

def RouteFault.message : RouteFault → String
  | .noPools => "route has no pools"
  | .tokenCount tokens pools => s!"route has {tokens} tokens for {pools} pools"
  | .disconnected pool left right =>
      s!"pool {pool.text} does not connect {left.text} and {right.text}"
  | .repeatedToken token => s!"token {token.text} appears more than once"
  | .notTraded pool token => s!"pool {pool.text} does not trade {token.text}"
  | .tooFewAmounts => "a route needs at least two intermediary amounts"
  | .amountCount amounts tokens => s!"{amounts} intermediary amounts for {tokens} tokens"
  | .wrongEnds route tokenIn tokenOut =>
      s!"route {joinTokens route} does not connect {tokenIn.text} to {tokenOut.text}"
  | .notContract pool => s!"pool address {pool.text} is not a contract"
  | .undecodable pool => s!"pool address {pool.text} is not valid"
  | .amountMismatch quoted expected =>
      s!"quoted amount in {Amount.text quoted} does not match route amount {Amount.text expected}"

/-- A price that a quote cannot rest on. -/
inductive PriceFault where
  | invalid (raw : String) (reason : Decimal.NumeralError)
  | negative (raw : String)
  deriving DecidableEq

def PriceFault.message : PriceFault → String
  | .invalid raw reason => s!"invalid USD price '{raw}': {reason.message}"
  | .negative raw => s!"negative USD price '{raw}'"

/-- A fact that the ledger does not have. -/
inductive Missing where
  | metadata (token : TokenId)
  | price (token : TokenId)
  deriving DecidableEq

def Missing.what : Missing → String
  | .metadata token => s!"token metadata for {token.text}"
  | .price token => s!"USD price for {token.text}"

/-- A failed read of the ledger. -/
inductive ProviderError where
  | unavailable (provider message : String)
  | notFound (fact : Missing)
  | unreadable (fault : PriceFault)
  deriving DecidableEq

def ProviderError.message : ProviderError → String
  | .unavailable provider message => s!"{provider} unavailable: {message}"
  | .notFound fact => s!"{fact.what} not found"
  | .unreadable fault => s!"Failed to parse provider response: {fault.message}"

/-- Every way in which the router refuses. -/
inductive RouterError where
  | unknownToken (token : TokenId)
  | noRouteFound (tokenIn tokenOut : TokenId)
  | insufficientLiquidity (pool : Address)
  | poolInactive (pool : Address)
  | invalidAmount (fault : AmountFault)
  | dataIntegrity (fault : PoolFault)
  | invalidRoute (fault : RouteFault)
  | provider (error : ProviderError)
  deriving DecidableEq

namespace RouterError

def message : RouterError → String
  | .unknownToken token => s!"Unknown token: {token.text}"
  | .noRouteFound tokenIn tokenOut => s!"No route found from {tokenIn.text} to {tokenOut.text}"
  | .insufficientLiquidity pool => s!"Insufficient liquidity in pool {pool.text}"
  | .poolInactive pool => s!"Pool {pool.text} is not active"
  | .invalidAmount fault => s!"Invalid amount: {fault.message}"
  | .dataIntegrity fault => s!"Pool registry data integrity error: {fault.message}"
  | .invalidRoute fault => s!"Invalid route: {fault.message}"
  | .provider error => s!"Provider error: {error.message}"

def code : RouterError → String
  | .unknownToken _ => "unknown_token"
  | .noRouteFound _ _ => "no_route_found"
  | .insufficientLiquidity _ => "insufficient_liquidity"
  | .poolInactive _ => "pool_inactive"
  | .invalidAmount _ => "invalid_amount"
  | .dataIntegrity _ => "data_integrity_error"
  | .invalidRoute _ => "invalid_route"
  | .provider _ => "provider_unavailable"

/-- The status of an HTTP answer that carries the failure. -/
def status : RouterError → Nat
  | .unknownToken _ => 404
  | .noRouteFound _ _ => 422
  | .insufficientLiquidity _ => 422
  | .poolInactive _ => 422
  | .invalidAmount _ => 400
  | .dataIntegrity _ => 500
  | .invalidRoute _ => 400
  | .provider _ => 503

/-- A failure of one route says nothing about another route. -/
def isRouteLocal : RouterError → Bool
  | .insufficientLiquidity _ => true
  | .poolInactive _ => true
  | _ => false

end RouterError
end PoolRouting
