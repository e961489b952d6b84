import PoolRouting.Candidates
import PoolRouting.Config
import PoolRouting.Ledger
import PoolRouting.Liquidity.Search
import PoolRouting.PriceGuard
import PoolRouting.Slippage

/-!
Quotes. The router checks the two tokens against the liquidity graph, reads what it must know about
them, and takes the best of all routes that the swap can follow.
-/

namespace PoolRouting

/-- The answer to a swap request. -/
structure Quote where
  type : SwapType
  /-- Tokens as requested: the native currency keeps its name. -/
  tokenIn : TokenId
  tokenOut : TokenId
  /-- What the sender transfers; a fixed output includes the tolerance. -/
  amountIn : Amount
  amountOut : Amount
  route : SimulatedRoute
  priceIn : Decimal
  priceOut : Decimal
  rateIn : Amount
  rateOut : Amount
  rateInText : String
  rateOutText : String
  tolerance : Decimal
  maxPriceDeviation : Decimal
  /-- Present if the quote strays too far from the reference prices. -/
  priceDeviation : Option Decimal
  deriving DecidableEq

/-- A checked question: without a direction it asks for one whole token sold. -/
structure Inquiry where
  tokenIn : TokenId
  tokenOut : TokenId
  direction : Option SwapDirection
  tolerance : Decimal
  deriving DecidableEq

/-- What the ledger says about the two tokens of a swap. -/
structure PairFacts where
  tokenIn : Token
  tokenOut : Token
  priceIn : Decimal
  priceOut : Decimal
  deriving DecidableEq

namespace Inquiry

/-- An amount of zero or a tolerance out of range is refused before anything is read. -/
def check (inquiry : Inquiry) : Except RouterError Unit :=
  (match inquiry.direction with
    | some direction => direction.validate
    | none => .ok ()).bind fun _ => validateTolerance inquiry.tolerance

/-- The question of a request, unchecked. -/
def ofRequest (request : SwapRequest) : Except RouterError Inquiry :=
  (SwapDirection.ofAmounts? request.amountIn request.amountOut).map fun direction =>
    ⟨request.tokenIn, request.tokenOut, direction, request.tolerance⟩

end Inquiry

namespace Quote

/-- The graph of a pool list, provided both tokens occur in it and can be traded. -/
def market (contracts : ContractsConfig) (inquiry : Inquiry) (pools : List Pool) :
    Except RouterError LiquidityGraph :=
  (LiquidityGraph.ofPools pools).bind fun graph =>
    let source := contracts.routingToken inquiry.tokenIn
    let target := contracts.routingToken inquiry.tokenOut
    if !graph.isKnown source then .error (.unknownToken inquiry.tokenIn)
    else if !graph.isKnown target then .error (.unknownToken inquiry.tokenOut)
    else if !graph.isRoutable source || !graph.isRoutable target then
      .error (.noRouteFound inquiry.tokenIn inquiry.tokenOut)
    else .ok graph

/-- The four facts about a pair, read one after the other up to the first failure. -/
def readFacts (ledger : Ledger) (source target : TokenId) : Consultation PairFacts := do
  let tokenIn ← Consultation.readTokens (ledger.token source)
  let tokenOut ← Consultation.readTokens (ledger.token target)
  let rawIn ← Consultation.readPrices (ledger.price source)
  let rawOut ← Consultation.readPrices (ledger.price target)
  let priceIn ← ((parsePrice rawIn).mapError RouterError.provider : Except RouterError Decimal)
  let priceOut ← ((parsePrice rawOut).mapError RouterError.provider : Except RouterError Decimal)
  return ⟨tokenIn, tokenOut, priceIn, priceOut⟩

/-- The best route for a direction. -/
def bestRoute (config : RouterConfig) (inquiry : Inquiry) (graph : LiquidityGraph)
    (direction : SwapDirection) : Except RouterError SimulatedRoute :=
  let routes :=
    graph.routes (config.contracts.routingToken inquiry.tokenIn)
      (config.contracts.routingToken inquiry.tokenOut) config.routing.maxHops.toNat
  (simulateAll direction routes).bind fun candidates =>
    SimulatedRoute.select direction.type inquiry.tokenIn inquiry.tokenOut candidates

/-- What the sender transfers along a route. -/
def transferred (type : SwapType) (route : SimulatedRoute) (tolerance : Decimal) :
    Except RouterError Amount :=
  match type with
  | .fixedInput => .ok route.amountIn
  | .fixedOutput => maxAmountIn route.amountIn tolerance

/-- Rates and deviation of a chosen route. -/
def describe (config : RouterConfig) (inquiry : Inquiry) (facts : PairFacts) (type : SwapType)
    (route : SimulatedRoute) (amountIn : Amount) : Quote :=
  let decimalsIn := facts.tokenIn.decimals.toNat
  let decimalsOut := facts.tokenOut.decimals.toNat
  let rateIn := exchangeRate route.amountIn route.amountOut decimalsIn
  let rateOut := exchangeRate route.amountOut route.amountIn decimalsOut
  { type := type
    tokenIn := inquiry.tokenIn
    tokenOut := inquiry.tokenOut
    amountIn := amountIn
    amountOut := route.amountOut
    route := route
    priceIn := facts.priceIn
    priceOut := facts.priceOut
    rateIn := rateIn
    rateOut := rateOut
    rateInText := denominate rateIn decimalsOut
    rateOutText := denominate rateOut decimalsIn
    tolerance := inquiry.tolerance
    maxPriceDeviation := config.routing.maxPriceDeviation
    priceDeviation :=
      PriceGuard.flagged ⟨route.amountIn, decimalsIn, facts.priceIn⟩
        ⟨route.amountOut, decimalsOut, facts.priceOut⟩ config.routing.maxPriceDeviation }

/-- The quote of a market; nothing is read any more. -/
def assemble (config : RouterConfig) (inquiry : Inquiry) (graph : LiquidityGraph)
    (facts : PairFacts) : Except RouterError Quote :=
  let direction := inquiry.direction.getD ⟨.fixedInput, facts.tokenIn.oneUnit⟩
  (bestRoute config inquiry graph direction).bind fun route =>
    (transferred direction.type route inquiry.tolerance).map fun amountIn =>
      describe config inquiry facts direction.type route amountIn

/-- Answers a checked question from the ledger. -/
def compute (config : RouterConfig) (ledger : Ledger) (inquiry : Inquiry) : Consultation Quote := do
  let pools ← Consultation.readPools ledger.pools
  let graph ← market config.contracts inquiry pools
  let facts ←
    readFacts ledger (config.contracts.routingToken inquiry.tokenIn)
      (config.contracts.routingToken inquiry.tokenOut)
  assemble config inquiry graph facts

end Quote
end PoolRouting
