import PoolRouting.Document.Market
import PoolRouting.Quote

/-!
Documents of swaps: directions, requests, routes and quotes. A simulated route has the fields of its
route beside its amounts.
-/

namespace PoolRouting

namespace SwapType

def choices : List (String × SwapType) :=
  [("FixedInput", .fixedInput), ("FixedOutput", .fixedOutput)]

def document (type : SwapType) : Json := .string type.text

def read : Reader SwapType := Reader.choice choices

end SwapType

namespace SwapDirection

def fieldNames : List String := ["type", "amount"]

def document (direction : SwapDirection) : Json :=
  .object [("type", direction.type.document), ("amount", Amount.document direction.amount)]

/-- An array starts with the name of its swap type; an object may hold the name over null. -/
def readType (record : Record) : Reader SwapType :=
  if record.positional then Reader.named SwapType.choices else SwapType.read

def read : Reader SwapDirection := fun document => do
  let record ← Record.ofJson? fieldNames document
  let type ← record.required "type" (readType record)
  let amount ← record.required "amount" Reader.amount
  return ⟨type, amount⟩

end SwapDirection

/-- A field that is left out when it has no value. -/
def optionalField (name : String) (value : Option Json) : List (String × Json) :=
  match value with
  | some value => [(name, value)]
  | none => []

namespace SwapRequest

def fieldNames : List String := ["tokenInId", "tokenOutId", "amountIn", "amountOut", "tolerance"]

def document (request : SwapRequest) : Json :=
  .object
    ([("tokenInId", request.tokenIn.document), ("tokenOutId", request.tokenOut.document)] ++
      optionalField "amountIn" (request.amountIn.map Amount.document) ++
      optionalField "amountOut" (request.amountOut.map Amount.document) ++
      [("tolerance", request.tolerance.document)])

def read : Reader SwapRequest := fun document => do
  let record ← Record.ofJson? fieldNames document
  let tokenIn ← record.required "tokenInId" TokenId.read
  let tokenOut ← record.required "tokenOutId" TokenId.read
  let amountIn ← record.defaulted "amountIn" none (Reader.optional Reader.amount)
  let amountOut ← record.defaulted "amountOut" none (Reader.optional Reader.amount)
  let tolerance ← record.required "tolerance" Reader.decimal
  return ⟨tokenIn, tokenOut, amountIn, amountOut, tolerance⟩

end SwapRequest

namespace Route

def fieldNames : List String := ["tokens", "pools"]

def fields (route : Route) : List (String × Json) :=
  [("tokens", .array (route.tokens.map TokenId.document)),
    ("pools", .array (route.pools.map Pool.document))]

def document (route : Route) : Json := .object route.fields

def ofRecord? (readPool : Reader Pool) (record : Record) : Option Route := do
  let tokens ← record.required "tokens" (Reader.list TokenId.read)
  let pools ← record.required "pools" (Reader.list readPool)
  return ⟨tokens, pools⟩

def read : Reader Route := fun document =>
  (Record.ofJson? fieldNames document).bind (ofRecord? Pool.read)

end Route

namespace SimulatedRoute

def fieldNames : List String := ["tokens", "pools", "intermediaryAmounts"]

def document (simulated : SimulatedRoute) : Json :=
  .object
    (simulated.route.fields ++
      [("intermediaryAmounts", .array (simulated.amounts.map Amount.document))])

-- The fields of the route are merged with the amounts, so no array has an order for them.
/-- Reads an object only. -/
def read : Reader SimulatedRoute
  | .object fields => do
    let record ← Record.ofFields? fieldNames fields
    let route ← Route.ofRecord? Pool.readMerged record
    let amounts ← record.required "intermediaryAmounts" (Reader.list Reader.amount)
    return ⟨route, amounts⟩
  | _ => none

end SimulatedRoute

namespace Quote

def fieldNames : List String :=
  ["swapType", "tokenInId", "tokenOutId", "amountIn", "amountOut", "route", "tokenInPriceUsd",
    "tokenOutPriceUsd", "tokenInExchangeRate", "tokenOutExchangeRate", "tokenInExchangeRateDenom",
    "tokenOutExchangeRateDenom", "tolerance", "maxPriceDeviationPercent",
    "tokensPriceDeviationPercent"]

def document (quote : Quote) : Json :=
  .object
    ([("swapType", quote.type.document), ("tokenInId", quote.tokenIn.document),
      ("tokenOutId", quote.tokenOut.document), ("amountIn", Amount.document quote.amountIn),
      ("amountOut", Amount.document quote.amountOut), ("route", quote.route.document),
      ("tokenInPriceUsd", quote.priceIn.document), ("tokenOutPriceUsd", quote.priceOut.document),
      ("tokenInExchangeRate", Amount.document quote.rateIn),
      ("tokenOutExchangeRate", Amount.document quote.rateOut),
      ("tokenInExchangeRateDenom", .string quote.rateInText),
      ("tokenOutExchangeRateDenom", .string quote.rateOutText),
      ("tolerance", quote.tolerance.document),
      ("maxPriceDeviationPercent", quote.maxPriceDeviation.document)] ++
      optionalField "tokensPriceDeviationPercent" (quote.priceDeviation.map Decimal.document))

def read : Reader Quote := fun document => do
  let record ← Record.ofJson? fieldNames document
  let type ← record.required "swapType" SwapType.read
  let tokenIn ← record.required "tokenInId" TokenId.read
  let tokenOut ← record.required "tokenOutId" TokenId.read
  let amountIn ← record.required "amountIn" Reader.amount
  let amountOut ← record.required "amountOut" Reader.amount
  let route ← record.required "route" SimulatedRoute.read
  let priceIn ← record.required "tokenInPriceUsd" Reader.decimal
  let priceOut ← record.required "tokenOutPriceUsd" Reader.decimal
  let rateIn ← record.required "tokenInExchangeRate" Reader.amount
  let rateOut ← record.required "tokenOutExchangeRate" Reader.amount
  let rateInText ← record.required "tokenInExchangeRateDenom" Reader.text
  let rateOutText ← record.required "tokenOutExchangeRateDenom" Reader.text
  let tolerance ← record.required "tolerance" Reader.decimal
  let maxPriceDeviation ← record.required "maxPriceDeviationPercent" Reader.decimal
  let priceDeviation ← record.omissible "tokensPriceDeviationPercent" Reader.decimal
  return ⟨type, tokenIn, tokenOut, amountIn, amountOut, route, priceIn, priceOut, rateIn, rateOut,
    rateInText, rateOutText, tolerance, maxPriceDeviation, priceDeviation⟩

end Quote
end PoolRouting
