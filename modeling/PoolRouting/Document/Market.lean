import PoolRouting.Json.Record
import PoolRouting.Ledger

/-!
Documents of pools, tokens and ledger snapshots.
-/

namespace PoolRouting

namespace TokenId

def document (token : TokenId) : Json := .string token.text

def read : Reader TokenId := fun document => (Reader.text document).map TokenId.mk

end TokenId

namespace Address

def document (address : Address) : Json := .string address.text

def read : Reader Address := fun document => (Reader.text document).map Address.mk

end Address

def Amount.document (amount : Amount) : Json := .string (Amount.text amount)

def Decimal.document (value : Decimal) : Json := .string value.text

namespace Token

def fieldNames : List String := ["id", "decimals"]

def document (token : Token) : Json :=
  .object [("id", token.id.document), ("decimals", .ofNat token.decimals.toNat)]

def read : Reader Token := fun document => do
  let record ← Record.ofJson? fieldNames document
  let id ← record.required "id" TokenId.read
  let decimals ← record.required "decimals" Reader.word32
  return ⟨id, decimals⟩

end Token

namespace PoolState

def choices : List (String × PoolState) := [("Active", .active), ("Paused", .paused)]

def document (state : PoolState) : Json := .string state.text

def read : Reader PoolState := Reader.choice choices

def readMerged : Reader PoolState := Reader.mergedChoice choices

end PoolState

namespace Pool

def fieldNames : List String :=
  ["address", "tokenA", "tokenB", "reserveA", "reserveB", "totalSupply", "feeFraction", "state"]

def document (pool : Pool) : Json :=
  .object
    [("address", pool.address.document), ("tokenA", pool.tokenA.document),
      ("tokenB", pool.tokenB.document), ("reserveA", Amount.document pool.reserveA),
      ("reserveB", Amount.document pool.reserveB),
      ("totalSupply", Amount.document pool.totalSupply),
      ("feeFraction", pool.feeFraction.document), ("state", pool.state.document)]

/-- Reads a pool, given how its state is read. -/
def readWith (readState : Reader PoolState) : Reader Pool := fun document => do
  let record ← Record.ofJson? fieldNames document
  let address ← record.required "address" Address.read
  let tokenA ← record.required "tokenA" TokenId.read
  let tokenB ← record.required "tokenB" TokenId.read
  let reserveA ← record.required "reserveA" Reader.amount
  let reserveB ← record.required "reserveB" Reader.amount
  let totalSupply ← record.required "totalSupply" Reader.amount
  let feeFraction ← record.required "feeFraction" Reader.decimal
  let state ← record.required "state" readState
  return ⟨address, tokenA, tokenB, reserveA, reserveB, totalSupply, feeFraction, state⟩

def read : Reader Pool := readWith PoolState.read

/-- Reads a pool of a route that is merged into a larger record. -/
def readMerged : Reader Pool := readWith PoolState.readMerged

end Pool

namespace Snapshot

def fieldNames : List String := ["pools", "tokens", "pricesUsd"]

-- Prices are a map: of two entries for one token the later one is kept.
/-- The entries of a map that no later entry overrides. -/
def latest : List (TokenId × String) → List (TokenId × String)
  | [] => []
  | entry :: rest =>
    if (rest.map Prod.fst).contains entry.1 then latest rest else entry :: latest rest

def document (snapshot : Snapshot) : Json :=
  .object
    [("pools", .array (snapshot.pools.map Pool.document)),
      ("tokens", .array (snapshot.tokens.map Token.document)),
      ("pricesUsd",
        .object (snapshot.prices.map fun (token, price) => (token.text, .string price)))]

def readPrices : Reader (List (TokenId × String))
  | .object fields =>
    (fields.mapM fun (token, price) =>
      (Reader.text price).map fun price => (TokenId.mk token, price)).map latest
  | _ => none

def read : Reader Snapshot := fun document => do
  let record ← Record.ofJson? fieldNames document
  let pools ← record.required "pools" (Reader.list Pool.read)
  let tokens ← record.defaulted "tokens" [] (Reader.list Token.read)
  let prices ← record.defaulted "pricesUsd" [] readPrices
  return ⟨pools, tokens, prices⟩

end Snapshot
end PoolRouting
