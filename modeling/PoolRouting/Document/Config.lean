import PoolRouting.Config
import PoolRouting.Document.Market
import PoolRouting.Json.Reader

/-!
Documents of configurations. Only the network must be given; a section of contracts, once given,
must name its contracts and the wrapped token.
-/

namespace PoolRouting

namespace Network

def choices : List (String × Network) :=
  [("mainnet", .mainnet), ("devnet", .devnet), ("testnet", .testnet)]

def document (network : Network) : Json := .string network.text

def read : Reader Network := Reader.choice choices

end Network

namespace RoutingConfig

def fieldNames : List String := ["max_hops", "max_price_deviation_percent", "quote_cache_ttl_secs"]

def document (routing : RoutingConfig) : Json :=
  .object
    [("max_hops", .ofNat routing.maxHops.toNat),
      ("max_price_deviation_percent", routing.maxPriceDeviation.document),
      ("quote_cache_ttl_secs", .ofNat routing.quoteCacheSeconds.toNat)]

def read : Reader RoutingConfig := fun document => do
  let record ← Record.ofJson? fieldNames document
  let maxHops ← record.defaulted "max_hops" default.maxHops Reader.word64
  let maxPriceDeviation ←
    record.defaulted "max_price_deviation_percent" default.maxPriceDeviation Reader.decimal
  let quoteCacheSeconds ←
    record.defaulted "quote_cache_ttl_secs" default.quoteCacheSeconds Reader.word64
  return ⟨maxHops, maxPriceDeviation, quoteCacheSeconds⟩

end RoutingConfig

namespace ContractsConfig

def fieldNames : List String :=
  ["router_address", "wrap_address", "native_token_id", "wrapped_native_token_id"]

def document (contracts : ContractsConfig) : Json :=
  .object
    [("router_address", contracts.router.document), ("wrap_address", contracts.wrapper.document),
      ("native_token_id", contracts.native.document),
      ("wrapped_native_token_id", contracts.wrapped.document)]

def read : Reader ContractsConfig := fun document => do
  let record ← Record.ofJson? fieldNames document
  let router ← record.required "router_address" Address.read
  let wrapper ← record.required "wrap_address" Address.read
  let native ← record.defaulted "native_token_id" default.native TokenId.read
  let wrapped ← record.required "wrapped_native_token_id" TokenId.read
  return ⟨router, wrapper, native, wrapped⟩

end ContractsConfig

namespace GasConfig

def fieldNames : List String :=
  ["multi_pair_swap_per_hop", "wrap", "unwrap", "gas_price", "tx_version"]

def document (gas : GasConfig) : Json :=
  .object
    [("multi_pair_swap_per_hop", .ofNat gas.perHop.toNat), ("wrap", .ofNat gas.wrap.toNat),
      ("unwrap", .ofNat gas.unwrap.toNat), ("gas_price", .ofNat gas.price.toNat),
      ("tx_version", .ofNat gas.version.toNat)]

def read : Reader GasConfig := fun document => do
  let record ← Record.ofJson? fieldNames document
  let perHop ← record.defaulted "multi_pair_swap_per_hop" default.perHop Reader.word64
  let wrap ← record.defaulted "wrap" default.wrap Reader.word64
  let unwrap ← record.defaulted "unwrap" default.unwrap Reader.word64
  let price ← record.defaulted "gas_price" default.price Reader.word64
  let version ← record.defaulted "tx_version" default.version Reader.word32
  return ⟨perHop, wrap, unwrap, price, version⟩

end GasConfig

namespace RouterConfig

def fieldNames : List String := ["network", "routing", "contracts", "gas"]

def document (config : RouterConfig) : Json :=
  .object
    [("network", config.network.document), ("routing", config.routing.document),
      ("contracts", config.contracts.document), ("gas", config.gas.document)]

/-- Reads the fields without asking whether they make sense together. -/
def readFields : Reader RouterConfig := fun document => do
  let record ← Record.ofJson? fieldNames document
  let network ← record.required "network" Network.read
  let routing ← record.defaulted "routing" RoutingConfig.default RoutingConfig.read
  let contracts ← record.defaulted "contracts" ContractsConfig.default ContractsConfig.read
  let gas ← record.defaulted "gas" GasConfig.default GasConfig.read
  return ⟨network, routing, contracts, gas⟩

/-- A document must be complete and the configuration must make sense. -/
def ofJson (document : Option Json) : Except ConfigError RouterConfig :=
  match document.bind readFields with
  | some config => config.validate
  | none => .error .malformed

def ofText (raw : String) : Except ConfigError RouterConfig := ofJson (Json.ofText? raw)

end RouterConfig
end PoolRouting
