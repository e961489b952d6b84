import PoolRouting.Decimal
import PoolRouting.Token

/-!
The configuration of a router: the network, the limits of the route search, the contracts and
tokens that the network fixes, and the gas of each transaction.
-/

namespace PoolRouting

inductive Network where
  | mainnet
  | devnet
  | testnet
  deriving DecidableEq

def Network.text : Network → String
  | .mainnet => "mainnet"
  | .devnet => "devnet"
  | .testnet => "testnet"

/-- Stamped on every transaction. -/
def Network.chainId : Network → String
  | .mainnet => "1"
  | .devnet => "D"
  | .testnet => "T"

structure RoutingConfig where
  maxHops : UInt64
  maxPriceDeviation : Decimal
  /-- The lifetime of a cached quote; zero turns the cache off. -/
  quoteCacheSeconds : UInt64
  deriving DecidableEq

structure ContractsConfig where
  router : Address
  wrapper : Address
  /-- The native currency, which no pool trades. -/
  native : TokenId
  /-- Stands for the native currency in pools. -/
  wrapped : TokenId
  deriving DecidableEq

structure GasConfig where
  perHop : UInt64
  wrap : UInt64
  unwrap : UInt64
  price : UInt64
  version : UInt32
  deriving DecidableEq

structure RouterConfig where
  network : Network
  routing : RoutingConfig
  contracts : ContractsConfig
  gas : GasConfig
  deriving DecidableEq

def RoutingConfig.default : RoutingConfig := ⟨4, Decimal.one, 6⟩

def ContractsConfig.default : ContractsConfig where
  router := ⟨"erd1qqqqqqqqqqqqqpgqpv09kfzry5y4sj05udcngesat07umyj70n4sa2c0rp"⟩
  wrapper := ⟨"erd1qqqqqqqqqqqqqpgqd77fnev2sthnczp2lnfx0y5jdycynjfhzzgq6p3rax"⟩
  native := ⟨"EGLD"⟩
  wrapped := ⟨"WEGLD-123456"⟩

def GasConfig.default : GasConfig := ⟨25000000, 4200000, 4200000, 1000000000, 1⟩

def RouterConfig.default : RouterConfig :=
  ⟨.testnet, RoutingConfig.default, ContractsConfig.default, GasConfig.default⟩

namespace ContractsConfig

def isNative (contracts : ContractsConfig) (token : TokenId) : Bool := token = contracts.native

/-- The token that pools trade for a requested one. -/
def routingToken (contracts : ContractsConfig) (token : TokenId) : TokenId :=
  if contracts.isNative token then contracts.wrapped else token

end ContractsConfig

/-- A configuration that can be read and makes no sense. -/
inductive ConfigFault where
  | noHops
  | negativeDeviation
  | emptyAddress
  | nativeIsWrapped
  deriving DecidableEq

def ConfigFault.message : ConfigFault → String
  | .noHops => "routing.max_hops must be at least 1"
  | .negativeDeviation => "routing.max_price_deviation_percent must not be negative"
  | .emptyAddress => "contract addresses must not be empty"
  | .nativeIsWrapped => "native and wrapped native token ids must differ"

/-- Why no configuration could be loaded. -/
inductive ConfigError where
  | unavailable
  | malformed
  | invalid (fault : ConfigFault)
  deriving DecidableEq

namespace RouterConfig

def fault? (config : RouterConfig) : Option ConfigFault :=
  if config.routing.maxHops = 0 then some .noHops
  else if config.routing.maxPriceDeviation.negative then some .negativeDeviation
  else if config.contracts.router.text = "" ∨ config.contracts.wrapper.text = "" then
    some .emptyAddress
  else if config.contracts.native = config.contracts.wrapped then some .nativeIsWrapped
  else none

def validate (config : RouterConfig) : Except ConfigError RouterConfig :=
  match config.fault? with
  | some fault => .error (.invalid fault)
  | none => .ok config

def chainId (config : RouterConfig) : String := config.network.chainId

end RouterConfig

def ConfigFault.fullMessage (fault : ConfigFault) : String :=
  s!"Invalid configuration: {fault.message}"

end PoolRouting
