import PoolRouting.Address.Bech32
import PoolRouting.Quote
import PoolRouting.Transaction.CallData

/-!
The transactions that execute a quote: the native currency is wrapped if it is sold, the swap goes
through all pools in one call of the router contract, and the wrapped token is unwrapped if the
native currency is bought.
-/

namespace PoolRouting

/-- An unsigned transaction. -/
structure Transaction where
  nonce : UInt64
  value : Amount
  receiver : Address
  sender : Address
  gasPrice : UInt64
  gasLimit : UInt64
  data : String
  chainId : String
  version : UInt32
  deriving DecidableEq

def SwapType.endpoint : SwapType → String
  | .fixedInput => "swapTokensFixedInput"
  | .fixedOutput => "swapTokensFixedOutput"

namespace Transaction

def tokenTransfer : String := "ESDTTransfer"

def multiPairSwap : String := "multiPairSwap"

def wrapEndpoint : String := "wrapEgld"

def unwrapEndpoint : String := "unwrapEgld"

/-- A transaction with what every transaction of a router has in common. -/
def ofConfig (config : RouterConfig) (sender receiver : Address) (value : Amount)
    (gasLimit : UInt64) (data : String) : Transaction :=
  { nonce := 0
    value := value
    receiver := receiver
    sender := sender
    gasPrice := config.gas.price
    gasLimit := gasLimit
    data := data
    chainId := config.chainId
    version := config.gas.version }

def wrap (config : RouterConfig) (sender : Address) (amount : Amount) : Transaction :=
  ofConfig config sender config.contracts.wrapper amount config.gas.wrap wrapEndpoint

def unwrapCall (config : RouterConfig) (amount : Amount) : Call :=
  ⟨tokenTransfer,
    [Call.name config.contracts.wrapped.text, Call.count amount, Call.name unwrapEndpoint]⟩

def unwrap (config : RouterConfig) (sender : Address) (amount : Amount) : Transaction :=
  ofConfig config sender config.contracts.wrapper 0 config.gas.unwrap
    (unwrapCall config amount).text

/-- The arguments of each hop: the pool, its endpoint, the token bought and the limit. -/
def hopArguments (type : SwapType) :
    List Pool → List TokenId → List Amount → Except RouterError (List (List UInt8))
  | pool :: pools, token :: tokens, limit :: limits =>
    match pool.address.bytes? with
    | none => .error (.invalidRoute (.undecodable pool.address))
    | some key =>
      (hopArguments type pools tokens limits).map fun later =>
        key :: Call.name type.endpoint :: Call.name token.text :: Call.count limit :: later
  | _, _, _ => .ok []

def swapCall (quote : Quote) (bounds : SwapBounds) : Except RouterError Call :=
  let tokens := quote.route.route.tokens
  (hopArguments quote.type quote.route.route.pools tokens.tail bounds.limits).map fun hops =>
    ⟨tokenTransfer,
      Call.name (tokens.head?.elim "" TokenId.text) :: Call.count bounds.amountIn ::
        Call.name multiPairSwap :: hops⟩

/-- The gas of a swap stops growing at the largest amount of gas. -/
def swapGas (hops : Nat) (perHop : UInt64) : UInt64 :=
  UInt64.ofNat (min (hops * perHop.toNat) (UInt64.size - 1))

def swap (config : RouterConfig) (sender : Address) (quote : Quote) (bounds : SwapBounds) :
    Except RouterError Transaction :=
  (swapCall quote bounds).map fun call =>
    ofConfig config sender config.contracts.router 0
      (swapGas quote.route.hopCount config.gas.perHop) call.text

end Transaction

namespace Quote

/-- What is wrong with a quote beyond the shape of its route, if anything. -/
def fault? (contracts : ContractsConfig) (quote : Quote) : Option RouteFault :=
  let route := quote.route.route
  if quote.route.amounts.length ≠ route.tokens.length then
    some (.amountCount quote.route.amounts.length route.tokens.length)
  else if route.tokenIn? ≠ some (contracts.routingToken quote.tokenIn) ∨
      route.tokenOut? ≠ some (contracts.routingToken quote.tokenOut) then
    some (.wrongEnds route.tokens quote.tokenIn quote.tokenOut)
  else
    (route.pools.find? fun pool => !pool.address.isContract).map fun pool =>
      .notContract pool.address

def validate (contracts : ContractsConfig) (quote : Quote) : Except RouterError Unit :=
  quote.route.route.validate.bind fun _ =>
    match quote.fault? contracts with
    | some fault => .error (.invalidRoute fault)
    | none => .ok ()

/-- The bounds of a quote that transfers what its route asks for. -/
def bounds (quote : Quote) : Except RouterError SwapBounds :=
  (SwapBounds.compute quote.type quote.route.amounts quote.tolerance).bind fun bounds =>
    if bounds.amountIn = quote.amountIn then .ok bounds
    else .error (.invalidRoute (.amountMismatch quote.amountIn bounds.amountIn))

/-- The transactions of a quote in the order in which the sender signs them. -/
def transactions (config : RouterConfig) (sender : Address) (quote : Quote) :
    Except RouterError (List Transaction) :=
  (quote.validate config.contracts).bind fun _ =>
    quote.bounds.bind fun bounds =>
      (Transaction.swap config sender quote bounds).map fun swap =>
        let before :=
          if config.contracts.isNative quote.tokenIn then
            [Transaction.wrap config sender bounds.amountIn]
          else []
        let after :=
          if config.contracts.isNative quote.tokenOut then
            [Transaction.unwrap config sender quote.route.amountOut]
          else []
        before ++ swap :: after

end Quote
end PoolRouting
