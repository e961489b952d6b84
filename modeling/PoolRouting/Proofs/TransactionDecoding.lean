import PoolRouting.Proofs.CallDecoding
import PoolRouting.Proofs.QuoteChoice
import PoolRouting.Transaction

/-!
The transactions of a quote, as a contract reads them. The data of a token transfer name the token,
the amount and a function with its own arguments; those of a swap come four to a hop. What is read
back is the route, the transferred amount and the limits of the quote, and nothing besides.
-/

namespace PoolRouting

/-- A transfer of a token that calls a function, as read from the data of a transaction. -/
structure TokenCall where
  token : TokenId
  amount : Amount
  function : String
  arguments : List (List UInt8)

namespace TokenCall

def ofArguments? : List (List UInt8) → Option TokenCall
  | token :: amount :: function :: arguments =>
    (Text.ofUtf8? token).bind fun token =>
      (Text.ofUtf8? function).map fun function =>
        ⟨⟨token⟩, Text.natOfBytes amount, function, arguments⟩
  | _ => none

def read? (data : String) : Option TokenCall :=
  (Call.ofChars? data.toList).bind fun call =>
    if call.function = "ESDTTransfer" then ofArguments? call.arguments else none

-- Nothing is asked of the token: its name may hold the separator, since it is written in digits.
theorem read_text (token : TokenId) (amount : Amount) (function : String)
    (arguments : List (List UInt8)) :
    read? (Call.text ⟨Transaction.tokenTransfer,
      Call.name token.text :: Call.count amount :: Call.name function :: arguments⟩) =
      some ⟨token, amount, function, arguments⟩ := by
  have plain : Call.separator ∉ Transaction.tokenTransfer.toList := by decide
  have known : Transaction.tokenTransfer = "ESDTTransfer" := rfl
  rw [read?, Call.text, String.toList_ofList, Call.of_chars_chars _ plain, Option.bind_some,
    if_pos known]
  simp only [ofArguments?, Call.name, Call.count, Text.of_utf8_utf8, Text.nat_of_nat_bytes,
    Option.bind_some, Option.map_some]

end TokenCall

/-- What the router contract is told about one hop. -/
structure HopCall where
  pool : List UInt8
  endpoint : String
  token : TokenId
  limit : Amount

/-- Reads hops of four arguments each; a rest is not accepted. -/
def HopCall.readAll? : List (List UInt8) → Option (List HopCall)
  | [] => some []
  | pool :: endpoint :: token :: limit :: rest =>
    (Text.ofUtf8? endpoint).bind fun endpoint =>
      (Text.ofUtf8? token).bind fun token =>
        (readAll? rest).map fun later => ⟨pool, endpoint, ⟨token⟩, Text.natOfBytes limit⟩ :: later
  | _ => none

/-- The function of a pool that swaps with one side fixed. -/
inductive PoolFunction : SwapType → String → Prop where
  | fixedInput : PoolFunction .fixedInput "swapTokensFixedInput"
  | fixedOutput : PoolFunction .fixedOutput "swapTokensFixedOutput"

theorem pool_function_endpoint (type : SwapType) : PoolFunction type type.endpoint := by
  cases type with
  | fixedInput => exact .fixedInput
  | fixedOutput => exact .fixedOutput

/-- Hop by hop: the key of the pool, its function, the token bought and the limit. -/
inductive HopCalls (type : SwapType) :
    List Pool → List TokenId → List Amount → List HopCall → Prop where
  | done : HopCalls type [] [] [] []
  | hop {pool : Pool} {pools : List Pool} {token : TokenId} {tokens : List TokenId}
      {limit : Amount} {limits : List Amount} {key : List UInt8} {endpoint : String}
      {calls : List HopCall} (decoded : pool.address.bytes? = some key)
      (swaps : PoolFunction type endpoint) (later : HopCalls type pools tokens limits calls) :
      HopCalls type (pool :: pools) (token :: tokens) (limit :: limits)
        (⟨key, endpoint, token, limit⟩ :: calls)

theorem read_all_hop_arguments (type : SwapType) (pools : List Pool) (tokens : List TokenId)
    (limits : List Amount) (arguments : List (List UInt8))
    (tokenEach : tokens.length = pools.length) (limitEach : limits.length = pools.length)
    (written : Transaction.hopArguments type pools tokens limits = .ok arguments) :
    ∃ calls, HopCall.readAll? arguments = some calls ∧ HopCalls type pools tokens limits calls := by
  induction pools generalizing tokens limits arguments with
  | nil =>
    cases List.length_eq_zero_iff.mp tokenEach
    cases List.length_eq_zero_iff.mp limitEach
    cases written
    exact ⟨[], rfl, .done⟩
  | cons pool pools ih =>
    obtain ⟨token, tokens, rfl⟩ := List.exists_cons_of_length_eq_add_one tokenEach
    obtain ⟨limit, limits, rfl⟩ := List.exists_cons_of_length_eq_add_one limitEach
    rw [Transaction.hopArguments] at written
    split at written
    · cases written
    case h_2 key decoded =>
      obtain ⟨rest, writes, rfl⟩ := (map_ok_iff ..).mp written
      obtain ⟨calls, reads, later⟩ :=
        ih tokens limits rest (Nat.succ.inj tokenEach) (Nat.succ.inj limitEach) writes
      refine ⟨⟨key, type.endpoint, token, limit⟩ :: calls, ?_,
        .hop decoded (pool_function_endpoint type) later⟩
      simp only [HopCall.readAll?, Call.name, Call.count, Text.of_utf8_utf8, Text.nat_of_nat_bytes,
        reads, Option.bind_some, Option.map_some]

/-- What all transactions of a router have in common. -/
structure Stamped (config : RouterConfig) (sender : Address) (tx : Transaction) : Prop where
  nonce : tx.nonce = 0
  sender : tx.sender = sender
  gasPrice : tx.gasPrice = config.gas.price
  chainId : tx.chainId = config.network.chainId
  version : tx.version = config.gas.version

/-- Gives the native currency for as much of the wrapped token. -/
structure Wraps (config : RouterConfig) (amount : Amount) (tx : Transaction) : Prop where
  receiver : tx.receiver = config.contracts.wrapper
  value : tx.value = amount
  gas : tx.gasLimit = config.gas.wrap
  call : Call.ofChars? tx.data.toList = some ⟨"wrapEgld", []⟩

/-- Transfers the input to the router and names every hop of the route in order. -/
structure Swaps (config : RouterConfig) (quote : Quote) (bounds : SwapBounds) (tx : Transaction) :
    Prop where
  receiver : tx.receiver = config.contracts.router
  value : tx.value = 0
  gas : tx.gasLimit.toNat =
    min (quote.route.route.pools.length * config.gas.perHop.toNat) (UInt64.size - 1)
  call : ∃ source arguments calls, quote.route.route.tokens.head? = some source ∧
    TokenCall.read? tx.data = some ⟨source, quote.amountIn, "multiPairSwap", arguments⟩ ∧
      HopCall.readAll? arguments = some calls ∧
        HopCalls quote.type quote.route.route.pools quote.route.route.tokens.tail bounds.limits calls

/-- Gives the last amount of the route in the wrapped token for the native currency. -/
structure Unwraps (config : RouterConfig) (quote : Quote) (bounds : SwapBounds) (tx : Transaction) :
    Prop where
  receiver : tx.receiver = config.contracts.wrapper
  value : tx.value = 0
  gas : tx.gasLimit = config.gas.unwrap
  call : ∃ last, quote.route.amounts.getLast? = some last ∧
    TokenCall.read? tx.data = some ⟨config.contracts.wrapped, last, "unwrapEgld", []⟩ ∧
      (quote.type = .fixedOutput → bounds.limits.getLast? = some last)

namespace Transaction

theorem of_config_stamped (config : RouterConfig) (sender receiver : Address) (value : Amount)
    (gasLimit : UInt64) (data : String) :
    Stamped config sender (ofConfig config sender receiver value gasLimit data) :=
  ⟨rfl, rfl, rfl, rfl, rfl⟩

theorem wrap_wraps (config : RouterConfig) (sender : Address) (amount : Amount) :
    Wraps config amount (wrap config sender amount) := by
  refine ⟨rfl, rfl, rfl, ?_⟩
  have plain : Call.separator ∉ wrapEndpoint.toList := by decide
  have reads := Call.of_chars_chars ⟨wrapEndpoint, []⟩ plain
  simpa [Call.chars, wrap, ofConfig, wrapEndpoint] using reads

theorem swap_gas_to_nat (hops : Nat) (perHop : UInt64) :
    (swapGas hops perHop).toNat = min (hops * perHop.toNat) (UInt64.size - 1) := by
  have fits : min (hops * perHop.toNat) (UInt64.size - 1) < UInt64.size :=
    Nat.lt_of_le_of_lt (Nat.min_le_right _ _) (by decide)
  exact UInt64.toNat_ofNat_of_lt fits

end Transaction

namespace Quote
variable {config : RouterConfig} {sender : Address} {quote : Quote} {bounds : SwapBounds}

theorem fault_none_iff (contracts : ContractsConfig) (quote : Quote) :
    quote.fault? contracts = none ↔
      quote.route.amounts.length = quote.route.route.tokens.length ∧
        (quote.route.route.tokens.head? = some (contracts.routingToken quote.tokenIn) ∧
          quote.route.route.tokens.getLast? = some (contracts.routingToken quote.tokenOut)) ∧
        ∀ pool ∈ quote.route.route.pools, pool.address.isContract = true := by
  unfold fault?
  by_cases counted : quote.route.amounts.length = quote.route.route.tokens.length
  · by_cases starts : quote.route.route.tokens.head? = some (contracts.routingToken quote.tokenIn)
    · by_cases ends :
        quote.route.route.tokens.getLast? = some (contracts.routingToken quote.tokenOut)
      · simp [Route.tokenIn?, Route.tokenOut?, counted, starts, ends, List.find?_eq_none]
      · simp [Route.tokenIn?, Route.tokenOut?, counted, ends]
    · simp [Route.tokenIn?, counted, starts]
  · simp [counted]

theorem validate_ok_iff (contracts : ContractsConfig) (quote : Quote) :
    quote.validate contracts = .ok () ↔
      quote.route.route.validate = .ok () ∧ quote.fault? contracts = none := by
  rw [validate, check_ok_iff]
  refine and_congr_right fun _ => ?_
  cases quote.fault? contracts <;> simp

theorem bounds_ok_iff (quote : Quote) (bounds : SwapBounds) :
    quote.bounds = .ok bounds ↔
      SwapBounds.compute quote.type quote.route.amounts quote.tolerance = .ok bounds ∧
        bounds.amountIn = quote.amountIn := by
  rw [Quote.bounds, bind_ok_iff]
  constructor
  · rintro ⟨found, computed, checked⟩
    split at checked
    · next same =>
      cases checked
      exact ⟨computed, same⟩
    · cases checked
  · rintro ⟨computed, same⟩
    exact ⟨bounds, computed, if_pos same⟩

theorem unwrap_unwraps (config : RouterConfig) (sender : Address) {last : Amount}
    (ends : quote.route.amounts.getLast? = some last)
    (computed : SwapBounds.compute quote.type quote.route.amounts quote.tolerance = .ok bounds) :
    Unwraps config quote bounds (Transaction.unwrap config sender quote.route.amountOut) := by
  have same : quote.route.amountOut = last := by
    rw [SimulatedRoute.amountOut, ends, Option.getD_some]
  refine ⟨rfl, rfl, rfl, last, ends, ?_, ?_⟩
  · rw [same]
    exact TokenCall.read_text config.contracts.wrapped last Transaction.unwrapEndpoint []
  · intro fixed
    rw [fixed] at computed
    rw [SwapBounds.last_limit_of_output computed, ends]

theorem swap_swaps {swap : Transaction}
    (joined : Joined quote.route.route.tokens quote.route.route.pools)
    (limitEach : bounds.limits.length = quote.route.route.pools.length)
    (transferred : bounds.amountIn = quote.amountIn)
    (written : Transaction.swap config sender quote bounds = .ok swap) :
    Swaps config quote bounds swap ∧ Stamped config sender swap := by
  obtain ⟨call, called, rfl⟩ := (map_ok_iff ..).mp written
  obtain ⟨arguments, listed, rfl⟩ := (map_ok_iff ..).mp called
  obtain ⟨source, tokens, spelled⟩ := List.exists_cons_of_length_eq_add_one (joined_length joined)
  have tokenEach : quote.route.route.tokens.tail.length = quote.route.route.pools.length := by
    rw [List.length_tail, joined_length joined, Nat.add_sub_cancel]
  obtain ⟨calls, reads, planned⟩ :=
    read_all_hop_arguments quote.type _ _ _ arguments tokenEach limitEach listed
  refine ⟨⟨rfl, rfl, ?_, source, arguments, calls, ?_, ?_, reads, planned⟩,
    Transaction.of_config_stamped ..⟩
  · exact Transaction.swap_gas_to_nat quote.route.route.pools.length config.gas.perHop
  · rw [spelled, List.head?_cons]
  · rw [← transferred, spelled]
    exact TokenCall.read_text source bounds.amountIn Transaction.multiPairSwap arguments

theorem transactions_read (config : RouterConfig) (sender : Address) (quote : Quote)
    (txs : List Transaction) (built : quote.transactions config sender = .ok txs) :
    ∃ bounds before swap after,
      SwapBounds.compute quote.type quote.route.amounts quote.tolerance = .ok bounds ∧
      bounds.amountIn = quote.amountIn ∧ txs = before ++ swap :: after ∧
      (if quote.tokenIn = config.contracts.native then
        ∃ wrap, before = [wrap] ∧ Wraps config quote.amountIn wrap else before = []) ∧
      Swaps config quote bounds swap ∧
      (if quote.tokenOut = config.contracts.native then
        ∃ unwrap, after = [unwrap] ∧ Unwraps config quote bounds unwrap else after = []) ∧
      ∀ tx ∈ txs, Stamped config sender tx := by
  obtain ⟨valid, built⟩ := (check_ok_iff ..).mp built
  obtain ⟨bounds, bounded, built⟩ := (bind_ok_iff ..).mp built
  obtain ⟨swap, written, rfl⟩ := (map_ok_iff ..).mp built
  obtain ⟨computed, transferred⟩ := (bounds_ok_iff quote bounds).mp bounded
  obtain ⟨shaped, faultless⟩ := (validate_ok_iff config.contracts quote).mp valid
  obtain ⟨counted, _, _⟩ := (fault_none_iff config.contracts quote).mp faultless
  obtain ⟨_, joined, _⟩ := (Route.validate_ok_iff quote.route.route).mp shaped
  have limits := SwapBounds.length_limits computed
  have limitEach : bounds.limits.length = quote.route.route.pools.length :=
    Nat.succ.inj (limits.symm.trans (counted.trans (joined_length joined)))
  obtain ⟨swaps, stamped⟩ := swap_swaps joined limitEach transferred written
  have nonempty : quote.route.amounts ≠ [] :=
    List.ne_nil_of_length_pos (Nat.lt_of_lt_of_eq (Nat.succ_pos _) limits.symm)
  have ends := List.getLast?_eq_some_getLast nonempty
  simp only [ContractsConfig.isNative, decide_eq_true_eq]
  refine ⟨bounds, _, swap, _, computed, transferred, rfl, ?_, swaps, ?_, ?_⟩
  · split
    · exact ⟨_, rfl, transferred ▸ Transaction.wrap_wraps config sender bounds.amountIn⟩
    · rfl
  · split
    · exact ⟨_, rfl, unwrap_unwraps config sender ends computed⟩
    · rfl
  · intro tx member
    rw [List.mem_append, List.mem_cons] at member
    rcases member with first | rfl | last
    · split at first
      · cases List.mem_singleton.mp first
        exact Transaction.of_config_stamped ..
      · cases first
    · exact stamped
    · split at last
      · cases List.mem_singleton.mp last
        exact Transaction.of_config_stamped ..
      · cases last

-- The last hop is asked for 80, which is what the second transaction gives for the native currency.
theorem transactions_read_two_hops :
    ∃ swap unwrap call calls last,
      (Sample.quote 80 1 [1, 873, 80]).transactions .default ⟨"erd1sender"⟩ = .ok [swap, unwrap] ∧
      TokenCall.read? swap.data = some call ∧ call.function = "multiPairSwap" ∧ call.amount = 1 ∧
      HopCall.readAll? call.arguments = some calls ∧
      calls.map HopCall.endpoint = ["swapTokensFixedOutput", "swapTokensFixedOutput"] ∧
      calls.map HopCall.limit = [1091, 80] ∧
      TokenCall.read? unwrap.data = some last ∧ last.function = "unwrapEgld" ∧
      last.amount = 80 := by
  have accepted : ((Sample.quote 80 1 [1, 873, 80]).transactions .default
      ⟨"erd1sender"⟩).toOption.isSome = true := by
    decide +kernel
  cases built : (Sample.quote 80 1 [1, 873, 80]).transactions .default ⟨"erd1sender"⟩ with
  | error error =>
    rw [built] at accepted
    cases accepted
  | ok txs =>
    obtain ⟨bounds, before, swap, after, computed, _, rfl, wraps, swaps, unwraps, _⟩ :=
      transactions_read .default ⟨"erd1sender"⟩ _ txs built
    cases computed
    rw [if_neg (by decide)] at wraps
    rw [if_pos (by decide)] at unwraps
    obtain ⟨unwrap, rfl, unwraps⟩ := unwraps
    obtain ⟨_, arguments, calls, _, transfer, reads, each⟩ := swaps.call
    obtain ⟨last, ends, withdrawal, _⟩ := unwraps.call
    have planned : calls.map HopCall.endpoint =
        ["swapTokensFixedOutput", "swapTokensFixedOutput"] ∧
        calls.map HopCall.limit = [1091, 80] := by
      obtain _ | ⟨_, ⟨⟩, _ | ⟨_, ⟨⟩, _ | _⟩⟩ := each
      exact ⟨rfl, rfl⟩
    refine ⟨swap, unwrap, _, calls, _, ?_, transfer, rfl, rfl, reads, planned.1, planned.2,
      withdrawal, rfl, ?_⟩
    · rw [wraps]
      rfl
    · exact (Option.some.inj ends).symm

end Quote
end PoolRouting
