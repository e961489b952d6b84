import PoolRouting.Proofs.CheckedTrades
import PoolRouting.Proofs.TransactionDecoding

/-!
The transactions of a quote with every partial step checked. A quote may come from anywhere: its
tokens, its amounts and its limits are three lists of their own lengths, read by one index. The
shape of the route and the number of its amounts are checked first, and a quote that passes is read
within all three.
-/

namespace PoolRouting
namespace Checked
variable {ε : Type}

/-- The amount raised by the tolerance. -/
def raised (amount : Amount) (tolerance : Decimal) : Checked RouterError Amount := do
  let fraction ← lift (toleranceFraction tolerance)
  divide (amount * (fraction.denominator + fraction.numerator)) fraction.denominator

/-- The amount lowered by the tolerance. -/
def lowered (amount : Amount) (tolerance : Decimal) : Checked RouterError Amount := do
  let fraction ← lift (toleranceFraction tolerance)
  let kept ← subtract fraction.denominator fraction.numerator
  divide (amount * kept) fraction.denominator

/-- What a fixed output asks of the hop at an index. -/
def limit (hops : Nat) (tolerance : Fraction) (amounts : List Amount) (index : Nat) :
    Checked ε Amount := do
  let ahead ← subtract hops index
  let remaining ← subtract ahead 1
  let amount ← get amounts (index + 1)
  let scale := hops * tolerance.denominator
  divide (amount * (scale + remaining * tolerance.numerator)) scale

def bounds (type : SwapType) (amounts : List Amount) (tolerance : Decimal) :
    Checked RouterError SwapBounds :=
  if amounts.length < 2 then refuse (.invalidRoute .tooFewAmounts)
  else do
    let hops ← subtract amounts.length 1
    let first ← get amounts 0
    match type with
    | .fixedInput => do
      let last ← get amounts hops
      let least ← lowered last tolerance
      let final ← subtract hops 1
      let limits ← put (List.replicate hops 1) final (max least 1)
      return ⟨first, limits⟩
    | .fixedOutput => do
      let fraction ← lift (toleranceFraction tolerance)
      let limits ← (List.range hops).mapM (limit hops fraction amounts)
      let amountIn ← raised first tolerance
      return ⟨amountIn, limits⟩

section Tolerance
variable (amount : Amount) (tolerance : Decimal)

theorem raised_agrees : raised amount tolerance = lift (maxAmountIn amount tolerance) := by
  refine map_lifted fun fraction taken => ?_
  cases taken.symm.trans (tolerance_fraction_ok (valid_of_fraction taken))
  exact divide_ok _ (place_value_pos _)

theorem lowered_agrees : lowered amount tolerance = lift (minAmountOut amount tolerance) := by
  refine map_lifted fun fraction taken => ?_
  have bounded := valid_of_fraction taken
  cases taken.symm.trans (tolerance_fraction_ok bounded)
  have below := ((valid_tolerance_iff tolerance).mp bounded).2
  rw [toleranceRatio, subtract_ok (Nat.le_of_lt below), ok_bind]
  exact divide_ok _ (place_value_pos _)

end Tolerance

theorem set_last_only (least : Amount) (amount : Amount) (rest : List Amount) :
    (List.replicate (rest.length + 1) 1).set rest.length (max least 1) =
      SwapBounds.lastOnly least (amount :: rest) := by
  induction rest generalizing amount with
  | nil => exact congrArg (fun limit => [limit]) (Nat.max_comm least 1)
  | cons next rest ih => exact congrArg (List.cons 1) (ih next)

theorem limit_agrees {tolerance : Fraction} (scaled : 0 < tolerance.denominator) (first : Amount)
    {later : List Amount} {index : Nat} {amount : Amount} (found : later[index]? = some amount) :
    (limit later.length tolerance (first :: later) index : Checked ε Amount) =
      .ok (SwapBounds.raised later.length tolerance (later.length - 1 - index) amount) := by
  have placed : index < later.length := (List.getElem?_eq_some_iff.mp found).1
  have remaining : later.length - index - 1 = later.length - 1 - index := Nat.sub_right_comm ..
  have behind : (first :: later)[index + 1]? = some amount := found
  rw [limit, subtract_ok (Nat.le_of_lt placed), ok_bind,
    subtract_ok (Nat.sub_pos_of_lt placed), ok_bind, get_ok behind, ok_bind, remaining]
  exact divide_ok _ (Nat.mul_pos (Nat.zero_lt_of_lt placed) scaled)

theorem limits_agree {tolerance : Fraction} (scaled : 0 < tolerance.denominator) (first : Amount)
    (later : List Amount) :
    ((List.range later.length).mapM (limit later.length tolerance (first :: later)) :
      Checked ε (List Amount)) = .ok (SwapBounds.spread later.length tolerance later) := by
  rw [List.range_eq_range']
  refine map_m_range_ok (SwapBounds.length_spread ..) fun index item found => ?_
  rw [SwapBounds.get_spread] at found
  obtain ⟨amount, placed, rfl⟩ := Option.map_eq_some_iff.mp found
  rw [Nat.zero_add]
  exact limit_agrees scaled first placed

theorem bounds_agree (type : SwapType) (amounts : List Amount) (tolerance : Decimal) :
    bounds type amounts tolerance = lift (SwapBounds.compute type amounts tolerance) := by
  match amounts with
  | [] => rfl
  | [_] => rfl
  | first :: next :: rest =>
    have hops : subtract (first :: next :: rest).length 1 =
        (.ok (next :: rest).length : Checked RouterError Nat) := subtract_ok (Nat.le_add_left 1 _)
    have several : ¬ (first :: next :: rest).length < 2 := by simp
    rw [bounds, if_neg several, hops, ok_bind]
    have start : get (first :: next :: rest) 0 = (.ok first : Checked RouterError Amount) := rfl
    rw [start, ok_bind]
    cases type with
    | fixedInput =>
      have ends : (first :: next :: rest)[(next :: rest).length]? =
          some ((next :: rest).getLast?.getD 0) := by
        rw [List.getLast?_eq_some_getLast (List.cons_ne_nil next rest), Option.getD_some,
          List.length_cons, List.getElem?_cons_succ, ← List.getLast?_eq_some_getLast,
          List.getLast?_eq_getElem?]
        rfl
      dsimp only
      rw [get_ok ends, ok_bind, lowered_agrees]
      refine map_lifted fun least _ => ?_
      rw [List.length_cons, subtract_ok (Nat.le_add_left 1 _), ok_bind, put_ok (by simp), ok_bind,
        Nat.add_sub_cancel, set_last_only]
      rfl
    | fixedOutput =>
      dsimp only
      refine bind_lifted fun fraction taken => ?_
      cases taken.symm.trans (tolerance_fraction_ok (valid_of_fraction taken))
      rw [limits_agree (place_value_pos _), ok_bind, raised_agrees]
      exact map_lifted fun amountIn _ => rfl

/-! The transactions. -/

/-- A contract has a key of 32 bytes that opens with eight zeros. -/
def isContract (address : Address) : Checked ε Bool :=
  match address.bytes? with
  | none => return false
  | some key =>
    if key.length = 32 then do
      let opening ← front key 8
      return opening.all (· = 0)
    else return false

/-- The first pool whose address is no contract. -/
def foreign? : List Pool → Checked ε (Option Pool)
  | [] => return none
  | pool :: rest => do
    if ← isContract pool.address then foreign? rest else return some pool

/-- What is wrong with a quote beyond the shape of its route, if anything. -/
def fault? (contracts : ContractsConfig) (quote : Quote) : Checked ε (Option RouteFault) :=
  let route := quote.route.route
  if quote.route.amounts.length ≠ route.tokens.length then
    return some (.amountCount quote.route.amounts.length route.tokens.length)
  else if route.tokenIn? ≠ some (contracts.routingToken quote.tokenIn) ∨
      route.tokenOut? ≠ some (contracts.routingToken quote.tokenOut) then
    return some (.wrongEnds route.tokens quote.tokenIn quote.tokenOut)
  else do
    let pool ← foreign? route.pools
    return pool.map fun pool => .notContract pool.address

/-- The arguments of each hop from an index on. -/
def hopArguments (type : SwapType) (tokens : List TokenId) (limits : List Amount) :
    Nat → List Pool → Checked RouterError (List (List UInt8))
  | _, [] => return []
  | index, pool :: pools =>
    match pool.address.bytes? with
    | none => refuse (.invalidRoute (.undecodable pool.address))
    | some key => do
      let token ← get tokens (index + 1)
      let limit ← get limits index
      let later ← hopArguments type tokens limits (index + 1) pools
      return key :: Call.name type.endpoint :: Call.name token.text :: Call.count limit :: later

def swap (config : RouterConfig) (sender : Address) (quote : Quote) (bounds : SwapBounds) :
    Checked RouterError Transaction := do
  let tokens := quote.route.route.tokens
  let source ← get tokens 0
  let hops ← hopArguments quote.type tokens bounds.limits 0 quote.route.route.pools
  let call : Call := ⟨Transaction.tokenTransfer, Call.name source.text ::
    Call.count bounds.amountIn :: Call.name Transaction.multiPairSwap :: hops⟩
  return Transaction.ofConfig config sender config.contracts.router 0
    (Transaction.swapGas quote.route.hopCount config.gas.perHop) call.text

def inspect (contracts : ContractsConfig) (quote : Quote) : Checked RouterError Unit := do
  validate quote.route.route
  match ← fault? contracts quote with
  | some fault => refuse (.invalidRoute fault)
  | none => return ()

/-- The bounds of a quote that transfers what its route asks for. -/
def agreedBounds (quote : Quote) : Checked RouterError SwapBounds := do
  let bounds ← bounds quote.type quote.route.amounts quote.tolerance
  if bounds.amountIn = quote.amountIn then return bounds
  else refuse (.invalidRoute (.amountMismatch quote.amountIn bounds.amountIn))

def transactions (config : RouterConfig) (sender : Address) (quote : Quote) :
    Checked RouterError (List Transaction) := do
  inspect config.contracts quote
  let bounds ← agreedBounds quote
  let before :=
    if config.contracts.isNative quote.tokenIn then
      [Transaction.wrap config sender bounds.amountIn]
    else []
  let swap ← swap config sender quote bounds
  if config.contracts.isNative quote.tokenOut then do
    let last ← amountOut quote.route
    return before ++ [swap, Transaction.unwrap config sender last]
  else return before ++ [swap]

theorem is_contract_agrees (address : Address) :
    (isContract address : Checked ε Bool) = .ok address.isContract := by
  unfold isContract Address.isContract
  cases address.bytes? with
  | none => rfl
  | some key =>
    by_cases long : key.length = 32
    · have opens : 8 ≤ key.length := by omega
      simp only [front_ok opens, long]
      rfl
    · simp only [long]
      rfl

theorem foreign_agrees (pools : List Pool) :
    (foreign? pools : Checked ε (Option Pool)) =
      .ok (pools.find? fun pool => !pool.address.isContract) := by
  induction pools with
  | nil => rfl
  | cons pool rest ih =>
    rw [foreign?, is_contract_agrees, ok_bind, ih, List.find?_cons]
    cases pool.address.isContract <;> rfl

theorem fault_agrees (contracts : ContractsConfig) (quote : Quote) :
    (fault? contracts quote : Checked ε (Option RouteFault)) = .ok (quote.fault? contracts) := by
  unfold fault? Quote.fault?
  dsimp only
  rw [foreign_agrees]
  split
  · rfl
  split
  · rfl
  · rfl

theorem hop_arguments_agree (type : SwapType) {tokens tokensHere : List TokenId}
    {limits limitsHere : List Amount} {pools : List Pool} {index : Nat}
    (tokensFrom : tokens.drop (index + 1) = tokensHere)
    (limitsFrom : limits.drop index = limitsHere)
    (tokenEach : tokensHere.length = pools.length) (limitEach : limitsHere.length = pools.length) :
    hopArguments type tokens limits index pools =
      lift (Transaction.hopArguments type pools tokensHere limitsHere) := by
  induction pools generalizing tokensHere limitsHere index with
  | nil =>
    cases List.length_eq_zero_iff.mp tokenEach
    cases List.length_eq_zero_iff.mp limitEach
    rfl
  | cons pool pools ih =>
    obtain ⟨token, tokensLater, rfl⟩ := List.exists_cons_of_length_eq_add_one tokenEach
    obtain ⟨limit, limitsLater, rfl⟩ := List.exists_cons_of_length_eq_add_one limitEach
    rw [hopArguments, Transaction.hopArguments]
    cases pool.address.bytes? with
    | none => rfl
    | some key =>
      dsimp only
      rw [get_of_drop tokensFrom, get_of_drop limitsFrom, ok_bind, ok_bind,
        ih (drop_next tokensFrom) (drop_next limitsFrom) (Nat.succ.inj tokenEach)
          (Nat.succ.inj limitEach)]
      exact map_lifted fun later _ => rfl

theorem inspect_agrees (contracts : ContractsConfig) (quote : Quote) :
    inspect contracts quote = lift (quote.validate contracts) := by
  rw [inspect, validate_agrees]
  refine bind_lifted fun _ _ => ?_
  rw [fault_agrees, ok_bind]
  cases quote.fault? contracts <;> rfl

theorem agreed_bounds_agree (quote : Quote) : agreedBounds quote = lift quote.bounds := by
  rw [agreedBounds, bounds_agree]
  refine bind_lifted fun bounds _ => ?_
  rw [apply_ite lift]
  rfl

theorem swap_agrees {config : RouterConfig} {sender : Address} {quote : Quote} {bounds : SwapBounds}
    (joined : Joined quote.route.route.tokens quote.route.route.pools)
    (limitEach : bounds.limits.length = quote.route.route.pools.length) :
    swap config sender quote bounds = lift (Transaction.swap config sender quote bounds) := by
  obtain ⟨source, tokens, listed⟩ := List.exists_cons_of_length_eq_add_one (joined_length joined)
  have tokenEach : tokens.length = quote.route.route.pools.length := by
    have counted := joined_length joined
    rw [listed] at counted
    exact Nat.succ.inj counted
  have behind : (source :: tokens).drop 1 = tokens := rfl
  have starts : get (source :: tokens) 0 = (.ok source : Checked RouterError TokenId) := rfl
  rw [swap, Transaction.swap, Transaction.swapCall, map_map, listed]
  dsimp only
  rw [starts, ok_bind, hop_arguments_agree quote.type behind List.drop_zero tokenEach limitEach]
  exact map_lifted fun hops _ => rfl

theorem transactions_agree (config : RouterConfig) (sender : Address) (quote : Quote) :
    transactions config sender quote = lift (quote.transactions config sender) := by
  rw [transactions, inspect_agrees]
  refine bind_lifted fun _ valid => ?_
  rw [agreed_bounds_agree]
  refine bind_lifted fun bounds bounded => ?_
  obtain ⟨shaped, faultless⟩ := (Quote.validate_ok_iff config.contracts quote).mp valid
  obtain ⟨computed, _⟩ := (Quote.bounds_ok_iff quote bounds).mp bounded
  obtain ⟨counted, _⟩ := (Quote.fault_none_iff config.contracts quote).mp faultless
  obtain ⟨_, joined, _⟩ := (Route.validate_ok_iff quote.route.route).mp shaped
  have limits := SwapBounds.length_limits computed
  have limitEach : bounds.limits.length = quote.route.route.pools.length :=
    Nat.succ.inj (limits.symm.trans (counted.trans (joined_length joined)))
  have several : quote.route.amounts ≠ [] :=
    List.ne_nil_of_length_pos (Nat.lt_of_lt_of_eq (Nat.succ_pos _) limits.symm)
  dsimp only
  rw [swap_agrees joined limitEach]
  refine map_lifted fun swap _ => ?_
  cases config.contracts.isNative quote.tokenOut with
  | false => rfl
  | true =>
    rw [if_pos rfl, amount_out_agrees several]
    rfl

end Checked
end PoolRouting
