import PoolRouting.Proofs.CheckedSteps
import PoolRouting.Proofs.RouteSimulation

/-!
Trades and simulations with every partial step checked: the fee taken from one, the division of a
trade, and all reading and writing by index while a route is checked and simulated. Routes come in
any shape; the check of the shape is what keeps the later indices in range.
-/

namespace PoolRouting
namespace Checked
variable {ε α : Type}

def feeRatio? (fee : Decimal) : Checked ε (Option FeeRatio) :=
  match fee.fraction? with
  | none => return none
  | some fraction =>
    if fraction.denominator ≤ fraction.numerator then return none
    else do
      let keep ← subtract fraction.denominator fraction.numerator
      return some ⟨keep, fraction.denominator⟩

theorem fee_ratio_agrees (fee : Decimal) :
    (feeRatio? fee : Checked ε (Option FeeRatio)) = .ok (FeeRatio.ofDecimal? fee) := by
  unfold feeRatio? FeeRatio.ofDecimal?
  cases fee.fraction? with
  | none => rfl
  | some fraction =>
    dsimp only [Option.bind_some]
    by_cases whole : fraction.denominator ≤ fraction.numerator
    · rw [if_pos whole, if_pos whole]
      rfl
    · rw [if_neg whole, if_neg whole, subtract_ok (Nat.le_of_not_le whole)]
      rfl

def output (reserves : Reserves) (fee : FeeRatio) (input : Amount) : Checked HopError Amount :=
  if reserves.input = 0 ∨ reserves.output = 0 then refuse .insufficientLiquidity
  else if input = 0 then return 0
  else do
    let kept := input * fee.keep
    let bought ← divide (reserves.output * kept) (reserves.input * fee.denominator + kept)
    if reserves.output ≤ bought then refuse .insufficientLiquidity else return bought

def input (reserves : Reserves) (fee : FeeRatio) (output : Amount) : Checked HopError Amount :=
  if reserves.input = 0 ∨ reserves.output ≤ output then refuse .insufficientLiquidity
  else if output = 0 then return 0
  else if fee.keep = 0 then refuse .insufficientLiquidity
  else do
    let left ← subtract reserves.output output
    divideUp (reserves.input * output * fee.denominator) (left * fee.keep)

section Hop
variable (reserves : Reserves) (fee : FeeRatio)

theorem output_agrees (scaled : 0 < fee.denominator) (input : Amount) :
    output reserves fee input = lift (Hop.output reserves fee input) := by
  unfold output Hop.output
  by_cases empty : reserves.input = 0 ∨ reserves.output = 0
  · rw [if_pos empty, if_pos empty]
    rfl
  by_cases nothing : input = 0
  · rw [if_neg empty, if_neg empty, if_pos nothing, if_pos nothing]
    rfl
  have deep : 0 < reserves.input * fee.denominator + input * fee.keep :=
    Nat.add_pos_left (Nat.mul_pos (Nat.pos_of_ne_zero (mt Or.inl empty)) scaled) _
  rw [if_neg empty, if_neg empty, if_neg nothing, if_neg nothing]
  dsimp only
  rw [divide_ok _ deep]
  rw [apply_ite lift]
  rfl

-- Nothing but the check of the fee keeps a ratio from having no denominator.
example : Checked.output ⟨1, 1⟩ ⟨0, 0⟩ 1 = crash .zeroDivisor := rfl

theorem input_agrees (output : Amount) :
    input reserves fee output = lift (Hop.input reserves fee output) := by
  unfold input Hop.input
  by_cases short : reserves.input = 0 ∨ reserves.output ≤ output
  · rw [if_pos short, if_pos short]
    rfl
  by_cases nothing : output = 0
  · rw [if_neg short, if_neg short, if_pos nothing, if_pos nothing]
    rfl
  by_cases kept : fee.keep = 0
  · rw [if_neg short, if_neg short, if_neg nothing, if_neg nothing, if_pos kept, if_pos kept]
    rfl
  have covers : output < reserves.output := Nat.lt_of_not_le (mt Or.inr short)
  have deep : 0 < (reserves.output - output) * fee.keep :=
    Nat.mul_pos (Nat.sub_pos_of_lt covers) (Nat.pos_of_ne_zero kept)
  rw [if_neg short, if_neg short, if_neg nothing, if_neg nothing, if_neg kept, if_neg kept,
    subtract_ok (Nat.le_of_lt covers)]
  exact divide_up_ok _ deep

end Hop

def feeOf (pool : Pool) : Checked RouterError FeeRatio := do
  match ← feeRatio? pool.feeFraction with
  | some ratio => return ratio
  | none => refuse (.dataIntegrity (.feeOutOfRange pool.address pool.feeFraction))

def trade (pool : Pool) (token : TokenId)
    (compute : Reserves → FeeRatio → Checked HopError Amount) : Checked RouterError Amount := do
  let reserves ← lift (pool.orientedReserves token)
  let fee ← feeOf pool
  renamed (fun | .insufficientLiquidity => .insufficientLiquidity pool.address)
    (compute reserves fee)

theorem fee_agrees (pool : Pool) : feeOf pool = lift pool.feeRatio := by
  rw [feeOf, fee_ratio_agrees, Pool.feeRatio]
  cases FeeRatio.ofDecimal? pool.feeFraction <;> rfl

theorem trade_agrees (pool : Pool) (token : TokenId)
    {checked : Reserves → FeeRatio → Checked HopError Amount}
    {compute : Reserves → FeeRatio → Except HopError Amount}
    (agree : ∀ reserves fee, 0 < fee.denominator →
      checked reserves fee = lift (compute reserves fee)) :
    trade pool token checked = lift (pool.trade token compute) := by
  rw [trade, fee_agrees]
  refine bind_lifted fun reserves _ => bind_lifted fun fee charged => ?_
  have taken : FeeRatio.ofDecimal? pool.feeFraction = some fee := by
    unfold Pool.feeRatio at charged
    split at charged
    · next ratio taken =>
      cases charged
      exact taken
    · cases charged
  rw [agree reserves fee (denominator_pos taken), renamed_lift]

/-- The amount that leaves the pool, even nothing. -/
def sold (pool : Pool) (token : TokenId) (amount : Amount) : Checked RouterError Amount :=
  trade pool token fun reserves fee => output reserves fee amount

def bought (pool : Pool) (token : TokenId) (amount : Amount) : Checked RouterError Amount :=
  trade pool token fun reserves fee => input reserves fee amount

theorem sold_agrees (pool : Pool) (token : TokenId) (amount : Amount) :
    sold pool token amount =
      lift (pool.trade token fun reserves fee => Hop.output reserves fee amount) :=
  trade_agrees pool token fun reserves fee scaled => output_agrees reserves fee scaled amount

theorem bought_agrees (pool : Pool) (token : TokenId) (amount : Amount) :
    bought pool token amount = lift (pool.buy token amount) :=
  trade_agrees pool token fun reserves fee _ => input_agrees reserves fee amount

/-! The shape of a route, read by index. -/

/-- Each pool, from an index on, joins the token at its index to the next one. -/
def joins (tokens : List TokenId) : Nat → List Pool → Checked RouterError Unit
  | _, [] => return ()
  | index, pool :: pools => do
    let left ← get tokens index
    let right ← get tokens (index + 1)
    if pool.otherToken? left = some right then joins tokens (index + 1) pools
    else refuse (.invalidRoute (.disconnected pool.address left right))

/-- Each token, from an index on, is missing behind its index. -/
def distinct (tokens : List TokenId) : Nat → List TokenId → Checked RouterError Unit
  | _, [] => return ()
  | index, token :: rest => do
    let later ← suffix tokens (index + 1)
    if token ∈ later then refuse (.invalidRoute (.repeatedToken token))
    else distinct tokens (index + 1) rest

def validate (route : Route) : Checked RouterError Unit :=
  if route.pools = [] then refuse (.invalidRoute .noPools)
  else if route.tokens.length ≠ route.pools.length + 1 then
    refuse (.invalidRoute (.tokenCount route.tokens.length route.pools.length))
  else do
    joins route.tokens 0 route.pools
    distinct route.tokens 0 route.tokens

theorem joins_agrees {tokens rest : List TokenId} {pools : List Pool} {index : Nat}
    (here : tokens.drop index = rest) (counted : rest.length = pools.length + 1) :
    joins tokens index pools = lift (judged (Route.gap? rest pools)) := by
  induction pools generalizing rest index with
  | nil =>
    obtain ⟨token, rfl⟩ := List.length_eq_one_iff.mp counted
    rfl
  | cons pool pools ih =>
    match rest, counted with
    | left :: right :: rest, counted =>
      have next := drop_next here
      rw [joins, get_of_drop here, get_of_drop next, Route.gap?]
      by_cases joined : pool.otherToken? left = some right
      · rw [if_pos joined, ok_bind, ok_bind, if_pos joined]
        exact ih next (Nat.succ.inj counted)
      · rw [if_neg joined, ok_bind, ok_bind, if_neg joined]
        rfl

theorem distinct_agrees {tokens rest : List TokenId} {index : Nat}
    (here : tokens.drop index = rest) :
    distinct tokens index rest = lift (judged (Route.repeated? rest)) := by
  induction rest generalizing index with
  | nil => rfl
  | cons token rest ih =>
    have next := drop_next here
    have inside : index + 1 ≤ tokens.length := by
      have counted := congrArg List.length here
      rw [List.length_drop, List.length_cons] at counted
      omega
    rw [distinct, suffix_ok inside, next, ok_bind, Route.repeated?]
    by_cases again : token ∈ rest
    · rw [if_pos again, if_pos again]
      rfl
    · rw [if_neg again, if_neg again]
      exact ih next

theorem validate_agrees (route : Route) : validate route = lift route.validate := by
  rw [Route.validate_eq, validate, Route.fault?]
  by_cases empty : route.pools = []
  · rw [if_pos empty, if_pos empty]
    rfl
  by_cases counted : route.tokens.length = route.pools.length + 1
  · rw [if_neg empty, if_neg empty, if_neg (not_not_intro counted),
      if_neg (not_not_intro counted), joins_agrees List.drop_zero counted, judged_or]
    exact bind_lifted fun _ _ => distinct_agrees List.drop_zero
  · rw [if_neg empty, if_neg empty, if_pos counted, if_pos counted]
    rfl

/-! Simulation of a route over a list of amounts, one for each token, which the hops fill in. -/

/-- Forward from an index: each hop sells the amount at its index and writes the one after it. -/
def sellAll (route : Route) : Nat → Nat → List Amount → Checked RouterError (List Amount)
  | 0, _, amounts => return amounts
  | hops + 1, index, amounts => do
    let pool ← get route.pools index
    let token ← get route.tokens index
    let amount ← get amounts index
    let brought ← sold pool token amount
    let amounts ← put amounts (index + 1) brought
    if brought = 0 then refuse (.insufficientLiquidity pool.address)
    else sellAll route hops (index + 1) amounts

/-- Backward below an index: each hop buys the amount after its index and writes the one at it. -/
def buyAll (route : Route) : Nat → List Amount → Checked RouterError (List Amount)
  | 0, amounts => return amounts
  | index + 1, amounts => do
    let pool ← get route.pools index
    let token ← get route.tokens index
    let wanted ← get amounts (index + 1)
    let needed ← bought pool token wanted
    let amounts ← put amounts index needed
    buyAll route index amounts

def amounts (route : Route) (direction : SwapDirection) : Checked RouterError (List Amount) := do
  let hops := route.hopCount
  let blank := List.replicate (hops + 1) 0
  match direction.type with
  | .fixedInput => do
    let amounts ← put blank 0 direction.amount
    sellAll route hops 0 amounts
  | .fixedOutput => do
    let amounts ← put blank hops direction.amount
    buyAll route hops amounts

def simulate (route : Route) (direction : SwapDirection) : Checked RouterError SimulatedRoute := do
  validate route
  lift route.checkActive
  let amounts ← amounts route direction
  return ⟨route, amounts⟩

theorem set_behind {items rest : List α} {index : Nat} (counted : items.length = index)
    (first item : α) :
    (items ++ first :: rest).set index item = items ++ item :: rest := by
  subst counted
  rw [List.set_append_right _ _ (Nat.le_refl _), Nat.sub_self, List.set_cons_zero]

section Loops
variable {route : Route}

-- The hops before the index are done; behind the amount at the index everything is still blank.
theorem sell_all_agrees {pools : List Pool} {tokens : List TokenId} {done blank : List Amount}
    {index : Nat} {amount : Amount} (counted : done.length = index)
    (poolsHere : route.pools.drop index = pools) (tokensHere : route.tokens.drop index = tokens)
    (more : pools.length < tokens.length) (room : blank.length = pools.length) :
    sellAll route pools.length index (done ++ amount :: blank) =
      lift ((Route.forward amount (tokens.zip pools)).map fun later =>
        done ++ amount :: later) := by
  induction pools generalizing tokens done blank index amount with
  | nil =>
    rw [List.eq_nil_of_length_eq_zero room, List.zip_nil_right]
    rfl
  | cons pool pools ih =>
    match tokens, blank, more, room with
    | token :: tokens, empty :: blank, more, room =>
      have here : (done ++ amount :: empty :: blank).drop index = amount :: empty :: blank := by
        rw [← counted, List.drop_left]
      have inside : index + 1 < (done ++ amount :: empty :: blank).length := by
        simp [counted]
      have written (brought : Amount) : (done ++ amount :: empty :: blank).set (index + 1) brought =
          done ++ [amount] ++ brought :: blank := by
        rw [List.append_cons]
        exact set_behind (by simp [counted]) empty brought
      rw [List.length_cons, sellAll, get_of_drop poolsHere, get_of_drop tokensHere,
        get_of_drop here, List.zip_cons_cons, Route.forward_step, ok_bind, ok_bind, ok_bind,
        sold_agrees]
      refine bind_lifted fun brought _ => ?_
      rw [put_ok inside, written, ok_bind]
      by_cases nothing : brought = 0
      · rw [if_pos nothing, if_pos nothing]
        rfl
      · rw [if_neg nothing, if_neg nothing, ih (by simp [counted]) (drop_next poolsHere)
          (drop_next tokensHere) (Nat.lt_of_succ_lt_succ more) (Nat.succ.inj room)]
        simp only [List.append_assoc, List.singleton_append]

-- The hops from the index on are done; in front of the amount at the index everything is blank.
theorem buy_all_agrees {index : Nat} (within : index ≤ route.hops.length) (wanted : Amount)
    (after : List Amount) :
    buyAll route index (List.replicate index 0 ++ wanted :: after) =
      lift ((Route.backward wanted (route.hops.take index)).map fun (first, later) =>
        first :: (later ++ after)) := by
  induction index generalizing wanted after with
  | zero => rfl
  | succ index ih =>
    obtain ⟨⟨token, pool⟩, found⟩ : ∃ hop, route.hops[index]? = some hop :=
      ⟨_, List.getElem?_eq_getElem within⟩
    obtain ⟨tokenHere, poolHere⟩ := List.getElem?_zip_eq_some.mp found
    have blank : List.replicate (index + 1) 0 ++ wanted :: after =
        List.replicate index 0 ++ 0 :: wanted :: after := by
      rw [List.replicate_succ', List.append_assoc]
      rfl
    have behind : (List.replicate index 0 ++ 0 :: wanted :: after)[index + 1]? = some wanted := by
      rw [List.getElem?_append_right (by simp), List.length_replicate, Nat.add_sub_cancel_left]
      rfl
    have inside : index < (List.replicate index 0 ++ 0 :: wanted :: after).length := by simp
    have last : route.hops.take (index + 1) = route.hops.take index ++ [(token, pool)] := by
      rw [List.take_add_one, found]
      rfl
    rw [buyAll, get_ok poolHere, get_ok tokenHere, blank, get_ok behind, ok_bind, ok_bind, ok_bind,
      bought_agrees, last, Route.backward_last, map_bind]
    refine bind_lifted fun needed _ => ?_
    rw [put_ok inside, set_behind List.length_replicate, ok_bind, ih (Nat.le_of_succ_le within),
      map_map]
    simp only [List.append_assoc, List.singleton_append]

end Loops

theorem amounts_agree {route : Route} (counted : route.tokens.length = route.pools.length + 1)
    (direction : SwapDirection) : amounts route direction = lift (route.amounts direction) := by
  have hops : route.hops.length = route.hopCount := by
    rw [Route.hops, List.length_zip, counted, Nat.min_eq_right (Nat.le_succ _)]
    rfl
  unfold amounts Route.amounts
  cases direction.type with
  | fixedInput =>
    dsimp only
    rw [put_ok (by simp), ok_bind, List.replicate_succ, List.set_cons_zero]
    have undone : ([] : List Amount).length = 0 := rfl
    exact sell_all_agrees undone List.drop_zero List.drop_zero (by omega) List.length_replicate
  | fixedOutput =>
    dsimp only
    rw [put_ok (by simp), ok_bind, List.replicate_succ', set_behind List.length_replicate,
      buy_all_agrees (Nat.le_of_eq hops.symm), ← hops, List.take_length]
    simp only [List.append_nil]

theorem simulate_agrees (route : Route) (direction : SwapDirection) :
    simulate route direction = lift (route.simulate direction) := by
  rw [simulate, Route.simulate, validate_agrees]
  refine bind_lifted fun _ shaped => bind_lifted fun _ _ => ?_
  have counted := joined_length ((Route.validate_ok_iff route).mp shaped).2.1
  rw [amounts_agree counted]
  exact map_lifted fun amounts _ => rfl

-- Without the check of its shape a route with too few tokens is read past its end.
example (pool : Pool) (amount : Amount) :
    amounts ⟨[], [pool]⟩ ⟨.fixedInput, amount⟩ = crash .outOfRange := rfl

def amountIn (simulated : SimulatedRoute) : Checked ε Amount := get simulated.amounts 0

def amountOut (simulated : SimulatedRoute) : Checked ε Amount := do
  let last ← subtract simulated.amounts.length 1
  get simulated.amounts last

section Amounts
variable {simulated : SimulatedRoute} (several : simulated.amounts ≠ [])
include several

theorem amount_in_agrees : (amountIn simulated : Checked ε Amount) = .ok simulated.amountIn := by
  obtain ⟨first, later, listed⟩ := List.exists_cons_of_ne_nil several
  rw [amountIn, SimulatedRoute.amountIn, listed]
  rfl

theorem amount_out_agrees :
    (amountOut simulated : Checked ε Amount) = .ok simulated.amountOut := by
  have positive := List.length_pos_iff.mpr several
  have ends := List.getLast?_eq_some_getLast several
  have found := ends
  rw [List.getLast?_eq_getElem?] at found
  rw [amountOut, subtract_ok positive, ok_bind, get_ok found, SimulatedRoute.amountOut, ends]
  rfl

end Amounts

end Checked
end PoolRouting
