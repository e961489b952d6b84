import PoolRouting.Proofs.HopTrade
import PoolRouting.Proofs.RouteShape
import PoolRouting.Simulation

/-!
Simulation of a route, forward and backward. The adjunction of one hop carries over to a pool, to a
list of hops and to a whole route: the input found for an output is the least that brings it. On a
well-formed route with valid fees a simulation can only fail for want of liquidity.
-/

namespace PoolRouting
namespace Pool

theorem trade_ok_iff (pool : Pool) (token : TokenId)
    (compute : Reserves → FeeRatio → Except HopError Amount) (amount : Amount) :
    pool.trade token compute = .ok amount ↔
      ∃ reserves fee, pool.reservesFor? token = some reserves ∧
        FeeRatio.ofDecimal? pool.feeFraction = some fee ∧ compute reserves fee = .ok amount := by
  unfold trade orientedReserves feeRatio
  cases pool.reservesFor? token with
  | none => simp [Except.bind]
  | some reserves =>
    cases FeeRatio.ofDecimal? pool.feeFraction with
    | none => simp [Except.bind]
    | some fee => cases found : compute reserves fee <;> simp [Except.bind, found]

theorem sell_ok_iff (pool : Pool) (token : TokenId) (amount bought : Amount) :
    pool.sell token amount = .ok bought ↔
      (∃ reserves fee, pool.reservesFor? token = some reserves ∧
        FeeRatio.ofDecimal? pool.feeFraction = some fee ∧
          Hop.output reserves fee amount = .ok bought) ∧ bought ≠ 0 := by
  rw [sell, bind_ok_iff]
  constructor
  · rintro ⟨value, traded, kept⟩
    split at kept
    · cases kept
    · next nonzero =>
      cases kept
      exact ⟨(trade_ok_iff ..).mp traded, nonzero⟩
  · rintro ⟨traded, nonzero⟩
    exact ⟨bought, (trade_ok_iff ..).mpr traded, if_neg nonzero⟩

theorem buy_ok_iff (pool : Pool) (token : TokenId) (amount needed : Amount) :
    pool.buy token amount = .ok needed ↔
      ∃ reserves fee, pool.reservesFor? token = some reserves ∧
        FeeRatio.ofDecimal? pool.feeFraction = some fee ∧
          Hop.input reserves fee amount = .ok needed :=
  trade_ok_iff pool token _ needed

/-- What must be paid for an output is the least amount whose sale brings it. -/
theorem buy_le_iff_le_sell (pool : Pool) (token : TokenId) (paid wanted : Amount)
    (positive : 0 < wanted) :
    (∃ needed, pool.buy token wanted = .ok needed ∧ needed ≤ paid) ↔
      ∃ bought, pool.sell token paid = .ok bought ∧ wanted ≤ bought := by
  constructor
  · rintro ⟨needed, paidFor, within⟩
    obtain ⟨reserves, fee, held, taken, computed⟩ := (buy_ok_iff ..).mp paidFor
    have scaled := denominator_pos taken
    obtain ⟨bought, sold, covered⟩ :=
      (Hop.input_le_iff_le_output reserves fee paid wanted scaled positive).mp
        ⟨needed, computed, within⟩
    have nonzero := Nat.ne_of_gt (Nat.lt_of_lt_of_le positive covered)
    exact ⟨bought, (sell_ok_iff ..).mpr ⟨⟨reserves, fee, held, taken, sold⟩, nonzero⟩, covered⟩
  · rintro ⟨bought, sold, covered⟩
    obtain ⟨⟨reserves, fee, held, taken, computed⟩, _⟩ := (sell_ok_iff ..).mp sold
    have scaled := denominator_pos taken
    obtain ⟨needed, paidFor, within⟩ :=
      (Hop.input_le_iff_le_output reserves fee paid wanted scaled positive).mpr
        ⟨bought, computed, covered⟩
    exact ⟨needed, (buy_ok_iff ..).mpr ⟨reserves, fee, held, taken, paidFor⟩, within⟩

theorem buy_pos {pool : Pool} {token : TokenId} {wanted needed : Amount} (positive : 0 < wanted)
    (paid : pool.buy token wanted = .ok needed) : 0 < needed := by
  obtain ⟨reserves, fee, _, taken, computed⟩ := (buy_ok_iff ..).mp paid
  have scaled := denominator_pos taken
  exact Hop.input_pos scaled positive computed

end Pool

namespace Route

theorem forward_cons_iff (token : TokenId) (pool : Pool) (rest : List (TokenId × Pool))
    (paid : Amount) (outputs : List Amount) :
    forward paid ((token, pool) :: rest) = .ok outputs ↔
      ∃ brought after, pool.sell token paid = .ok brought ∧ forward brought rest = .ok after ∧
        outputs = brought :: after := by
  simp only [forward, bind_ok_iff, map_ok_iff]
  constructor
  · rintro ⟨brought, sold, after, goes, rfl⟩
    exact ⟨brought, after, sold, goes, rfl⟩
  · rintro ⟨brought, after, sold, goes, rfl⟩
    exact ⟨brought, sold, after, goes, rfl⟩

theorem backward_cons_iff (token : TokenId) (pool : Pool) (rest : List (TokenId × Pool))
    (wanted first : Amount) (later : List Amount) :
    backward wanted ((token, pool) :: rest) = .ok (first, later) ↔
      ∃ needed after, backward wanted rest = .ok (needed, after) ∧
        pool.buy token needed = .ok first ∧ later = needed :: after := by
  simp only [backward, bind_ok_iff, map_ok_iff, Prod.exists, Prod.mk.injEq]
  constructor
  · rintro ⟨needed, after, tail, paid, bought, rfl, rfl⟩
    exact ⟨needed, after, tail, bought, rfl⟩
  · rintro ⟨needed, after, tail, bought, rfl⟩
    exact ⟨needed, after, tail, first, bought, rfl, rfl⟩

section Steps
variable {β : Type} (token : TokenId) (pool : Pool)

theorem forward_step (amount : Amount) (rest : List (TokenId × Pool)) (change : List Amount → β) :
    (forward amount ((token, pool) :: rest)).map change =
      (pool.trade token fun reserves fee => Hop.output reserves fee amount).bind fun brought =>
        if brought = 0 then .error (.insufficientLiquidity pool.address)
        else (forward brought rest).map fun later => change (brought :: later) := by
  rw [forward, Pool.sell]
  cases pool.trade token fun reserves fee => Hop.output reserves fee amount with
  | error error => rfl
  | ok brought =>
    dsimp only [Except.bind]
    by_cases nothing : brought = 0
    · rw [if_pos nothing, if_pos nothing]
      rfl
    · rw [if_neg nothing, if_neg nothing]
      dsimp only
      cases forward brought rest <;> rfl

-- The last hop is the first to be computed.
theorem backward_last (amount : Amount) (hops : List (TokenId × Pool)) :
    backward amount (hops ++ [(token, pool)]) =
      (pool.buy token amount).bind fun needed =>
        (backward needed hops).map fun (first, later) => (first, later ++ [amount]) := by
  induction hops with
  | nil =>
    change (pool.buy token amount).map _ = _
    cases pool.buy token amount <;> rfl
  | cons hop rest ih =>
    obtain ⟨sold, seller⟩ := hop
    rw [List.cons_append, backward, ih]
    cases pool.buy token amount with
    | error error => rfl
    | ok needed =>
      dsimp only [Except.bind]
      rw [backward]
      cases backward needed rest with
      | error error => rfl
      | ok found =>
        dsimp only [Except.bind, Except.map]
        cases seller.buy sold found.1 <;> rfl

end Steps

-- Read by position: each hop sells the amount at its own place and buys the one after it.
theorem backward_steps {hops : List (TokenId × Pool)} {wanted first : Amount}
    {later : List Amount} (found : backward wanted hops = .ok (first, later)) :
    later.length = hops.length ∧
      ∀ (index : Nat) (token : TokenId) (pool : Pool), hops[index]? = some (token, pool) →
        ∃ paid brought, (first :: later)[index]? = some paid ∧ later[index]? = some brought ∧
          pool.buy token brought = .ok paid := by
  induction hops generalizing first later with
  | nil =>
    cases found
    exact ⟨rfl, fun index token pool placed => by cases placed⟩
  | cons hop rest ih =>
    obtain ⟨needed, after, tail, bought, rfl⟩ := (backward_cons_iff ..).mp found
    obtain ⟨counted, steps⟩ := ih tail
    refine ⟨by simp [counted], fun index token pool placed => ?_⟩
    cases index with
    | zero =>
      cases placed
      exact ⟨first, needed, rfl, rfl, bought⟩
    | succ index => exact steps index token pool placed

theorem backward_pos {hops : List (TokenId × Pool)} {wanted first : Amount} {later : List Amount}
    (positive : 0 < wanted) (found : backward wanted hops = .ok (first, later)) : 0 < first := by
  induction hops generalizing first later with
  | nil =>
    cases found
    exact positive
  | cons hop rest ih =>
    obtain ⟨needed, after, tail, bought, _⟩ := (backward_cons_iff ..).mp found
    exact Pool.buy_pos (ih tail) bought

theorem forward_pos {hops : List (TokenId × Pool)} {paid : Amount} {outputs : List Amount}
    (positive : 0 < paid) (found : forward paid hops = .ok outputs) :
    0 < outputs.getLast?.getD paid := by
  induction hops generalizing paid outputs with
  | nil =>
    cases found
    exact positive
  | cons hop rest ih =>
    obtain ⟨brought, after, sold, goes, rfl⟩ := (forward_cons_iff ..).mp found
    have kept := ((Pool.sell_ok_iff ..).mp sold).2
    simpa [List.getLast?_cons] using ih (Nat.pos_of_ne_zero kept) goes

theorem length_forward {hops : List (TokenId × Pool)} {paid : Amount} {outputs : List Amount}
    (found : forward paid hops = .ok outputs) : outputs.length = hops.length := by
  induction hops generalizing paid outputs with
  | nil =>
    cases found
    rfl
  | cons hop rest ih =>
    obtain ⟨brought, after, _, goes, rfl⟩ := (forward_cons_iff ..).mp found
    exact congrArg Nat.succ (ih goes)

theorem forward_amounts_pos {hops : List (TokenId × Pool)} {paid : Amount} {outputs : List Amount}
    (found : forward paid hops = .ok outputs) : ∀ amount ∈ outputs, 0 < amount := by
  induction hops generalizing paid outputs with
  | nil =>
    cases found
    simp
  | cons hop rest ih =>
    obtain ⟨brought, after, sold, goes, rfl⟩ := (forward_cons_iff ..).mp found
    have kept := ((Pool.sell_ok_iff ..).mp sold).2
    exact List.forall_mem_cons.mpr ⟨Nat.pos_of_ne_zero kept, ih goes⟩

theorem backward_amounts_pos {hops : List (TokenId × Pool)} {wanted first : Amount}
    {later : List Amount} (positive : 0 < wanted)
    (found : backward wanted hops = .ok (first, later)) :
    ∀ amount ∈ first :: later, 0 < amount := by
  induction hops generalizing first later with
  | nil =>
    cases found
    simpa using positive
  | cons hop rest ih =>
    obtain ⟨needed, after, tail, bought, rfl⟩ := (backward_cons_iff ..).mp found
    have behind := ih tail
    have paid := Pool.buy_pos (behind needed List.mem_cons_self) bought
    exact List.forall_mem_cons.mpr ⟨paid, behind⟩

-- The induction is on the hops that remain: the backward walk has bought all of them before it
-- comes to the first, the forward walk sells the first and goes on with what that brings.
theorem backward_le_iff_forward (hops : List (TokenId × Pool)) (paid wanted : Amount)
    (positive : 0 < wanted) :
    (∃ first later, backward wanted hops = .ok (first, later) ∧ first ≤ paid) ↔
      ∃ outputs, forward paid hops = .ok outputs ∧ wanted ≤ outputs.getLast?.getD paid := by
  induction hops generalizing paid with
  | nil => simp [backward, forward]
  | cons hop rest ih =>
    obtain ⟨token, pool⟩ := hop
    constructor
    · rintro ⟨first, later, found, within⟩
      obtain ⟨needed, after, tail, bought, _⟩ := (backward_cons_iff ..).mp found
      obtain ⟨brought, sold, enough⟩ :=
        (pool.buy_le_iff_le_sell token paid needed (backward_pos positive tail)).mp
          ⟨first, bought, within⟩
      obtain ⟨outputs, goes, covered⟩ := (ih brought).mp ⟨needed, after, tail, enough⟩
      refine ⟨brought :: outputs, ?_, by simpa [List.getLast?_cons] using covered⟩
      exact (forward_cons_iff ..).mpr ⟨brought, outputs, sold, goes, rfl⟩
    · rintro ⟨outputs, found, covered⟩
      obtain ⟨brought, outputs, sold, goes, rfl⟩ := (forward_cons_iff ..).mp found
      have covered : wanted ≤ outputs.getLast?.getD brought := by
        simpa [List.getLast?_cons] using covered
      obtain ⟨needed, after, tail, enough⟩ := (ih brought).mpr ⟨outputs, goes, covered⟩
      obtain ⟨first, bought, within⟩ :=
        (pool.buy_le_iff_le_sell token paid needed (backward_pos positive tail)).mpr
          ⟨brought, sold, enough⟩
      exact ⟨first, needed :: after, (backward_cons_iff ..).mpr ⟨needed, after, tail, bought, rfl⟩,
        within⟩

theorem simulate_ok_iff (route : Route) (direction : SwapDirection) (simulated : SimulatedRoute) :
    route.simulate direction = .ok simulated ↔
      route.validate = .ok () ∧ route.checkActive = .ok () ∧
        ∃ amounts, route.amounts direction = .ok amounts ∧ simulated = ⟨route, amounts⟩ := by
  rw [simulate, check_ok_iff, check_ok_iff, map_ok_iff]
  refine and_congr_right fun _ => and_congr_right fun _ => ?_
  exact exists_congr fun amounts => and_congr_right fun _ => eq_comm

theorem simulate_route {route : Route} {direction : SwapDirection} {simulated : SimulatedRoute}
    (found : route.simulate direction = .ok simulated) : simulated.route = route := by
  obtain ⟨_, _, amounts, _, rfl⟩ := (simulate_ok_iff ..).mp found
  rfl

theorem simulate_input_iff (route : Route) (paid : Amount) (simulated : SimulatedRoute) :
    route.simulate ⟨.fixedInput, paid⟩ = .ok simulated ↔
      route.validate = .ok () ∧ route.checkActive = .ok () ∧
        ∃ outputs, forward paid route.hops = .ok outputs ∧
          simulated = ⟨route, paid :: outputs⟩ := by
  rw [simulate_ok_iff]
  simp only [amounts, map_ok_iff]
  refine and_congr_right fun _ => and_congr_right fun _ => ?_
  constructor
  · rintro ⟨_, ⟨outputs, goes, rfl⟩, same⟩
    exact ⟨outputs, goes, same⟩
  · rintro ⟨outputs, goes, same⟩
    exact ⟨_, ⟨outputs, goes, rfl⟩, same⟩

theorem simulate_output_iff (route : Route) (wanted : Amount) (simulated : SimulatedRoute) :
    route.simulate ⟨.fixedOutput, wanted⟩ = .ok simulated ↔
      route.validate = .ok () ∧ route.checkActive = .ok () ∧
        ∃ first later, backward wanted route.hops = .ok (first, later) ∧
          simulated = ⟨route, first :: later⟩ := by
  rw [simulate_ok_iff]
  simp only [amounts, map_ok_iff, Prod.exists]
  refine and_congr_right fun _ => and_congr_right fun _ => ?_
  constructor
  · rintro ⟨_, ⟨first, later, found, rfl⟩, same⟩
    exact ⟨first, later, found, same⟩
  · rintro ⟨first, later, found, same⟩
    exact ⟨_, ⟨first, later, found, rfl⟩, same⟩

/-- A simulation that starts from something never comes to nothing. -/
theorem simulate_amounts_pos {route : Route} {direction : SwapDirection}
    {simulated : SimulatedRoute} (positive : 0 < direction.amount)
    (found : route.simulate direction = .ok simulated) :
    ∀ amount ∈ simulated.amounts, 0 < amount := by
  obtain ⟨type, amount⟩ := direction
  cases type with
  | fixedInput =>
    obtain ⟨_, _, outputs, goes, rfl⟩ := (simulate_input_iff ..).mp found
    exact List.forall_mem_cons.mpr ⟨positive, forward_amounts_pos goes⟩
  | fixedOutput =>
    obtain ⟨_, _, first, later, goes, rfl⟩ := (simulate_output_iff ..).mp found
    exact backward_amounts_pos positive goes

theorem length_hops {route : Route} (shaped : route.validate = .ok ()) :
    route.hops.length = route.pools.length := by
  have counted := joined_length ((validate_ok_iff route).mp shaped).2.1
  rw [hops, List.length_zip, counted]
  exact Nat.min_eq_right (Nat.le_succ _)

/-- There is one amount for each token. -/
theorem length_simulated {route : Route} {direction : SwapDirection} {simulated : SimulatedRoute}
    (found : route.simulate direction = .ok simulated) :
    simulated.amounts.length = route.pools.length + 1 := by
  obtain ⟨type, amount⟩ := direction
  cases type with
  | fixedInput =>
    obtain ⟨shaped, _, outputs, goes, rfl⟩ := (simulate_input_iff ..).mp found
    rw [List.length_cons, length_forward goes, length_hops shaped]
  | fixedOutput =>
    obtain ⟨shaped, _, first, later, goes, rfl⟩ := (simulate_output_iff ..).mp found
    rw [List.length_cons, (backward_steps goes).1, length_hops shaped]

/-- The adjunction of a whole route, whatever its shape, its pools and their fees. -/
theorem simulate_output_le_iff_input (route : Route) (paid wanted : Amount)
    (positive : 0 < wanted) :
    (∃ simulated, route.simulate ⟨.fixedOutput, wanted⟩ = .ok simulated ∧
        simulated.amountIn ≤ paid) ↔
      ∃ simulated, route.simulate ⟨.fixedInput, paid⟩ = .ok simulated ∧
        wanted ≤ simulated.amountOut := by
  constructor
  · rintro ⟨simulated, found, within⟩
    obtain ⟨shaped, active, first, later, bought, rfl⟩ := (simulate_output_iff ..).mp found
    obtain ⟨outputs, goes, covered⟩ :=
      (backward_le_iff_forward route.hops paid wanted positive).mp ⟨first, later, bought, within⟩
    refine ⟨⟨route, paid :: outputs⟩, ?_, ?_⟩
    · exact (simulate_input_iff ..).mpr ⟨shaped, active, outputs, goes, rfl⟩
    · simpa [SimulatedRoute.amountOut, List.getLast?_cons] using covered
  · rintro ⟨simulated, found, covered⟩
    obtain ⟨shaped, active, outputs, goes, rfl⟩ := (simulate_input_iff ..).mp found
    have covered : wanted ≤ outputs.getLast?.getD paid := by
      simpa [SimulatedRoute.amountOut, List.getLast?_cons] using covered
    obtain ⟨first, later, found, within⟩ :=
      (backward_le_iff_forward route.hops paid wanted positive).mpr ⟨outputs, goes, covered⟩
    exact ⟨⟨route, first :: later⟩,
      (simulate_output_iff ..).mpr ⟨shaped, active, first, later, found, rfl⟩, within⟩

end Route

/-! What can go wrong on the way. A hop refuses for one of three reasons, and a walk refuses when
one of its hops does. A hop is sound when its pool deals in the token sold to it and has a valid
fee; then only its liquidity can fail it. -/
section Failures

/-- Why a pool does not trade with one who sells it a token. -/
inductive Pool.Refuses (pool : Pool) (token : TokenId) : RouterError → Prop where
  | foreign (absent : pool.reservesFor? token = none) :
      pool.Refuses token (.invalidRoute (.notTraded pool.address token))
  | overcharged (invalid : FeeRatio.ofDecimal? pool.feeFraction = none) :
      pool.Refuses token (.dataIntegrity (.feeOutOfRange pool.address pool.feeFraction))
  | short : pool.Refuses token (.insufficientLiquidity pool.address)

/-- The pool takes the token and has a fee in range. -/
def SoundHop (hop : TokenId × Pool) : Prop :=
  (hop.2.reservesFor? hop.1).isSome = true ∧ (FeeRatio.ofDecimal? hop.2.feeFraction).isSome = true

theorem refuses_local {hop : TokenId × Pool} {error : RouterError} (sound : SoundHop hop)
    (refuses : hop.2.Refuses hop.1 error) : error.isRouteLocal = true := by
  cases refuses with
  | foreign absent => simp [SoundHop, absent] at sound
  | overcharged invalid => simp [SoundHop, invalid] at sound
  | short => rfl

theorem trade_refuses {pool : Pool} {token : TokenId}
    {compute : Reserves → FeeRatio → Except HopError Amount} {error : RouterError}
    (failed : pool.trade token compute = .error error) : pool.Refuses token error := by
  unfold Pool.trade Pool.orientedReserves Pool.feeRatio at failed
  cases held : pool.reservesFor? token with
  | none =>
    simp only [held] at failed
    cases failed
    exact .foreign held
  | some reserves =>
    cases taken : FeeRatio.ofDecimal? pool.feeFraction with
    | none =>
      simp only [held, taken] at failed
      cases failed
      exact .overcharged taken
    | some fee =>
      simp only [held, taken, Except.bind] at failed
      cases found : compute reserves fee with
      | ok amount => simp [found] at failed
      | error fault =>
        rw [found] at failed
        cases failed
        exact .short

theorem sell_refuses {pool : Pool} {token : TokenId} {amount : Amount} {error : RouterError}
    (failed : pool.sell token amount = .error error) : pool.Refuses token error := by
  rcases (bind_error_iff ..).mp failed with failed | ⟨bought, _, nothing⟩
  · exact trade_refuses failed
  · split at nothing
    · cases nothing
      exact .short
    · cases nothing

theorem forward_refuses {hops : List (TokenId × Pool)} {amount : Amount} {error : RouterError}
    (failed : Route.forward amount hops = .error error) :
    ∃ hop ∈ hops, hop.2.Refuses hop.1 error := by
  induction hops generalizing amount with
  | nil => cases failed
  | cons hop rest ih =>
    rcases (bind_error_iff ..).mp failed with failed | ⟨bought, _, failed⟩
    · exact ⟨hop, List.mem_cons_self, sell_refuses failed⟩
    · obtain ⟨later, member, refuses⟩ := ih ((map_error_iff ..).mp failed)
      exact ⟨later, List.mem_cons_of_mem hop member, refuses⟩

theorem backward_refuses {hops : List (TokenId × Pool)} {amount : Amount} {error : RouterError}
    (failed : Route.backward amount hops = .error error) :
    ∃ hop ∈ hops, hop.2.Refuses hop.1 error := by
  induction hops with
  | nil => cases failed
  | cons hop rest ih =>
    rcases (bind_error_iff ..).mp failed with failed | ⟨_, _, failed⟩
    · obtain ⟨later, member, refuses⟩ := ih failed
      exact ⟨later, List.mem_cons_of_mem hop member, refuses⟩
    · exact ⟨hop, List.mem_cons_self, trade_refuses ((map_error_iff ..).mp failed)⟩

theorem simulate_refuses {route : Route} {direction : SwapDirection} {error : RouterError}
    (shaped : route.validate = .ok ()) (failed : route.simulate direction = .error error) :
    (∃ pool, error = .poolInactive pool) ∨ ∃ hop ∈ route.hops, hop.2.Refuses hop.1 error := by
  rw [Route.simulate, shaped] at failed
  change (route.checkActive.bind _) = _ at failed
  rcases (bind_error_iff ..).mp failed with failed | ⟨_, _, failed⟩
  · unfold Route.checkActive at failed
    split at failed
    · cases failed
      exact .inl ⟨_, rfl⟩
    · cases failed
  · have failed := (map_error_iff ..).mp failed
    unfold Route.amounts at failed
    split at failed
    · exact .inr (forward_refuses ((map_error_iff ..).mp failed))
    · exact .inr (backward_refuses ((map_error_iff ..).mp failed))

theorem hops_held {tokens : List TokenId} {pools : List Pool} (joined : Joined tokens pools) :
    ∀ hop ∈ tokens.zip pools, (hop.2.reservesFor? hop.1).isSome = true := by
  induction joined with
  | arrived => simp
  | hop trades later ih =>
    obtain ⟨reserves, held, _⟩ := reserves_held trades
    exact List.forall_mem_cons.mpr ⟨Option.isSome_of_eq_some held, ih⟩

theorem simulate_error_local {route : Route} {direction : SwapDirection} {error : RouterError}
    (shaped : route.validate = .ok ())
    (charged : ∀ pool ∈ route.pools, (FeeRatio.ofDecimal? pool.feeFraction).isSome = true)
    (failed : route.simulate direction = .error error) : error.isRouteLocal = true := by
  have held := hops_held ((Route.validate_ok_iff route).mp shaped).2.1
  rcases simulate_refuses shaped failed with ⟨pool, rfl⟩ | ⟨hop, through, refuses⟩
  · rfl
  · have member := (List.of_mem_zip through).2
    exact refuses_local ⟨held hop through, charged hop.2 member⟩ refuses

end Failures
end PoolRouting
