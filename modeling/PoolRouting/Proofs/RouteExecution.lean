import PoolRouting.Proofs.QuoteChoice

/-!
Routes executed hop by hop. A pool that a route met twice would bring back a token, so the pools of
a valid route are different ones, and a trade leaves the records of all other hops as they were.
Hence trades that are priced by the records of the moment, and change them, come to the simulated
amounts or fail as the simulation does.
-/

namespace PoolRouting

/-- The record of a pool after a trade against it. -/
def Pool.traded (pool : Pool) (token : TokenId) (sold bought : Amount) : Pool :=
  if pool.tokenA = token then
    { pool with reserveA := pool.reserveA + sold, reserveB := pool.reserveB - bought }
  else
    { pool with reserveB := pool.reserveB + sold, reserveA := pool.reserveA - bought }

theorem address_traded (pool : Pool) (token : TokenId) (sold bought : Amount) :
    (pool.traded token sold bought).address = pool.address := by
  unfold Pool.traded
  split <;> rfl

/-- What is on record under each address. -/
abbrev Records := Address → Option Pool

namespace Records

/-- Of two pools under one address the first is on record. -/
def ofPools (pools : List Pool) : Records :=
  fun address => pools.find? fun pool => pool.address = address

def write (records : Records) (pool : Pool) : Records :=
  fun address => if address = pool.address then some pool else records address

def current (records : Records) (token : TokenId) (address : Address) : Except RouterError Pool :=
  match records address with
  | some pool => .ok pool
  | none => .error (.invalidRoute (.notTraded address token))

/-- A sale at the current record, with the records behind it. -/
def sell (records : Records) (token : TokenId) (address : Address) (amount : Amount) :
    Except RouterError (Amount × Records) :=
  (records.current token address).bind fun pool =>
    (pool.sell token amount).map fun bought =>
      (bought, records.write (pool.traded token amount bought))

/-- A purchase at the current record, with the records behind it. -/
def buy (records : Records) (token : TokenId) (address : Address) (amount : Amount) :
    Except RouterError (Amount × Records) :=
  (records.current token address).bind fun pool =>
    (pool.buy token amount).map fun paid =>
      (paid, records.write (pool.traded token paid amount))

/-- Sells from the first hop to the last what the hop before has brought. -/
def sellAll (records : Records) (amount : Amount) :
    List (TokenId × Address) → Except RouterError (List Amount × Records)
  | [] => .ok ([], records)
  | (token, address) :: rest =>
    (records.sell token address amount).bind fun (bought, records) =>
      (sellAll records bought rest).map fun (later, records) => (bought :: later, records)

/-- Buys from the last hop to the first what the hop behind needs. -/
def buyAll (records : Records) (amount : Amount) :
    List (TokenId × Address) → Except RouterError ((Amount × List Amount) × Records)
  | [] => .ok ((amount, []), records)
  | (token, address) :: rest =>
    (buyAll records amount rest).bind fun ((needed, later), records) =>
      (records.buy token address needed).map fun (first, records) =>
        ((first, needed :: later), records)

/-- Buys given amounts from the first hop to the last, and tells what was paid for each. -/
def buyEach (records : Records) :
    List (TokenId × Address) → List Amount → Except RouterError (List Amount × Records)
  | (token, address) :: rest, wanted :: later =>
    (records.buy token address wanted).bind fun (paid, records) =>
      (buyEach records rest later).map fun (payments, records) => (paid :: payments, records)
  | _, _ => .ok ([], records)

/-- The records once each hop has made its own trade against the pool as listed. -/
def settled (records : Records) : List (TokenId × Pool) → List Amount → Records
  | (token, pool) :: rest, sold :: bought :: later =>
    settled (records.write (pool.traded token sold bought)) rest (bought :: later)
  | _, _ => records

theorem write_here (records : Records) (pool : Pool) :
    records.write pool pool.address = some pool := if_pos rfl

theorem write_elsewhere (records : Records) {pool : Pool} {address : Address}
    (apart : address ≠ pool.address) : records.write pool address = records address := if_neg apart

theorem write_comm (records : Records) {one two : Pool} (apart : one.address ≠ two.address) :
    (records.write one).write two = (records.write two).write one := by
  funext address
  by_cases first : address = one.address
  · subst first
    rw [write_elsewhere _ apart, write_here, write_here]
  · by_cases second : address = two.address
    · subst second
      rw [write_here, write_elsewhere _ first, write_here]
    · simp [write_elsewhere, first, second]

end Records

/-- The hops of a call, which names its pools and knows no reserves. -/
def called (hops : List (TokenId × Pool)) : List (TokenId × Address) :=
  hops.map fun hop => (hop.1, hop.2.address)

/-- The addresses that hops go to. -/
def visited (hops : List (TokenId × Pool)) : List Address := hops.map fun hop => hop.2.address

/-- The pools of the hops are on record as they were listed. -/
def Recorded (records : Records) (hops : List (TokenId × Pool)) : Prop :=
  ∀ hop ∈ hops, records hop.2.address = some hop.2

theorem called_cons (token : TokenId) (pool : Pool) (rest : List (TokenId × Pool)) :
    called ((token, pool) :: rest) = (token, pool.address) :: called rest := rfl

section Hops
variable {records : Records} {hops : List (TokenId × Pool)}

theorem recorded_cons {token : TokenId} {pool : Pool}
    (recorded : Recorded records ((token, pool) :: hops)) :
    records pool.address = some pool ∧ Recorded records hops :=
  List.forall_mem_cons.mp recorded

theorem apart_cons {token : TokenId} {pool : Pool}
    (apart : (visited ((token, pool) :: hops)).Nodup) :
    pool.address ∉ visited hops ∧ (visited hops).Nodup :=
  List.nodup_cons.mp apart

theorem sell_recorded {pool : Pool} (found : records pool.address = some pool) (token : TokenId)
    (amount : Amount) :
    records.sell token pool.address amount =
      (pool.sell token amount).map fun bought =>
        (bought, records.write (pool.traded token amount bought)) := by
  rw [Records.sell, Records.current, found]
  rfl

theorem buy_recorded {pool : Pool} (found : records pool.address = some pool) (token : TokenId)
    (amount : Amount) :
    records.buy token pool.address amount =
      (pool.buy token amount).map fun paid =>
        (paid, records.write (pool.traded token paid amount)) := by
  rw [Records.buy, Records.current, found]
  rfl

theorem recorded_write {pool : Pool} (recorded : Recorded records hops)
    (apart : pool.address ∉ visited hops) : Recorded (records.write pool) hops := by
  intro hop member
  rw [Records.write_elsewhere, recorded hop member]
  intro same
  exact apart (same ▸ List.mem_map_of_mem member)

-- Both inductions are on the trades that are made: where hops or amounts end, nothing is written.
theorem settled_elsewhere {address : Address} (apart : address ∉ visited hops)
    (amounts : List Amount) : records.settled hops amounts address = records address := by
  fun_induction Records.settled records hops amounts with
  | case1 records token pool rest sold bought later ih =>
    obtain ⟨here, behind⟩ := List.ne_and_not_mem_of_not_mem_cons apart
    rw [ih behind, Records.write_elsewhere]
    rwa [address_traded]
  | case2 => rfl

/-- A hop that goes elsewhere may make its trade before or after. -/
theorem settled_write {pool : Pool} (apart : pool.address ∉ visited hops) (amounts : List Amount) :
    (records.write pool).settled hops amounts = (records.settled hops amounts).write pool := by
  fun_induction Records.settled records hops amounts with
  | case1 records token other rest sold bought later ih =>
    obtain ⟨here, behind⟩ := List.ne_and_not_mem_of_not_mem_cons apart
    rw [Records.settled, Records.write_comm, ih behind]
    rwa [address_traded]
  | case2 => simp [Records.settled]

theorem settled_at (apart : (visited hops).Nodup) {amounts : List Amount} {index : Nat}
    {token : TokenId} {pool : Pool} {sold bought : Amount}
    (placed : hops[index]? = some (token, pool)) (before : amounts[index]? = some sold)
    (after : amounts[index + 1]? = some bought) :
    records.settled hops amounts pool.address = some (pool.traded token sold bought) := by
  induction hops generalizing records amounts index with
  | nil => cases placed
  | cons hop rest ih =>
    obtain ⟨here, later⟩ := apart_cons apart
    match amounts, index with
    | _ :: _ :: _, 0 =>
      cases placed
      cases before
      cases after
      have written := Records.write_here records (pool.traded token sold bought)
      rw [address_traded] at written
      exact (settled_elsewhere here _).trans written
    | _ :: _ :: _, index + 1 => exact ih later placed before after
    | [_], _ => cases after
    | [], _ => cases after

-- The first trade changes only its own pool, which no later hop goes to.
theorem sell_all_recorded (apart : (visited hops).Nodup) (recorded : Recorded records hops)
    (amount : Amount) :
    records.sellAll amount (called hops) =
      (Route.forward amount hops).map fun later =>
        (later, records.settled hops (amount :: later)) := by
  induction hops generalizing records amount with
  | nil => rfl
  | cons hop rest ih =>
    obtain ⟨token, pool⟩ := hop
    obtain ⟨here, later⟩ := apart_cons apart
    obtain ⟨found, others⟩ := recorded_cons recorded
    rw [called_cons, Records.sellAll, sell_recorded found, Route.forward]
    cases pool.sell token amount with
    | error error => rfl
    | ok bought =>
      have kept : Recorded (records.write (pool.traded token amount bought)) rest := by
        apply recorded_write others
        rwa [address_traded]
      simp only [Except.map, Except.bind, ih later kept]
      cases Route.forward bought rest <;> rfl

-- The later trades come first here, and they leave the pool of the first hop alone.
theorem buy_all_recorded (apart : (visited hops).Nodup) (recorded : Recorded records hops)
    (amount : Amount) :
    records.buyAll amount (called hops) =
      (Route.backward amount hops).map fun (first, later) =>
        ((first, later), records.settled hops (first :: later)) := by
  induction hops with
  | nil => rfl
  | cons hop rest ih =>
    obtain ⟨token, pool⟩ := hop
    obtain ⟨here, later⟩ := apart_cons apart
    obtain ⟨found, others⟩ := recorded_cons recorded
    rw [called_cons, Records.buyAll, ih later others, Route.backward]
    cases Route.backward amount rest with
    | error error => rfl
    | ok tail =>
      have still := (settled_elsewhere here (tail.1 :: tail.2)).trans found
      simp only [Except.map, Except.bind, buy_recorded still]
      cases pool.buy token tail.1 with
      | error error => rfl
      | ok first =>
        have moved : (pool.traded token first tail.1).address ∉ visited rest := by
          rwa [address_traded]
        simp only [Records.settled, settled_write moved]

/-- In the order of the route, each simulated amount costs the one before it. -/
theorem buy_each_recorded (apart : (visited hops).Nodup) (recorded : Recorded records hops)
    {wanted first : Amount} {later : List Amount}
    (found : Route.backward wanted hops = .ok (first, later)) :
    records.buyEach (called hops) later =
      .ok ((first :: later).dropLast, records.settled hops (first :: later)) := by
  induction hops generalizing records first later with
  | nil =>
    cases found
    rfl
  | cons hop rest ih =>
    obtain ⟨token, pool⟩ := hop
    obtain ⟨here, behind⟩ := apart_cons apart
    obtain ⟨listed, others⟩ := recorded_cons recorded
    obtain ⟨needed, after, tail, bought, rfl⟩ := (Route.backward_cons_iff ..).mp found
    have kept : Recorded (records.write (pool.traded token first needed)) rest := by
      apply recorded_write others
      rwa [address_traded]
    rw [called_cons, Records.buyEach, buy_recorded listed, bought]
    simp only [Except.map, Except.bind, ih behind kept tail]
    rfl

end Hops

/-! The pools of a valid route. -/

theorem joined_at {tokens : List TokenId} {pools : List Pool} (joined : Joined tokens pools)
    {index : Nat} {pool : Pool} (placed : pools[index]? = some pool) :
    ∃ sold bought, tokens[index]? = some sold ∧ tokens[index + 1]? = some bought ∧
      pool.Trades sold bought := by
  induction joined generalizing index with
  | arrived => cases placed
  | hop trades later ih =>
    cases index with
    | zero =>
      cases placed
      exact ⟨_, _, rfl, rfl, trades⟩
    | succ index => exact ih placed

/-- A pool between tokens holds two of them. -/
theorem joined_tokens {tokens : List TokenId} {pools : List Pool} (joined : Joined tokens pools) :
    ∀ pool ∈ pools, pool.tokenA ∈ tokens ∧ pool.tokenB ∈ tokens := by
  induction joined with
  | arrived => simp
  | hop trades later ih =>
    rintro pool (_ | ⟨_, member⟩)
    · rcases trades with ⟨rfl, rfl⟩ | ⟨rfl, rfl⟩ <;> simp
    · exact (ih pool member).imp (List.mem_cons_of_mem _) (List.mem_cons_of_mem _)

theorem joined_pairs {tokens : List TokenId} {pools : List Pool} (joined : Joined tokens pools)
    (simple : tokens.Nodup) : ∀ pool ∈ pools, pool.tokenA ≠ pool.tokenB := by
  induction joined with
  | arrived => simp
  | hop trades later ih =>
    obtain ⟨left, simple⟩ := List.nodup_cons.mp simple
    rintro pool (_ | ⟨_, member⟩)
    · rcases trades with ⟨rfl, rfl⟩ | ⟨rfl, rfl⟩
      · exact List.ne_of_not_mem_cons left
      · exact (List.ne_of_not_mem_cons left).symm
    · exact ih simple pool member

-- The token sold at the first hop is left for good, so no later pool holds it.
theorem joined_apart {tokens : List TokenId} {pools : List Pool} (joined : Joined tokens pools)
    (simple : tokens.Nodup)
    (single : ∀ one ∈ pools, ∀ two ∈ pools, one.address = two.address → one = two) :
    (pools.map Pool.address).Nodup := by
  induction joined with
  | arrived => simp
  | @hop sold bought tokens pool pools trades later ih =>
    obtain ⟨left, simple⟩ := List.nodup_cons.mp simple
    apply List.nodup_cons.mpr
    constructor
    · intro again
      obtain ⟨other, member, same⟩ := List.mem_map.mp again
      obtain rfl := single other (List.mem_cons_of_mem _ member) pool List.mem_cons_self same
      obtain ⟨heldA, heldB⟩ := joined_tokens later other member
      rcases trades with ⟨rfl, _⟩ | ⟨rfl, _⟩
      · exact left heldA
      · exact left heldB
    · apply ih simple
      intro one first two second
      exact single one (List.mem_cons_of_mem _ first) two (List.mem_cons_of_mem _ second)

namespace Route

/-- Executes the trades of a route in the order in which they are simulated. -/
def execute (route : Route) (records : Records) (direction : SwapDirection) :
    Except RouterError (List Amount × Records) :=
  match direction.type with
  | .fixedInput =>
    (records.sellAll direction.amount (called route.hops)).map fun (later, records) =>
      (direction.amount :: later, records)
  | .fixedOutput =>
    (records.buyAll direction.amount (called route.hops)).map fun ((first, later), records) =>
      (first :: later, records)

/-- Each pool of the route has made its own trade, and nothing else has changed. -/
structure Settles (route : Route) (amounts : List Amount) (before after : Records) : Prop where
  traded : ∀ {index : Nat} {token : TokenId} {pool : Pool} {sold bought : Amount},
    route.tokens[index]? = some token → route.pools[index]? = some pool →
    amounts[index]? = some sold → amounts[index + 1]? = some bought →
    after pool.address = some (pool.traded token sold bought)
  elsewhere : ∀ {address : Address}, address ∉ route.addresses → after address = before address

theorem visited_hops {route : Route} (joined : Joined route.tokens route.pools) :
    visited route.hops = route.addresses := by
  have counted := joined_length joined
  have pools : route.hops.map Prod.snd = route.pools := List.map_snd_zip (by omega)
  rw [addresses, ← pools, List.map_map]
  rfl

theorem recorded_hops {route : Route} {records : Records}
    (recorded : ∀ pool ∈ route.pools, records pool.address = some pool) :
    Recorded records route.hops :=
  fun hop member => recorded hop.2 (List.of_mem_zip member).2

section Execution
variable {route : Route} {records : Records} {direction : SwapDirection}

theorem settles_of_apart (joined : Joined route.tokens route.pools) (apart : route.addresses.Nodup)
    (amounts : List Amount) :
    route.Settles amounts records (records.settled route.hops amounts) := by
  rw [← visited_hops joined] at apart
  constructor
  · intro index token pool sold bought named placed before after
    exact settled_at apart (List.getElem?_zip_eq_some.mpr ⟨named, placed⟩) before after
  · intro address elsewhere
    rw [← visited_hops joined] at elsewhere
    exact settled_elsewhere elsewhere amounts

theorem execute_recorded (apart : (visited route.hops).Nodup)
    (recorded : Recorded records route.hops) :
    route.execute records direction =
      (route.amounts direction).map fun amounts =>
        (amounts, records.settled route.hops amounts) := by
  obtain ⟨type, amount⟩ := direction
  cases type with
  | fixedInput =>
    simp only [execute, amounts, sell_all_recorded apart recorded]
    cases forward amount route.hops <;> rfl
  | fixedOutput =>
    simp only [execute, amounts, buy_all_recorded apart recorded]
    cases backward amount route.hops <;> rfl

theorem buy_each_amounts (apart : (visited route.hops).Nodup)
    (recorded : Recorded records route.hops) (wanted : direction.type = .fixedOutput)
    {amounts : List Amount} (computed : route.amounts direction = .ok amounts) :
    records.buyEach (called route.hops) amounts.tail =
      .ok (amounts.dropLast, records.settled route.hops amounts) := by
  rw [Route.amounts, wanted] at computed
  obtain ⟨⟨first, later⟩, found, rfl⟩ := (map_ok_iff ..).mp computed
  exact buy_each_recorded apart recorded found

/-- The shape is checked and found valid; what is left of a simulation is the execution. -/
theorem simulate_executes (valid : route.validate = .ok ()) (apart : (visited route.hops).Nodup)
    (recorded : Recorded records route.hops) :
    route.simulate direction =
      route.checkActive.bind fun _ =>
        (route.execute records direction).map fun executed => ⟨route, executed.1⟩ := by
  rw [simulate, valid, execute_recorded apart recorded]
  cases route.amounts direction <;> rfl

theorem simulate_not_invalid (valid : route.validate = .ok ()) (fault : RouteFault) :
    route.simulate direction ≠ .error (.invalidRoute fault) := by
  intro failed
  have held := hops_held ((validate_ok_iff route).mp valid).2.1
  rcases simulate_refuses valid failed with ⟨pool, inactive⟩ | ⟨hop, through, refuses⟩
  · cases inactive
  · cases refuses with
    | foreign absent => simpa [absent] using held hop through

end Execution

theorem recorded_of_pools {pools : List Pool}
    (single : ∀ one ∈ pools, ∀ two ∈ pools, one.address = two.address → one = two) :
    ∀ pool ∈ pools, Records.ofPools pools pool.address = some pool := by
  intro pool member
  cases found : Records.ofPools pools pool.address with
  | none => simpa using List.find?_eq_none.mp found pool member
  | some other =>
    have same : other.address = pool.address := by simpa using List.find?_some found
    rw [single other (List.mem_of_find?_eq_some found) pool member same]

/-- A valid route meets every pool once and from the right side, so that it can be simulated on the
pools as listed: executing its trades on records that change with each of them is the same. -/
theorem executes_as_simulated (route : Route) (valid : route.validate = .ok ())
    (single : ∀ one ∈ route.pools, ∀ two ∈ route.pools, one.address = two.address → one = two) :
    route.addresses.Nodup ∧
    (∀ pool ∈ route.pools, pool.tokenA ≠ pool.tokenB) ∧
    (∀ index pool, route.pools[index]? = some pool →
      ∃ sold bought reserves, route.tokens[index]? = some sold ∧
        route.tokens[index + 1]? = some bought ∧ pool.reservesFor? sold = some reserves ∧
        pool.Holds sold reserves.input ∧ pool.Holds bought reserves.output) ∧
    (∀ direction fault, route.simulate direction ≠ .error (.invalidRoute fault)) ∧
    (∀ pool ∈ route.pools, Records.ofPools route.pools pool.address = some pool) ∧
    ∀ records : Records, (∀ pool ∈ route.pools, records pool.address = some pool) →
      ∀ direction,
        route.simulate direction =
          (route.checkActive.bind fun _ =>
            (route.execute records direction).map fun executed => ⟨route, executed.1⟩) ∧
        ∀ simulated, route.simulate direction = .ok simulated →
          ∃ final, route.execute records direction = .ok (simulated.amounts, final) ∧
            route.Settles simulated.amounts records final ∧
            (direction.type = .fixedOutput →
              records.buyEach (called route.hops) simulated.amounts.tail =
                .ok (simulated.amounts.dropLast, final)) := by
  obtain ⟨_, joined, simple⟩ := (validate_ok_iff route).mp valid
  have once : route.addresses.Nodup := joined_apart joined simple single
  refine ⟨once, joined_pairs joined simple, ?_, fun _ => simulate_not_invalid valid,
    recorded_of_pools single, ?_⟩
  · intro index pool placed
    obtain ⟨sold, bought, before, after, trades⟩ := joined_at joined placed
    obtain ⟨reserves, held, input, output⟩ := reserves_held trades
    exact ⟨sold, bought, reserves, before, after, held, input, output⟩
  · intro records listed direction
    have recorded := recorded_hops listed
    have apart : (visited route.hops).Nodup := by rwa [visited_hops joined]
    refine ⟨simulate_executes valid apart recorded, fun simulated found => ?_⟩
    obtain ⟨_, _, amounts, computed, rfl⟩ := (simulate_ok_iff ..).mp found
    refine ⟨_, ?_, settles_of_apart joined once amounts, fun wanted => ?_⟩
    · rw [execute_recorded apart recorded, computed]
      rfl
    · exact buy_each_amounts apart recorded wanted computed

-- Both hops change their pools on the way to 80, and buying in the order of the route changes them
-- alike.
theorem executes_as_simulated_over_middle :
    ∃ final : Records,
      Sample.longRoute.execute (.ofPools Sample.longRoute.pools) ⟨.fixedOutput, 80⟩ =
        .ok ([1, 873, 80], final) ∧
      (Records.ofPools Sample.longRoute.pools).buyEach (called Sample.longRoute.hops) [873, 80] =
        .ok ([1, 873], final) ∧
      final Sample.second.address =
        some { Sample.second with reserveA := 10873, reserveB := 920 } := by
  have valid : Sample.longRoute.validate = .ok () := Sample.long_admissible.validate
  obtain ⟨_, _, _, _, listed, executes⟩ :=
    executes_as_simulated Sample.longRoute valid (by decide)
  obtain ⟨_, described⟩ := executes _ listed ⟨.fixedOutput, 80⟩
  obtain ⟨final, executed, settles, bought⟩ := described ⟨Sample.longRoute, [1, 873, 80]⟩ rfl
  refine ⟨final, executed, bought rfl, ?_⟩
  have sold : Sample.longRoute.tokens[1]? = some Sample.middle := rfl
  exact settles.traded sold rfl rfl rfl

end Route
end PoolRouting
