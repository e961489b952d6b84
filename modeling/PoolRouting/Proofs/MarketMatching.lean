import Mathlib.Data.List.Nodup
import PoolRouting.Proofs.PoolResemblance
import PoolRouting.Proofs.QuoteChoice

/-!
Two pool lists compared. Where every offer over one list has its match over the other, on pools at
the same places and with the same amounts, the two choices match as well: the order of offers leaves
no tie between different routes.
-/

namespace PoolRouting

/-- Some pool of the list names the token. -/
def Names (pools : List Pool) (token : TokenId) : Prop :=
  ∃ pool ∈ pools, pool.tokenA = token ∨ pool.tokenB = token

/-- The same pools at every other service of the ledger. -/
def Ledger.withPools (ledger : Ledger) (pools : List Pool) : Ledger :=
  { ledger with snapshot := { ledger.snapshot with pools := pools } }

/-- Where the pool service is down for both or for neither, both are refused or both list their
pools. -/
theorem Ledger.pools_matched (ledger other : Ledger) (outage : other.poolsDown = ledger.poolsDown) :
    Matches (fun pools others => pools = ledger.snapshot.pools ∧ others = other.snapshot.pools)
      (ledger.pools.mapError RouterError.provider) (other.pools.mapError RouterError.provider) := by
  unfold Ledger.pools Ledger.answer
  rw [outage]
  cases ledger.poolsDown with
  | some message => exact .refused _
  | none => exact .given ⟨rfl, rfl⟩

section Paired
variable {α β : Type} {relation : α → β → Prop}

theorem partner_of_paired {left : List α} {right : List β}
    (paired : List.Forall₂ relation left right) :
    ∀ item ∈ left, ∃ other ∈ right, relation item other := by
  induction paired with
  | nil => simp
  | @cons item other left right related _ ih =>
    intro wanted member
    rcases List.mem_cons.mp member with rfl | member
    · exact ⟨other, List.mem_cons_self, related⟩
    · obtain ⟨twin, listed, alike⟩ := ih wanted member
      exact ⟨twin, List.mem_cons_of_mem _ listed, alike⟩

theorem paired_of_members {items : List α} {kept : β → Prop}
    (found : ∀ item ∈ items, ∃ other, relation item other ∧ kept other) :
    ∃ others, List.Forall₂ relation items others ∧ ∀ other ∈ others, kept other := by
  induction items with
  | nil => exact ⟨[], .nil, by simp⟩
  | cons item rest ih =>
    obtain ⟨⟨other, related, keeps⟩, later⟩ := List.forall_mem_cons.mp found
    obtain ⟨others, paired, rests⟩ := ih later
    exact ⟨other :: others, .cons related paired, List.forall_mem_cons.mpr ⟨keeps, rests⟩⟩

end Paired

/-- Records of one list without a repeated address are told apart by their addresses. -/
theorem eq_of_addresses {pools chosen others : List Pool}
    (distinct : (pools.map Pool.address).Nodup)
    (listed : ∀ pool ∈ chosen, pool ∈ pools) (found : ∀ pool ∈ others, pool ∈ pools)
    (same : chosen.map Pool.address = others.map Pool.address) : chosen = others := by
  induction chosen generalizing others with
  | nil => exact (List.map_eq_nil_iff.mp same.symm).symm
  | cons pool rest ih =>
    cases others with
    | nil => cases same
    | cons other others =>
      obtain ⟨first, later⟩ := List.forall_mem_cons.mp listed
      obtain ⟨head, tail⟩ := List.forall_mem_cons.mp found
      injection same with address addresses
      rw [List.inj_on_of_nodup_map distinct first head address, ih later tail addresses]

namespace LiquidityGraph

theorem mem_named_iff (pools : List Pool) (token : TokenId) :
    token ∈ sortTokens (pools.flatMap fun pool => [pool.tokenA, pool.tokenB]) ↔
      Names pools token := by
  rw [mem_sort_tokens, List.mem_flatMap]
  refine exists_congr fun pool => and_congr_right fun _ => ?_
  simp [eq_comm]

theorem is_known_iff (pools : List Pool) (token : TokenId) :
    (ofTrusted pools).isKnown token = true ↔ Names pools token := by
  rw [isKnown, decide_eq_true_eq, ofTrusted, mem_named_iff]

theorem is_routable_iff (pools : List Pool) (token : TokenId) :
    (ofTrusted pools).isRoutable token = true ↔
      ∃ pool ∈ pools, pool.usable = true ∧ ∃ bought, pool.Trades token bought := by
  rw [isRoutable, Bool.not_eq_true', List.isEmpty_eq_false_iff]
  constructor
  · intro nonempty
    obtain ⟨edge, member⟩ := List.exists_mem_of_ne_nil _ nonempty
    obtain ⟨rfl, ⟨listed, usable⟩, trades⟩ := (mem_leaving_iff pools token edge).mp member
    exact ⟨edge.pool, listed, usable, edge.target, trades⟩
  · rintro ⟨pool, listed, usable, bought, trades⟩
    have member := (mem_leaving_iff pools token ⟨pool, token, bought⟩).mpr
      ⟨rfl, ⟨listed, usable⟩, trades⟩
    exact List.ne_nil_of_mem member

theorem is_routable_iff_names (pools : List Pool) (token : TokenId) :
    (ofTrusted pools).isRoutable token = true ↔ Names (pools.filter Pool.usable) token := by
  rw [is_routable_iff]
  constructor
  · rintro ⟨pool, listed, usable, bought, trades⟩
    refine ⟨pool, List.mem_filter.mpr ⟨listed, usable⟩, ?_⟩
    exact trades.imp And.left And.left
  · rintro ⟨pool, listed, holds⟩
    obtain ⟨listed, usable⟩ := List.mem_filter.mp listed
    rcases holds with holds | holds
    · exact ⟨pool, listed, usable, pool.tokenB, .inl ⟨holds, rfl⟩⟩
    · exact ⟨pool, listed, usable, pool.tokenA, .inr ⟨holds, rfl⟩⟩

theorem is_known_eq {left right : List Pool}
    (named : ∀ token, Names left token ↔ Names right token) (token : TokenId) :
    (ofTrusted left).isKnown token = (ofTrusted right).isKnown token := by
  rw [Bool.eq_iff_iff, is_known_iff, is_known_iff, named]

end LiquidityGraph

section Offers
variable {config : RouterConfig} {tokenIn tokenOut : TokenId} {left right : List Pool}
variable {direction : SwapDirection} {offered : SimulatedRoute}

theorem usable_of_admissible {source target : TokenId} {maxHops : Nat} {route : Route}
    (admissible : route.Admissible left source target maxHops) :
    ∀ pool ∈ route.pools, pool ∈ left ∧ pool.usable = true := by
  intro pool member
  have filled := admissible.filled pool member
  exact ⟨admissible.listed pool member,
    (usable_iff pool).mpr ⟨admissible.active pool member, filled⟩⟩

theorem admissible_through {source target : TokenId} {maxHops : Nat} {route : Route}
    {pools : List Pool} (admissible : route.Admissible left source target maxHops)
    (resembling : Resembling route.pools pools)
    (kept : ∀ pool ∈ pools, pool ∈ right ∧ pool.usable = true) :
    (route.through pools).Admissible right source target maxHops := by
  have works := fun pool member => (usable_iff pool).mp (kept pool member).2
  have counted := resembling.length_eq
  exact
    { starts := admissible.starts
      ends := admissible.ends
      simple := admissible.simple
      joined := joined_resembling admissible.joined resembling
      moves := counted ▸ admissible.moves
      bounded := counted ▸ admissible.bounded
      listed := fun pool member => (kept pool member).1
      active := fun pool member => (works pool member).1
      filled := fun pool member => (works pool member).2 }

theorem order_through (type : SwapType) {pools : List Pool}
    (resembling : Resembling offered.route.pools pools) (other : SimulatedRoute) :
    SimulatedRoute.order type (offered.through pools) other =
        SimulatedRoute.order type offered other ∧
      SimulatedRoute.order type other (offered.through pools) =
        SimulatedRoute.order type other offered := by
  have hops : (offered.through pools).hopCount = offered.hopCount := resembling.length_eq.symm
  have addresses : (offered.through pools).route.addresses = offered.route.addresses :=
    addresses_resembling resembling
  constructor
  · rw [SimulatedRoute.order, SimulatedRoute.order, hops, addresses]
    cases type <;> rfl
  · rw [SimulatedRoute.order, SimulatedRoute.order, hops, addresses]
    cases type <;> rfl

theorem offer_unique (distinct : (right.map Pool.address).Nodup) {other : SimulatedRoute}
    (offer : Offer config tokenIn tokenOut right direction offered)
    (rival : Offer config tokenIn tokenOut right direction other)
    (level : SimulatedRoute.order direction.type offered other = .eq) : offered = other := by
  obtain ⟨_, tokens, _, addresses⟩ := (SimulatedRoute.order_eq_iff ..).mp level
  have pools : offered.route.pools = other.route.pools :=
    eq_of_addresses distinct offer.admissible.listed rival.admissible.listed addresses
  have routes : offered.route = other.route := by
    cases first : offered.route
    cases second : other.route
    simp_all
  have simulated := offer.simulated
  rw [routes, rival.simulated] at simulated
  exact (Except.ok.inj simulated).symm

end Offers

namespace Quote
section Market
variable {config : RouterConfig} {inquiry : Inquiry} {left right : List Pool}
variable {first second : LiquidityGraph}

theorem market_matched (contracts : ContractsConfig) (inquiry : Inquiry)
    (acceptedLeft : LiquidityGraph.ofPools left = .ok first)
    (acceptedRight : LiquidityGraph.ofPools right = .ok second)
    (named : ∀ token, Names left token ↔ Names right token)
    (routable : ∀ token, (LiquidityGraph.ofTrusted left).isRoutable token =
      (LiquidityGraph.ofTrusted right).isRoutable token) :
    Matches (fun graph other => graph = first ∧ other = second) (market contracts inquiry left)
      (market contracts inquiry right) := by
  obtain ⟨_, rfl⟩ := (LiquidityGraph.of_pools_ok_iff ..).mp acceptedLeft
  obtain ⟨_, rfl⟩ := (LiquidityGraph.of_pools_ok_iff ..).mp acceptedRight
  have known := LiquidityGraph.is_known_eq named
  simp only [market, acceptedLeft, acceptedRight, Except.bind, known, routable]
  split
  · exact .refused _
  split
  · exact .refused _
  split
  · exact .refused _
  · exact .given ⟨rfl, rfl⟩

/-- Choices over two lists match when the offers do. -/
theorem best_route_matched (acceptedLeft : LiquidityGraph.ofPools left = .ok first)
    (acceptedRight : LiquidityGraph.ofPools right = .ok second) (direction : SwapDirection)
    {related : List Pool → List Pool → Prop}
    (resembling : ∀ pools others, related pools others → Resembling pools others)
    (forth : ∀ offered, Offer config inquiry.tokenIn inquiry.tokenOut left direction offered →
      ∃ pools, related offered.route.pools pools ∧
        Offer config inquiry.tokenIn inquiry.tokenOut right direction (offered.through pools))
    (back : ∀ offered, Offer config inquiry.tokenIn inquiry.tokenOut right direction offered →
      ∃ pools, Resembling offered.route.pools pools ∧
        Offer config inquiry.tokenIn inquiry.tokenOut left direction (offered.through pools)) :
    Matches (fun best other => ∃ pools, related best.route.pools pools ∧ other = best.through pools)
      (bestRoute config inquiry first direction) (bestRoute config inquiry second direction) := by
  have trusted := ((LiquidityGraph.of_pools_ok_iff ..).mp acceptedRight).1
  have distinct := ((first_fault_none_iff [] right).mp trusted).2.1
  rcases best_route_cases config inquiry acceptedLeft direction with
    ⟨best, found⟩ | ⟨unoffered, missing⟩
  · obtain ⟨offer, ahead⟩ := best_route_spec acceptedLeft found
    obtain ⟨pools, matched, mirror⟩ := forth best offer
    rcases best_route_cases config inquiry acceptedRight direction with
      ⟨other, chosen⟩ | ⟨unoffered, _⟩
    · obtain ⟨rival, leads⟩ := best_route_spec acceptedRight chosen
      obtain ⟨others, reflected, image⟩ := back other rival
      -- Each best offer is not behind the match of the other, so the two stand level.
      have before := ahead _ image
      have after := leads _ mirror
      rw [(order_through direction.type reflected best).2,
        ← (order_through direction.type (resembling _ _ matched) other).1] at before
      have level := Std.OrientedCmp.isLE_antisymm before after
      rw [found, chosen]
      exact .given ⟨pools, matched, (offer_unique distinct mirror rival level).symm⟩
    · exact (unoffered _ mirror).elim
  · rcases best_route_cases config inquiry acceptedRight direction with
      ⟨other, chosen⟩ | ⟨_, failed⟩
    · obtain ⟨_, _, image⟩ := back other (best_route_spec acceptedRight chosen).1
      exact (unoffered _ image).elim
    · rw [missing, failed]
      exact .refused _

end Market
end Quote
end PoolRouting
