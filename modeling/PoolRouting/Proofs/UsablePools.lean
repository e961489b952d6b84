import PoolRouting.Proofs.MarketMatching
import PoolRouting.Proofs.PoolMirrors

/-!
A quote depends only on the usable pools. The order of the pool list, the order of the sides of a
record and the pools that carry nothing leave no trace: every offer over one list has its mirror over
the other, and the order of offers leaves no tie between different routes.
-/

namespace PoolRouting

/-- The same records in some order, perhaps with their sides exchanged. -/
def Rearranged (left right : List Pool) : Prop :=
  ∃ middle, left.Perm middle ∧ Mirrored middle right

/-- Every usable pool of one list is in the other. -/
def Covers (left right : List Pool) : Prop :=
  ∀ pool ∈ left, pool.usable = true → ∃ other ∈ right, other.usable = true ∧ pool.Mirrors other

section Lists
variable {left right : List Pool}

theorem covers_of_rearranged
    (rearranged : Rearranged (left.filter Pool.usable) (right.filter Pool.usable)) :
    Covers left right ∧ Covers right left := by
  obtain ⟨middle, perm, mirrored⟩ := rearranged
  have back : Mirrored (right.filter Pool.usable) middle :=
    (mirrored.imp fun _ _ mirrors => mirrors.symm).flip
  constructor
  · intro pool member usable
    have kept := perm.mem_iff.mp (List.mem_filter.mpr ⟨member, usable⟩)
    obtain ⟨other, listed, mirrors⟩ := partner_of_paired mirrored pool kept
    exact ⟨other, (List.mem_filter.mp listed).1, (List.mem_filter.mp listed).2, mirrors⟩
  · intro pool member usable
    obtain ⟨other, listed, mirrors⟩ :=
      partner_of_paired back pool (List.mem_filter.mpr ⟨member, usable⟩)
    have kept := List.mem_filter.mp (perm.mem_iff.mpr listed)
    exact ⟨other, kept.1, kept.2, mirrors⟩

end Lists

namespace LiquidityGraph

theorem routable_of_covers {left right : List Pool} (covers : Covers left right) {token : TokenId}
    (routable : (ofTrusted left).isRoutable token = true) :
    (ofTrusted right).isRoutable token = true := by
  obtain ⟨pool, listed, usable, bought, trades⟩ := (is_routable_iff left token).mp routable
  obtain ⟨other, found, works, mirrors⟩ := covers pool listed usable
  refine (is_routable_iff right token).mpr ⟨other, found, works, bought, ?_⟩
  exact (mirrors.resembles.trades_iff token bought).mpr trades

end LiquidityGraph

section Offers
variable {config : RouterConfig} {tokenIn tokenOut : TokenId} {left right : List Pool}
variable {direction : SwapDirection} {offered : SimulatedRoute}

theorem offer_covered (sound : ∀ pool ∈ left, pool.fault? = none) (covers : Covers left right)
    (offer : Offer config tokenIn tokenOut left direction offered) :
    ∃ pools, Mirrored offered.route.pools pools ∧
      Offer config tokenIn tokenOut right direction (offered.through pools) := by
  obtain ⟨admissible, simulated⟩ := offer
  obtain ⟨pools, mirrored, kept⟩ : ∃ pools, Mirrored offered.route.pools pools ∧
      ∀ pool ∈ pools, pool ∈ right ∧ pool.usable = true := by
    apply paired_of_members
    intro pool member
    obtain ⟨listed, usable⟩ := usable_of_admissible admissible pool member
    obtain ⟨other, found, works, mirrors⟩ := covers pool listed usable
    exact ⟨other, mirrors, found, works⟩
  have apart : ∀ pool ∈ offered.route.pools, pool.tokenA ≠ pool.tokenB := fun pool member =>
    ((pool_fault_none_iff pool).mp (sound pool (admissible.listed pool member))).1
  refine ⟨pools, mirrored, admissible_through admissible mirrored.resembling kept, ?_⟩
  exact (simulate_through mirrored apart direction).trans (congrArg _ simulated)

end Offers

namespace Quote

/-- The same refusal, or quotes that differ at most in the sides of the pools on the route. -/
def Alike : Except RouterError Quote → Except RouterError Quote → Prop :=
  Matches fun quote other =>
    ∃ pools, Mirrored quote.route.route.pools pools ∧ other = quote.through pools

section Market
variable {config : RouterConfig} {inquiry : Inquiry} {left right : List Pool}
variable {first second : LiquidityGraph}

theorem best_route_covered (acceptedLeft : LiquidityGraph.ofPools left = .ok first)
    (acceptedRight : LiquidityGraph.ofPools right = .ok second) (forth : Covers left right)
    (back : Covers right left) (direction : SwapDirection) :
    Matches (fun best other => ∃ pools, Mirrored best.route.pools pools ∧ other = best.through pools)
      (bestRoute config inquiry first direction) (bestRoute config inquiry second direction) := by
  have soundLeft := LiquidityGraph.fault_none_of_pools acceptedLeft
  have soundRight := LiquidityGraph.fault_none_of_pools acceptedRight
  apply best_route_matched acceptedLeft acceptedRight direction
  case resembling => exact fun _ _ mirrored => mirrored.resembling
  case forth => exact fun offered offer => offer_covered soundLeft forth offer
  case back =>
    intro offered offer
    obtain ⟨pools, mirrored, image⟩ := offer_covered soundRight back offer
    exact ⟨pools, mirrored.resembling, image⟩

theorem assemble_covered (facts : PairFacts) (acceptedLeft : LiquidityGraph.ofPools left = .ok first)
    (acceptedRight : LiquidityGraph.ofPools right = .ok second) (forth : Covers left right)
    (back : Covers right left) :
    Alike (assemble config inquiry first facts) (assemble config inquiry second facts) := by
  refine bind_matches (best_route_covered acceptedLeft acceptedRight forth back _) ?_
  rintro best _ ⟨pools, mirrored, rfl⟩
  refine map_matches (matches_self (fun _ => rfl) (transferred _ best inquiry.tolerance)) ?_
  rintro amountIn _ rfl
  exact ⟨pools, mirrored, rfl⟩

theorem compute_covered (ledger : Ledger) (reads : Reads)
    (acceptedLeft : LiquidityGraph.ofPools left = .ok first)
    (acceptedRight : LiquidityGraph.ofPools right = .ok second)
    (named : ∀ token, Names left token ↔ Names right token) (forth : Covers left right)
    (back : Covers right left) :
    Alike ((compute config (ledger.withPools left) inquiry).answer reads)
      ((compute config (ledger.withPools right) inquiry).answer reads) := by
  have listed := Ledger.pools_matched (ledger.withPools left) (ledger.withPools right) rfl
  have routable : ∀ token, (LiquidityGraph.ofTrusted left).isRoutable token =
      (LiquidityGraph.ofTrusted right).isRoutable token := fun token =>
    Bool.eq_iff_iff.mpr ⟨LiquidityGraph.routable_of_covers forth,
      LiquidityGraph.routable_of_covers back⟩
  rw [compute_answer, compute_answer]
  refine bind_matches listed ?_
  rintro _ _ ⟨rfl, rfl⟩
  refine bind_matches
    (market_matched config.contracts inquiry acceptedLeft acceptedRight named routable) ?_
  rintro _ _ ⟨rfl, rfl⟩
  refine bind_matches (matches_self (fun _ => rfl) (pairFacts ledger _ _)) ?_
  rintro facts _ rfl
  exact assemble_covered facts acceptedLeft acceptedRight forth back

end Market
end Quote

theorem trusted_rearranged {left right : List Pool} (rearranged : Rearranged left right) :
    firstFault? [] left = none ↔ firstFault? [] right = none := by
  obtain ⟨middle, perm, mirrored⟩ := rearranged
  have addresses : (right.map Pool.address).Perm (left.map Pool.address) := by
    rw [mirrored.map_eq Pool.address fun _ => rfl]
    exact (perm.map Pool.address).symm
  have faults : (right.map Pool.fault?).Perm (left.map Pool.fault?) := by
    rw [mirrored.map_eq Pool.fault? Pool.fault_swapped]
    exact (perm.map Pool.fault?).symm
  have listed : ∀ pools : List Pool, (∀ pool ∈ pools, pool.fault? = none) ↔
      ∀ fault ∈ pools.map Pool.fault?, fault = none := by simp
  have sound : (∀ pool ∈ left, pool.fault? = none) ↔ ∀ pool ∈ right, pool.fault? = none := by
    rw [listed left, listed right]
    exact forall_congr' fun fault => imp_congr_left faults.mem_iff.symm
  rw [first_fault_none_iff, first_fault_none_iff, addresses.nodup_iff, sound]
  simp

namespace Quote

theorem alike_ok {quote : Quote} {answer : Except RouterError Quote}
    (alike : Alike (.ok quote) answer) :
    ∃ pools, Mirrored quote.route.route.pools pools ∧ answer = .ok (quote.through pools) := by
  cases alike with
  | given holds =>
    obtain ⟨pools, mirrored, rfl⟩ := holds
    exact ⟨pools, mirrored, rfl⟩

theorem transactions_of_alike {one two : Except RouterError Quote} (alike : Alike one two)
    {quote other : Quote} (quoted : one = .ok quote) (answered : two = .ok other)
    (builder : RouterConfig) (sender : Address) :
    quote.transactions builder sender = other.transactions builder sender := by
  rw [quoted] at alike
  obtain ⟨pools, mirrored, same⟩ := alike_ok alike
  cases answered.symm.trans same
  exact (transactions_resembling builder sender mirrored.resembling).symm

/-- Two trusted lists that name the same tokens and have the same usable pools give the same answers
and the same transactions; and no rearrangement makes a list trusted or takes its trust away. -/
theorem quotes_follow_usable_pools (config : RouterConfig) (ledger : Ledger)
    (left right : List Pool) :
    ((∃ graph, LiquidityGraph.ofPools left = .ok graph) →
      (∃ graph, LiquidityGraph.ofPools right = .ok graph) →
      (∀ token, Names left token ↔ Names right token) →
      Rearranged (left.filter Pool.usable) (right.filter Pool.usable) →
      ∀ inquiry reads,
        let one := (compute config (ledger.withPools left) inquiry).answer reads
        let two := (compute config (ledger.withPools right) inquiry).answer reads
        Alike one two ∧
          ∀ quote other, one = .ok quote → two = .ok other → ∀ builder sender,
            quote.transactions builder sender = other.transactions builder sender) ∧
    (Rearranged left right →
      ((∃ graph, LiquidityGraph.ofPools left = .ok graph) ↔
        ∃ graph, LiquidityGraph.ofPools right = .ok graph) ∧
      ((∃ fault, LiquidityGraph.ofPools left = .error (.dataIntegrity fault)) ↔
        ∃ fault, LiquidityGraph.ofPools right = .error (.dataIntegrity fault))) := by
  constructor
  · rintro ⟨first, acceptedLeft⟩ ⟨second, acceptedRight⟩ named rearranged inquiry reads one two
    obtain ⟨forth, back⟩ := covers_of_rearranged rearranged
    have alike : Alike one two :=
      compute_covered ledger reads acceptedLeft acceptedRight named forth back
    refine ⟨alike, fun quote other quoted answered builder sender => ?_⟩
    exact transactions_of_alike alike quoted answered builder sender
  · intro rearranged
    have trusted := trusted_rearranged rearranged
    rw [LiquidityGraph.accepted_iff, LiquidityGraph.accepted_iff, LiquidityGraph.rejected_iff,
      LiquidityGraph.rejected_iff]
    exact ⟨trusted, not_congr trusted⟩

end Quote

namespace Sample

/-- The small market in another order, with a pool that trades nothing. -/
def rearranged : List Pool :=
  [direct.swapped, { direct with address := ⟨"erd1idle"⟩, state := .paused }, first, second.swapped]

end Sample

namespace Quote

theorem quotes_follow_usable_pools_sample :
    Rearranged (Sample.pools.filter Pool.usable) (Sample.rearranged.filter Pool.usable) ∧
      ∃ quote pools, Mirrored quote.route.route.pools pools ∧
        (compute .default (Sample.ledger.withPools Sample.pools)
          (Sample.inquiry ⟨.fixedOutput, 80⟩)).answer .zero = .ok quote ∧
        (compute .default (Sample.ledger.withPools Sample.rearranged)
          (Sample.inquiry ⟨.fixedOutput, 80⟩)).answer .zero = .ok (quote.through pools) ∧
        ∃ fault, LiquidityGraph.ofPools [Sample.direct.swapped, Sample.direct] =
          .error (.dataIntegrity fault) := by
  have same : Rearranged (Sample.pools.filter Pool.usable)
      (Sample.rearranged.filter Pool.usable) :=
    ⟨[Sample.direct, Sample.first, Sample.second], by decide +kernel,
      .cons .swapped (.cons .same (.cons .swapped .nil))⟩
  have accepted : ∃ graph, LiquidityGraph.ofPools Sample.rearranged = .ok graph :=
    (LiquidityGraph.accepted_iff _).mpr (by decide +kernel)
  have named : ∀ token, Names Sample.pools token ↔ Names Sample.rearranged token := by
    intro token
    simp only [Names, Sample.pools, Sample.rearranged, List.mem_cons, List.not_mem_nil, or_false,
      exists_eq_or_imp, exists_eq_left, Pool.swapped]
    tauto
  have alike := ((quotes_follow_usable_pools .default Sample.ledger Sample.pools
    Sample.rearranged).1 ⟨_, Sample.ready.accepted⟩ accepted named same
    (Sample.inquiry ⟨.fixedOutput, 80⟩) .zero).1
  have quoted : (compute .default (Sample.ledger.withPools Sample.pools)
      (Sample.inquiry ⟨.fixedOutput, 80⟩)).answer .zero =
        .ok (Sample.quote 80 1 [1, 873, 80]) := Sample.quoted 80 1 _ rfl rfl
  rw [quoted] at alike
  obtain ⟨pools, mirrored, answered⟩ := alike_ok alike
  have twice : Rearranged [Sample.direct, Sample.direct] [Sample.direct.swapped, Sample.direct] :=
    ⟨_, .refl _, .cons .swapped (.cons .same .nil)⟩
  have rejected := ((quotes_follow_usable_pools .default Sample.ledger _ _).2 twice).2.mp
    ⟨.repeated Sample.direct.address, rfl⟩
  exact ⟨same, _, pools, mirrored, quoted, answered, rejected⟩

end Quote
end PoolRouting
