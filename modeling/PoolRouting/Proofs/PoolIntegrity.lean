import PoolRouting.Proofs.DecimalValue
import PoolRouting.Proofs.QuoteChoice

/-!
When a pool list is refused as a whole: an address is listed twice, or a record pairs a token with
itself, has a fee outside `[0, 1)`, or holds reserves that no supply stands for. One filled side is
enough for the last; a pool with an empty side and an empty supply is not passed over.
-/

namespace PoolRouting

/-- The contradictions of a pool list. Which reserves contradict an empty supply is left open. -/
def Contradictory (unbacked : Pool → Prop) (pools : List Pool) : Prop :=
  ¬ (pools.map Pool.address).Nodup ∨
    ∃ pool ∈ pools, pool.tokenA = pool.tokenB ∨
      ¬ (0 ≤ pool.feeFraction.value ∧ pool.feeFraction.value < 1) ∨
      pool.totalSupply = 0 ∧ unbacked pool

namespace Pool

/-- Some side holds something. -/
def HoldsAny (pool : Pool) : Prop := pool.reserveA ≠ 0 ∨ pool.reserveB ≠ 0

/-- Each side holds something. -/
def HoldsBoth (pool : Pool) : Prop := pool.reserveA ≠ 0 ∧ pool.reserveB ≠ 0

instance : DecidablePred HoldsBoth := fun _ => inferInstanceAs (Decidable (_ ∧ _))

theorem faulty_iff (pool : Pool) :
    pool.fault? ≠ none ↔ pool.tokenA = pool.tokenB ∨
      ¬ (0 ≤ pool.feeFraction.value ∧ pool.feeFraction.value < 1) ∨
      pool.totalSupply = 0 ∧ pool.HoldsAny := by
  rw [Ne, pool_fault_none_iff, fee_taken_iff, HoldsAny]
  tauto

end Pool

theorem contradictory_iff (pools : List Pool) :
    firstFault? [] pools ≠ none ↔ Contradictory Pool.HoldsAny pools := by
  have unseen : ∀ pool ∈ pools, pool.address ∉ ([] : List Address) := fun _ _ => List.not_mem_nil
  simp only [Ne, first_fault_none_iff, Contradictory, ← Pool.faulty_iff]
  rw [and_iff_right unseen, Classical.not_and_iff_not_or_not]
  simp only [not_forall, exists_prop]

-- The two conditions part only where an empty supply meets exactly one filled side.
theorem contradictory_both_iff {pools : List Pool}
    (level : ∀ pool ∈ pools, pool.totalSupply = 0 → (pool.reserveA = 0 ↔ pool.reserveB = 0)) :
    Contradictory Pool.HoldsAny pools ↔ Contradictory Pool.HoldsBoth pools := by
  refine or_congr_right (exists_congr fun pool => and_congr_right fun listed => ?_)
  refine or_congr_right (or_congr_right (and_congr_right fun unsupplied => ?_))
  have sides := level pool listed unsupplied
  rw [Pool.HoldsAny, Pool.HoldsBoth]
  tauto

namespace LiquidityGraph

theorem trusted_filter (keep : Pool → Bool) {pools : List Pool}
    (trusted : firstFault? [] pools = none) : firstFault? [] (pools.filter keep) = none := by
  obtain ⟨unseen, distinct, sound⟩ := (first_fault_none_iff [] pools).mp trusted
  have listed : ∀ pool ∈ pools.filter keep, pool ∈ pools := fun pool member =>
    (List.mem_filter.mp member).1
  refine (first_fault_none_iff [] _).mpr ⟨fun pool member => unseen pool (listed pool member), ?_,
    fun pool member => sound pool (listed pool member)⟩
  exact List.Nodup.sublist ((List.filter_sublist).map Pool.address) distinct

/-- In an accepted list the pools with an empty side might as well be missing. -/
theorem accepted_without_empty {pools : List Pool} {graph : LiquidityGraph}
    (accepted : ofPools pools = .ok graph) :
    ∃ filled, ofPools (pools.filter fun pool => pool.HoldsBoth) = .ok filled ∧
      filled.adjacency = graph.adjacency ∧ filled.poolCount = graph.poolCount := by
  obtain ⟨trusted, rfl⟩ := (of_pools_ok_iff pools graph).mp accepted
  have same : (pools.filter fun pool => pool.HoldsBoth).filter Pool.usable =
      pools.filter Pool.usable := by
    rw [List.filter_filter]
    apply List.filter_congr
    intro pool _
    rw [Bool.eq_iff_iff, Bool.and_eq_true, decide_eq_true_eq, usable_iff, Pool.HoldsBoth]
    tauto
  refine ⟨_, (of_pools_ok_iff _ _).mpr ⟨trusted_filter _ trusted, rfl⟩, ?_, ?_⟩
  · simp only [ofTrusted, same]
  · simp only [poolCount, ofTrusted, same]

/-- A list is refused exactly for its contradictions, and always as untrustworthy data; in a list
that is not refused the pools with an empty side leave no trace. -/
theorem refused_exactly (pools : List Pool) :
    (∀ error, ofPools pools = .error error → ∃ fault, error = .dataIntegrity fault) ∧
    ((∃ error, ofPools pools = .error error) ↔ Contradictory Pool.HoldsAny pools) ∧
    ((∀ pool ∈ pools, pool.totalSupply = 0 → (pool.reserveA = 0 ↔ pool.reserveB = 0)) →
      ((∃ error, ofPools pools = .error error) ↔ Contradictory Pool.HoldsBoth pools)) ∧
    ∀ graph, ofPools pools = .ok graph →
      ∃ filled, ofPools (pools.filter fun pool => pool.HoldsBoth) = .ok filled ∧
        filled.adjacency = graph.adjacency ∧ filled.poolCount = graph.poolCount := by
  have refused : (∃ error, ofPools pools = .error error) ↔ Contradictory Pool.HoldsAny pools := by
    rw [← contradictory_iff, ← rejected_iff]
    constructor
    · rintro ⟨error, failed⟩
      obtain ⟨fault, rfl⟩ := of_pools_fails pools error failed
      exact ⟨fault, failed⟩
    · rintro ⟨fault, failed⟩
      exact ⟨_, failed⟩
  refine ⟨of_pools_fails pools, refused, ?_, fun graph => accepted_without_empty⟩
  intro level
  exact refused.trans (contradictory_both_iff level)

end LiquidityGraph

namespace Sample

/-- A pool with a supply and an empty side. -/
def emptied : Pool := pool "erd1emptied" usdc middle 7 0

/-- The direct pool as if nothing stood for its reserves. -/
def unsupplied : Pool := { direct with totalSupply := 0 }

/-- A pool that nobody has a share in, with something left on one side. -/
def stranded : Pool := { emptied with totalSupply := 0 }

end Sample

namespace LiquidityGraph

theorem refused_exactly_unsupplied :
    (∀ pool ∈ [Sample.first, Sample.unsupplied],
      pool.totalSupply = 0 → (pool.reserveA = 0 ↔ pool.reserveB = 0)) ∧
    (∃ error, ofPools [Sample.first, Sample.unsupplied] = .error error) ∧
    ∃ graph filled, ofPools [Sample.first, Sample.emptied] = .ok graph ∧
      ofPools [Sample.first] = .ok filled ∧ filled.adjacency = graph.adjacency := by
  have level : ∀ pool ∈ [Sample.first, Sample.unsupplied],
      pool.totalSupply = 0 → (pool.reserveA = 0 ↔ pool.reserveB = 0) := by decide
  have held : Contradictory Pool.HoldsBoth [Sample.first, Sample.unsupplied] := by
    refine Or.inr ⟨Sample.unsupplied, by decide, Or.inr (Or.inr ⟨rfl, ?_⟩)⟩
    exact ⟨by decide, by decide⟩
  obtain ⟨_, _, refused, _⟩ := refused_exactly [Sample.first, Sample.unsupplied]
  obtain ⟨graph, accepted⟩ := (accepted_iff [Sample.first, Sample.emptied]).mpr (by decide +kernel)
  obtain ⟨_, _, _, without⟩ := refused_exactly [Sample.first, Sample.emptied]
  obtain ⟨filled, kept, same, _⟩ := without graph accepted
  exact ⟨level, (refused level).mpr held, graph, filled, accepted, kept, same⟩

/-- Reserves on one side alone, with no supply behind them, spoil the list. -/
theorem stranded_pool_refused :
    ¬ Contradictory Pool.HoldsBoth [Sample.stranded] ∧
      ofPools [Sample.stranded] =
        .error (.dataIntegrity (.reservesWithoutSupply Sample.stranded.address)) := by
  refine ⟨?_, rfl⟩
  rintro (repeated | ⟨pool, listed, contradicts⟩)
  · exact repeated (by decide)
  · obtain rfl := List.mem_singleton.mp listed
    rcases contradicts with paired | outside | ⟨_, _, held⟩
    · exact absurd paired (by decide)
    · exact outside ((fee_taken_iff _).mp rfl)
    · exact held rfl

end LiquidityGraph
end PoolRouting
