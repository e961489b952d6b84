import PoolRouting.Liquidity
import PoolRouting.Proofs.RouteShape

/-!
The liquidity graph of a trusted pool list, as a reader of the list sees it: the edges that leave a
token are the directions through usable pools that sell it, and a list is trusted exactly when no
address repeats and no record has a fault of its own.
-/

namespace PoolRouting

theorem mem_edges_iff (pool : Pool) (edge : Edge) :
    edge ∈ pool.edges ↔ edge.pool = pool ∧ pool.Trades edge.source edge.target := by
  obtain ⟨through, source, target⟩ := edge
  simp only [Pool.edges, Pool.Trades, List.mem_cons, List.not_mem_nil, or_false, Edge.mk.injEq]
  constructor
  · rintro (⟨rfl, rfl, rfl⟩ | ⟨rfl, rfl, rfl⟩)
    · exact ⟨rfl, Or.inl ⟨rfl, rfl⟩⟩
    · exact ⟨rfl, Or.inr ⟨rfl, rfl⟩⟩
  · rintro ⟨same, ⟨sold, bought⟩ | ⟨sold, bought⟩⟩
    · subst same
      exact Or.inl ⟨rfl, sold.symm, bought.symm⟩
    · subst same
      exact Or.inr ⟨rfl, sold.symm, bought.symm⟩

/-! Sorting and dropping repetitions keep the elements of a list. -/
section Sorting
variable {α : Type}

theorem mem_erase_reps_loop [DecidableEq α] (item first : α) (rest seen : List α) :
    item ∈ List.eraseRepsBy.loop (· == ·) first rest seen ↔
      item ∈ seen ∨ item = first ∨ item ∈ rest := by
  induction rest generalizing first seen with
  | nil => simp [List.eraseRepsBy.loop, or_comm]
  | cons next rest ih =>
    by_cases same : first = next
    · simp [List.eraseRepsBy.loop, same, ih]
    · have different : (first == next) = false := by simpa using same
      simp only [List.eraseRepsBy.loop, different, ih, List.mem_cons]
      rw [or_assoc, or_left_comm]

theorem mem_erase_reps [DecidableEq α] (item : α) (items : List α) :
    item ∈ items.eraseReps ↔ item ∈ items := by
  cases items with
  | nil => rfl
  | cons first rest =>
    simp [List.eraseReps, List.eraseRepsBy, mem_erase_reps_loop]

theorem mem_sort_tokens (token : TokenId) (tokens : List TokenId) :
    token ∈ sortTokens tokens ↔ token ∈ tokens := by
  rw [sortTokens, mem_erase_reps, List.mem_mergeSort]

theorem mem_sort_edges (edge : Edge) (edges : List Edge) :
    edge ∈ sortEdges edges ↔ edge ∈ edges := by
  rw [sortEdges, List.mem_mergeSort]

end Sorting

theorem lookup_tabulated {β : Type} (value : TokenId → β) (token : TokenId)
    (tokens : List TokenId) :
    (tokens.map fun key => (key, value key)).lookup token =
      if token ∈ tokens then some (value token) else none := by
  induction tokens with
  | nil => rfl
  | cons first rest ih =>
    by_cases same : token = first
    · simp [same]
    · have different : (token == first) = false := by simpa using same
      simp [List.lookup_cons, same, different, ih]

namespace LiquidityGraph

theorem mem_edges_from_iff (pools : List Pool) (token : TokenId) (edge : Edge) :
    edge ∈ edgesFrom pools token ↔
      edge.source = token ∧ edge.pool ∈ pools ∧ edge.pool.Trades edge.source edge.target := by
  rw [edgesFrom, mem_sort_edges, List.mem_filter, List.mem_flatMap]
  constructor
  · rintro ⟨⟨pool, listed, member⟩, leaves⟩
    obtain ⟨rfl, trades⟩ := (mem_edges_iff pool edge).mp member
    exact ⟨by simpa using leaves, listed, trades⟩
  · rintro ⟨leaves, listed, trades⟩
    have member := (mem_edges_iff edge.pool edge).mpr ⟨rfl, trades⟩
    exact ⟨⟨edge.pool, listed, member⟩, by simpa using leaves⟩

-- A token without an entry is a token without edges, so the table loses nothing.
theorem leaving_of_trusted (pools : List Pool) (token : TokenId) :
    (ofTrusted pools).leaving token = edgesFrom (pools.filter Pool.usable) token := by
  unfold leaving ofTrusted
  dsimp only
  rw [lookup_tabulated]
  split
  case isTrue => rfl
  case isFalse absent =>
    symm
    apply List.eq_nil_iff_forall_not_mem.mpr
    intro edge member
    obtain ⟨leaves, listed, trades⟩ := (mem_edges_from_iff _ token edge).mp member
    apply absent
    rw [mem_sort_tokens, List.mem_flatMap]
    refine ⟨edge.pool, listed, ?_⟩
    rcases trades with ⟨holds, _⟩ | ⟨holds, _⟩
    · simp [holds, leaves]
    · simp [holds, leaves]

/-- Edges that are listed in order stay as they are listed. -/
theorem leaving_of_sorted (pools : List Pool) (token : TokenId) (edges : List Edge)
    (listed : ((pools.filter Pool.usable).flatMap Pool.edges).filter
      (fun edge => edge.source = token) = edges)
    (sorted : edges.Pairwise fun left right => (Edge.order left right).isLE = true) :
    (ofTrusted pools).leaving token = edges := by
  rw [leaving_of_trusted, edgesFrom, listed, sortEdges, List.mergeSort_of_pairwise sorted]

theorem mem_leaving_iff (pools : List Pool) (token : TokenId) (edge : Edge) :
    edge ∈ (ofTrusted pools).leaving token ↔
      edge.source = token ∧ (edge.pool ∈ pools ∧ edge.pool.usable = true) ∧
        edge.pool.Trades edge.source edge.target := by
  rw [leaving_of_trusted, mem_edges_from_iff, List.mem_filter]

end LiquidityGraph

theorem usable_iff (pool : Pool) :
    pool.usable = true ↔ pool.state = .active ∧ pool.reserveA ≠ 0 ∧ pool.reserveB ≠ 0 := by
  simp [Pool.usable, Pool.isActive, Pool.hasLiquidity]

theorem pool_fault_none_iff (pool : Pool) :
    pool.fault? = none ↔
      pool.tokenA ≠ pool.tokenB ∧ (FeeRatio.ofDecimal? pool.feeFraction).isSome = true ∧
        (pool.totalSupply = 0 → pool.reserveA = 0 ∧ pool.reserveB = 0) := by
  unfold Pool.fault?
  by_cases paired : pool.tokenA = pool.tokenB
  · simp [paired]
  · cases FeeRatio.ofDecimal? pool.feeFraction with
    | none => simp [paired]
    | some ratio => simp [paired, Classical.or_iff_not_imp_left]

theorem first_fault_none_iff (seen : List Address) (pools : List Pool) :
    firstFault? seen pools = none ↔
      (∀ pool ∈ pools, pool.address ∉ seen) ∧ (pools.map Pool.address).Nodup ∧
        ∀ pool ∈ pools, pool.fault? = none := by
  induction pools generalizing seen with
  | nil => simp [firstFault?]
  | cons pool rest ih =>
    by_cases again : pool.address ∈ seen
    · simp [firstFault?, again]
    · rw [firstFault?, if_neg again, Option.or_eq_none_iff, ih, List.map_cons, List.nodup_cons,
        List.forall_mem_cons, List.forall_mem_cons]
      constructor
      · rintro ⟨own, apart, distinct, later⟩
        have single : pool.address ∉ rest.map Pool.address := by
          intro member
          obtain ⟨other, listed, same⟩ := List.mem_map.mp member
          exact apart other listed (List.mem_cons.mpr (Or.inl same))
        have unseen : ∀ other ∈ rest, other.address ∉ seen := fun other listed hit =>
          apart other listed (List.mem_cons_of_mem _ hit)
        exact ⟨⟨again, unseen⟩, ⟨single, distinct⟩, own, later⟩
      · rintro ⟨⟨_, unseen⟩, ⟨single, distinct⟩, own, later⟩
        refine ⟨own, ?_, distinct, later⟩
        intro other listed hit
        rcases List.mem_cons.mp hit with same | before
        · exact single (List.mem_map.mpr ⟨other, listed, same⟩)
        · exact unseen other listed before

namespace LiquidityGraph

theorem of_pools_ok_iff (pools : List Pool) (graph : LiquidityGraph) :
    ofPools pools = .ok graph ↔ firstFault? [] pools = none ∧ graph = ofTrusted pools := by
  unfold ofPools
  cases firstFault? [] pools <;> simp [eq_comm]

theorem of_pools_fails (pools : List Pool) :
    FailsAs RouterError.dataIntegrity (ofPools pools) := by
  intro error failed
  unfold ofPools at failed
  split at failed
  · cases failed
    exact ⟨_, rfl⟩
  · cases failed

theorem accepted_iff (pools : List Pool) :
    (∃ graph, ofPools pools = .ok graph) ↔ firstFault? [] pools = none := by
  constructor
  · rintro ⟨graph, accepted⟩
    exact ((of_pools_ok_iff pools graph).mp accepted).1
  · intro trusted
    exact ⟨_, (of_pools_ok_iff pools _).mpr ⟨trusted, rfl⟩⟩

theorem rejected_iff (pools : List Pool) :
    (∃ fault, ofPools pools = .error (.dataIntegrity fault)) ↔ firstFault? [] pools ≠ none := by
  unfold ofPools
  cases firstFault? [] pools <;> simp

/-- Every record of a trusted list is free of faults. -/
theorem fault_none_of_pools {pools : List Pool} {graph : LiquidityGraph}
    (accepted : ofPools pools = .ok graph) : ∀ pool ∈ pools, pool.fault? = none := by
  have trusted := ((of_pools_ok_iff pools graph).mp accepted).1
  exact ((first_fault_none_iff [] pools).mp trusted).2.2

end LiquidityGraph
end PoolRouting
