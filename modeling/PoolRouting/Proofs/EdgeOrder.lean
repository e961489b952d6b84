import Mathlib.Data.List.Nodup
import PoolRouting.Proofs.CandidateOrder
import PoolRouting.Proofs.LiquidityGraph

/-!
The edges that leave a token of an accepted graph stand in strict order: by the token they lead to,
then by the address of their pool. Sorting alone gives an order with ties; there are none because no
address is listed twice and no pool pairs a token with itself.
-/

namespace PoolRouting

instance : Std.TransCmp Edge.order :=
  inferInstanceAs (Std.TransCmp (compareLex (compareOn Edge.target)
    (compareOn fun edge => edge.pool.address)))

/-- One step of a way: the token it leads to and the address of the pool it passes. -/
def Edge.step (edge : Edge) : TokenId × Address := (edge.target, edge.pool.address)

/-- Steps by token, those to one token by address; texts are compared by code points. -/
def StepBefore (left right : TokenId × Address) : Prop :=
  left.1.text < right.1.text ∨ left.1 = right.1 ∧ left.2.text < right.2.text

theorem compare_token_lt_iff (left right : TokenId) :
    compare left right = .lt ↔ left.text < right.text :=
  compare_text_lt_iff left.text right.text

theorem compare_address_lt_iff (left right : Address) :
    compare left right = .lt ↔ left.text < right.text :=
  compare_text_lt_iff left.text right.text

theorem edge_order_lt_iff (left right : Edge) :
    Edge.order left right = .lt ↔ StepBefore left.step right.step := by
  rw [Edge.order, Ordering.then_eq_lt, compare_token_lt_iff, compare_address_lt_iff,
    Std.LawfulEqOrd.compare_eq_iff_eq]
  rfl

theorem edge_order_eq_iff (left right : Edge) :
    Edge.order left right = .eq ↔ left.step = right.step := by
  rw [Edge.order, Ordering.then_eq_eq, Std.LawfulEqOrd.compare_eq_iff_eq,
    Std.LawfulEqOrd.compare_eq_iff_eq, Edge.step, Edge.step, Prod.mk.injEq]

theorem step_before_irrefl (step : TokenId × Address) : ¬ StepBefore step step := by
  rintro (less | ⟨_, less⟩)
  · exact String.lt_irrefl _ less
  · exact String.lt_irrefl _ less

theorem merge_sort_sorted {α : Type} (order : α → α → Ordering) [Std.TransCmp order]
    (items : List α) :
    (items.mergeSort fun left right => (order left right).isLE).Pairwise
      fun left right => (order left right).isLE = true := by
  apply List.pairwise_mergeSort
  · intro first second third one two
    exact Std.TransCmp.isLE_trans one two
  · intro first second
    rw [Bool.or_eq_true]
    by_cases ahead : (order first second).isLE = true
    · exact Or.inl ahead
    · exact Or.inr (Ordering.isLE_of_eq_lt (Std.OrientedCmp.lt_of_not_isLE ahead))

theorem sort_edges_sorted (edges : List Edge) :
    (sortEdges edges).Pairwise fun left right => (Edge.order left right).isLE = true :=
  merge_sort_sorted Edge.order edges

theorem nodup_edges {pool : Pool} (sides : pool.tokenA ≠ pool.tokenB) : pool.edges.Nodup := by
  simp [Pool.edges, sides]

theorem nodup_all_edges {pools : List Pool} (distinct : pools.Nodup)
    (sides : ∀ pool ∈ pools, pool.tokenA ≠ pool.tokenB) : (pools.flatMap Pool.edges).Nodup := by
  rw [List.nodup_flatMap]
  refine ⟨fun pool listed => nodup_edges (sides pool listed), distinct.imp fun apart => ?_⟩
  intro edge one other
  exact apart (((mem_edges_iff _ edge).mp one).1.symm.trans ((mem_edges_iff _ edge).mp other).1)

namespace LiquidityGraph

/-- What an accepted pool list says of its records. -/
theorem distinct_of_pools {pools : List Pool} {graph : LiquidityGraph}
    (accepted : ofPools pools = .ok graph) :
    (pools.map Pool.address).Nodup ∧ ∀ pool ∈ pools, pool.tokenA ≠ pool.tokenB := by
  have trusted := ((of_pools_ok_iff pools graph).mp accepted).1
  obtain ⟨_, distinct, sound⟩ := (first_fault_none_iff [] pools).mp trusted
  exact ⟨distinct, fun pool listed => ((pool_fault_none_iff pool).mp (sound pool listed)).1⟩

theorem nodup_leaving {pools : List Pool} {graph : LiquidityGraph}
    (accepted : ofPools pools = .ok graph) (token : TokenId) : (graph.leaving token).Nodup := by
  obtain ⟨distinct, sides⟩ := distinct_of_pools accepted
  obtain rfl := ((of_pools_ok_iff pools graph).mp accepted).2
  rw [leaving_of_trusted, edgesFrom, sortEdges, (List.mergeSort_perm ..).nodup_iff]
  apply List.Nodup.filter
  apply nodup_all_edges
  · exact (List.Nodup.of_map _ distinct).filter _
  · intro pool listed
    exact sides pool (List.mem_filter.mp listed).1

/-- An edge is known by the token it leaves and its step. -/
theorem edge_of_step {pools : List Pool} {graph : LiquidityGraph}
    (accepted : ofPools pools = .ok graph) {token : TokenId} {left right : Edge}
    (one : left ∈ graph.leaving token) (other : right ∈ graph.leaving token)
    (same : left.step = right.step) : left = right := by
  obtain ⟨distinct, _⟩ := distinct_of_pools accepted
  obtain rfl := ((of_pools_ok_iff pools graph).mp accepted).2
  obtain ⟨leaves, ⟨listed, _⟩, _⟩ := (mem_leaving_iff pools token left).mp one
  obtain ⟨also, ⟨found, _⟩, _⟩ := (mem_leaving_iff pools token right).mp other
  obtain ⟨targets, addresses⟩ := Prod.mk.inj same
  have pool := List.inj_on_of_nodup_map distinct listed found addresses
  obtain ⟨leftPool, leftSource, leftTarget⟩ := left
  obtain ⟨rightPool, rightSource, rightTarget⟩ := right
  simp_all

theorem leaving_increasing {pools : List Pool} {graph : LiquidityGraph}
    (accepted : ofPools pools = .ok graph) (token : TokenId) :
    (graph.leaving token).Pairwise fun left right => StepBefore left.step right.step := by
  have sorted : (graph.leaving token).Pairwise fun left right =>
      (Edge.order left right).isLE = true := by
    obtain rfl := ((of_pools_ok_iff pools graph).mp accepted).2
    rw [leaving_of_trusted, edgesFrom]
    exact sort_edges_sorted _
  apply (sorted.and (nodup_leaving accepted token)).imp_of_mem
  intro left right one other ordered
  rw [← edge_order_lt_iff]
  rcases Ordering.isLE_iff_eq_lt_or_eq_eq.mp ordered.1 with before | level
  · exact before
  · exact (ordered.2 (edge_of_step accepted one other ((edge_order_eq_iff left right).mp level))).elim

end LiquidityGraph
end PoolRouting
