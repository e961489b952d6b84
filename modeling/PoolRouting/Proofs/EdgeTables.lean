import Mathlib.Data.List.Perm.Basic
import PoolRouting.Proofs.EdgeOrder
import PoolRouting.Proofs.MarketMatching

/-!
What the liquidity graph says of the pool list that it was made from. Every token has one edge for
each tradable pool that holds it; the edges lead to the other side, stand in strict order and have
their reverses; and the edges of all tokens together are the two directions through every tradable
pool.
-/

namespace PoolRouting

/-- The same pool the other way. -/
def Edge.reversed (edge : Edge) : Edge := ⟨edge.pool, edge.target, edge.source⟩

/-- The active pools of a list that hold something on both sides. -/
def tradable (pools : List Pool) : List Pool :=
  pools.filter fun pool => pool.state = .active ∧ pool.reserveA ≠ 0 ∧ pool.reserveB ≠ 0

theorem tradable_eq (pools : List Pool) : tradable pools = pools.filter Pool.usable := by
  apply List.filter_congr
  intro pool _
  rw [Bool.eq_iff_iff, decide_eq_true_eq, usable_iff]

/-! Dropping repetitions from a sorted list leaves a strictly sorted one. -/
section Repetitions
variable {α : Type} {before : α → α → Prop}

theorem strict_reverse_cons {seen : List α} (strict : seen.reverse.Pairwise before) {last : α}
    (ahead : ∀ item ∈ seen, before item last) : (last :: seen).reverse.Pairwise before := by
  rw [List.reverse_cons, List.pairwise_append]
  refine ⟨strict, List.pairwise_singleton _ _, ?_⟩
  intro item member other same
  rw [List.mem_singleton.mp same]
  exact ahead item (List.mem_reverse.mp member)

-- The induction is on what is still to be read; `seen` are the items kept so far, latest first.
theorem erase_reps_loop_strict [DecidableEq α]
    (chains : ∀ one two three, before one two → before two three → before one three)
    (first : α) (rest seen : List α)
    (sorted : (first :: rest).Pairwise fun left right => left = right ∨ before left right)
    (strict : seen.reverse.Pairwise before) (ahead : ∀ item ∈ seen, before item first) :
    (List.eraseRepsBy.loop (· == ·) first rest seen).Pairwise before := by
  induction rest generalizing first seen with
  | nil => exact strict_reverse_cons strict ahead
  | cons next rest ih =>
    obtain ⟨least, later⟩ := List.pairwise_cons.mp sorted
    by_cases same : first = next
    · subst same
      simpa [List.eraseRepsBy.loop] using ih first seen later strict ahead
    · have different : (first == next) = false := by simpa using same
      have step : before first next := (least next List.mem_cons_self).resolve_left same
      have reached : ∀ item ∈ first :: seen, before item next :=
        List.forall_mem_cons.mpr ⟨step, fun item member => chains _ _ _ (ahead item member) step⟩
      simpa only [List.eraseRepsBy.loop, different] using
        ih next (first :: seen) later (strict_reverse_cons strict ahead) reached

theorem sort_tokens_strict (tokens : List TokenId) :
    (sortTokens tokens).Pairwise fun left right => left.text < right.text := by
  have sorted : (tokens.mergeSort fun left right => (compare left right).isLE).Pairwise
      fun left right => left = right ∨ left.text < right.text := by
    refine (merge_sort_sorted compare tokens).imp ?_
    intro left right ordered
    rcases Ordering.isLE_iff_eq_lt_or_eq_eq.mp ordered with less | same
    · exact Or.inr ((compare_token_lt_iff left right).mp less)
    · exact Or.inl (Std.LawfulEqOrd.eq_of_compare same)
  unfold sortTokens
  generalize tokens.mergeSort _ = items at sorted
  cases items with
  | nil => exact .nil
  | cons first rest =>
    refine erase_reps_loop_strict ?_ first rest [] sorted .nil (by simp)
    intro one two three
    exact String.lt_trans

end Repetitions

section Grouping

-- The induction is on the tokens: the first takes its edges out of the list.
/-- Edges put together token by token are the edges of the list. -/
theorem grouped_perm {tokens : List TokenId} (distinct : tokens.Nodup) (edges : List Edge)
    (covered : ∀ edge ∈ edges, edge.source ∈ tokens) :
    (tokens.flatMap fun token => edges.filter fun edge => edge.source = token).Perm edges := by
  induction tokens generalizing edges with
  | nil =>
    have empty : edges = [] := List.eq_nil_iff_forall_not_mem.mpr fun edge member =>
      List.not_mem_nil (covered edge member)
    rw [empty]
    rfl
  | cons token rest ih =>
    obtain ⟨single, distinct⟩ := List.nodup_cons.mp distinct
    have others := ih distinct (edges.filter fun edge => !decide (edge.source = token)) (by
      intro edge member
      obtain ⟨listed, apart⟩ := List.mem_filter.mp member
      have apart : edge.source ≠ token := by simpa using apart
      exact (List.mem_cons.mp (covered edge listed)).resolve_left apart)
    have same : (rest.flatMap fun other => edges.filter fun edge => edge.source = other) =
        rest.flatMap fun other => (edges.filter fun edge => !decide (edge.source = token)).filter
          fun edge => edge.source = other := by
      apply List.flatMap_congr
      intro other member
      have apart : other ≠ token := fun same => single (same ▸ member)
      rw [List.filter_filter]
      apply List.filter_congr
      intro edge listed
      by_cases leaves : edge.source = other <;> simp [leaves, apart]
    rw [List.flatMap_cons, same]
    exact (others.append_left _).trans (List.filter_append_perm _ edges)

end Grouping

namespace LiquidityGraph

/-- The pools behind the edges of one token are the pools that hold it, in the order of the list. -/
theorem pools_of_edges {pools : List Pool} (apart : ∀ pool ∈ pools, pool.tokenA ≠ pool.tokenB)
    (token : TokenId) :
    ((pools.flatMap Pool.edges).filter fun edge => edge.source = token).map Edge.pool =
      pools.filter fun pool => pool.tokenA = token ∨ pool.tokenB = token := by
  induction pools with
  | nil => rfl
  | cons pool rest ih =>
    obtain ⟨sides, apart⟩ := List.forall_mem_cons.mp apart
    rw [List.flatMap_cons, List.filter_append, List.map_append, ih apart]
    by_cases holdsA : pool.tokenA = token
    · have other : pool.tokenB ≠ token := fun same => sides (holdsA.trans same.symm)
      simp [Pool.edges, holdsA, other]
    · by_cases holdsB : pool.tokenB = token <;> simp [Pool.edges, holdsA, holdsB]

theorem nodup_sort_tokens (tokens : List TokenId) : (sortTokens tokens).Nodup := by
  refine (sort_tokens_strict tokens).imp ?_
  rintro token _ less rfl
  exact String.lt_irrefl _ less

theorem edges_from_perm (pools : List Pool) (token : TokenId) :
    (edgesFrom pools token).Perm
      ((pools.flatMap Pool.edges).filter fun edge => edge.source = token) :=
  List.mergeSort_perm ..

/-- The tables of all tokens together hold both directions of every pool. -/
theorem tables_perm (pools : List Pool) :
    ((ofTrusted pools).adjacency.flatMap Prod.snd).Perm
      ((pools.filter Pool.usable).flatMap Pool.edges) := by
  unfold ofTrusted
  dsimp only
  generalize pools.filter Pool.usable = usable
  rw [List.flatMap_map]
  refine (List.Perm.flatMap_left _ fun token _ => edges_from_perm usable token).trans ?_
  apply grouped_perm (nodup_sort_tokens _)
  intro edge member
  obtain ⟨pool, listed, through⟩ := List.mem_flatMap.mp member
  have trades := ((mem_edges_iff pool edge).mp through).2
  exact (mem_named_iff usable edge.source).mpr ⟨pool, listed, trades.imp And.left And.left⟩

theorem length_edges (pools : List Pool) :
    (pools.flatMap Pool.edges).length = 2 * pools.length := by
  induction pools with
  | nil => rfl
  | cons pool rest ih =>
    rw [List.flatMap_cons, List.length_append, ih, List.length_cons, Nat.mul_succ, Nat.add_comm]
    rfl

/-- How a graph stands for a pool list. -/
structure Represents (graph : LiquidityGraph) (pools : List Pool) : Prop where
  /-- Every token has one edge for each tradable pool that holds it, and no other edge. -/
  passes : ∀ token, ((graph.leaving token).map Edge.pool).Perm
    ((tradable pools).filter fun pool => pool.tokenA = token ∨ pool.tokenB = token)
  /-- An edge leaves its token for the other, different token of its pool. -/
  joins : ∀ token, ∀ edge ∈ graph.leaving token,
    edge.source = token ∧ edge.pool.Trades token edge.target ∧ edge.target ≠ token
  /-- By target, edges to one target by the address of their pool; no two stand level. -/
  increasing : ∀ token,
    (graph.leaving token).Pairwise fun left right => StepBefore left.step right.step
  reverses : ∀ token, ∀ edge ∈ graph.leaving token, edge.reversed ∈ graph.leaving edge.target
  /-- The tables hold the edges of the tokens that have any, one table for each. -/
  tables : ∀ token edges, (token, edges) ∈ graph.adjacency ↔
    edges = graph.leaving token ∧ graph.isRoutable token = true
  single : (graph.adjacency.map Prod.fst).Nodup
  counted : graph.poolCount = (tradable pools).length
  total : (graph.adjacency.flatMap Prod.snd).length = 2 * graph.poolCount
  known : ∀ token, token ∈ graph.known ↔ Names pools token
  routable : ∀ token, graph.isRoutable token = true ↔ Names (tradable pools) token

section Represented
variable {pools : List Pool} {graph : LiquidityGraph}

theorem passes_of_pools (accepted : ofPools pools = .ok graph) (token : TokenId) :
    ((graph.leaving token).map Edge.pool).Perm
      ((tradable pools).filter fun pool => pool.tokenA = token ∨ pool.tokenB = token) := by
  have apart : ∀ pool ∈ pools.filter Pool.usable, pool.tokenA ≠ pool.tokenB := fun pool member =>
    (distinct_of_pools accepted).2 pool (List.mem_filter.mp member).1
  obtain rfl := ((of_pools_ok_iff pools graph).mp accepted).2
  rw [leaving_of_trusted, tradable_eq, ← pools_of_edges apart]
  exact (edges_from_perm _ token).map Edge.pool

theorem joins_of_pools (accepted : ofPools pools = .ok graph) (token : TokenId) :
    ∀ edge ∈ graph.leaving token,
      edge.source = token ∧ edge.pool.Trades token edge.target ∧ edge.target ≠ token := by
  have apart := (distinct_of_pools accepted).2
  obtain rfl := ((of_pools_ok_iff pools graph).mp accepted).2
  intro edge member
  obtain ⟨rfl, ⟨listed, _⟩, trades⟩ := (mem_leaving_iff pools token edge).mp member
  refine ⟨rfl, trades, ?_⟩
  intro same
  rcases trades with ⟨sold, bought⟩ | ⟨sold, bought⟩
  · exact apart edge.pool listed (sold.trans (same.symm.trans bought.symm))
  · exact apart edge.pool listed (bought.trans (same.trans sold.symm))

theorem reverses_of_trusted (pools : List Pool) (token : TokenId) :
    ∀ edge ∈ (ofTrusted pools).leaving token,
      edge.reversed ∈ (ofTrusted pools).leaving edge.target := by
  intro edge member
  obtain ⟨_, listed, trades⟩ := (mem_leaving_iff pools token edge).mp member
  exact (mem_leaving_iff pools _ _).mpr ⟨rfl, listed, trades.symm.imp And.symm And.symm⟩

theorem tables_of_trusted (pools : List Pool) (token : TokenId) (edges : List Edge) :
    (token, edges) ∈ (ofTrusted pools).adjacency ↔
      edges = (ofTrusted pools).leaving token ∧ (ofTrusted pools).isRoutable token = true := by
  rw [is_routable_iff_names, leaving_of_trusted, ofTrusted, List.mem_map]
  constructor
  · rintro ⟨source, member, same⟩
    cases same
    exact ⟨rfl, (mem_named_iff _ token).mp member⟩
  · rintro ⟨rfl, named⟩
    exact ⟨token, (mem_named_iff _ token).mpr named, rfl⟩

theorem single_of_trusted (pools : List Pool) :
    ((ofTrusted pools).adjacency.map Prod.fst).Nodup := by
  rw [ofTrusted, List.map_map]
  change ((sortTokens _).map id).Nodup
  rw [List.map_id]
  exact nodup_sort_tokens _

/-- An accepted list is represented by its graph. -/
theorem represents_pools (accepted : ofPools pools = .ok graph) : graph.Represents pools := by
  obtain ⟨_, same⟩ := (of_pools_ok_iff pools graph).mp accepted
  exact {
    passes := passes_of_pools accepted
    joins := joins_of_pools accepted
    increasing := leaving_increasing accepted
    reverses := by rw [same]; exact reverses_of_trusted pools
    tables := by rw [same]; exact tables_of_trusted pools
    single := by rw [same]; exact single_of_trusted pools
    counted := by rw [same, tradable_eq]; rfl
    total := by rw [same]; exact (tables_perm pools).length_eq.trans (length_edges _)
    known := by
      intro token
      rw [same, ← is_known_iff, isKnown, decide_eq_true_eq]
    routable := by rw [same, tradable_eq]; exact is_routable_iff_names pools }

end Represented
end LiquidityGraph

namespace Sample

/-- A token that only a paused pool holds. -/
def idle : TokenId := ⟨"IDLE-1111"⟩

/-- The small market behind a paused pool. -/
def partlyIdle : List Pool :=
  { pool "erd1idle" idle middle 5 5 with state := .paused } :: pools

end Sample

namespace LiquidityGraph

-- The paused pool makes its token known and gives no edge, not even to the token that trades.
theorem represents_pools_partly_idle :
    ∃ graph, ofPools Sample.partlyIdle = .ok graph ∧ graph.poolCount = 3 ∧
      (graph.adjacency.flatMap Prod.snd).length = 6 ∧ Sample.idle ∈ graph.known ∧
      graph.isRoutable Sample.idle = false ∧
      ((graph.leaving Sample.middle).map Edge.pool).Perm [Sample.first, Sample.second] := by
  obtain ⟨graph, accepted⟩ := (accepted_iff Sample.partlyIdle).mpr (by decide +kernel)
  have represents := represents_pools accepted
  have counted : graph.poolCount = 3 := represents.counted
  have known := (represents.known Sample.idle).mpr ⟨_, List.mem_cons_self, Or.inl rfl⟩
  have unroutable : ¬ graph.isRoutable Sample.idle = true := by
    rw [represents.routable]
    unfold Names
    decide
  refine ⟨graph, accepted, counted, ?_, known, by simpa using unroutable, ?_⟩
  · rw [represents.total, counted]
  · exact represents.passes Sample.middle

end LiquidityGraph
end PoolRouting
