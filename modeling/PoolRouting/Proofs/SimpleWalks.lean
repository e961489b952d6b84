import PoolRouting.Proofs.RouteSearch

/-!
Routes as walks along the edges of a graph. A walk that meets no token twice is a route, and the
admissible routes of a pool list are the routes of the simple walks in its graph.
-/

namespace PoolRouting

/-- Edges one behind the other, each leaving the token that the one before leads to. -/
inductive Walk (graph : LiquidityGraph) : TokenId → List Edge → Prop where
  | stay (token : TokenId) : Walk graph token []
  | move {token : TokenId} {edge : Edge} {edges : List Edge}
      (leaves : edge ∈ graph.leaving token) (later : Walk graph edge.target edges) :
      Walk graph token (edge :: edges)

/-- The tokens and pools that a walk meets. -/
def Route.along (source : TokenId) (edges : List Edge) : Route :=
  ⟨source :: edges.map Edge.target, edges.map Edge.pool⟩

/-- A walk between two tokens that repeats none and is neither empty nor too long. -/
structure SimpleWalk (graph : LiquidityGraph) (source target : TokenId) (maxHops : Nat)
    (edges : List Edge) : Prop where
  walk : Walk graph source edges
  ends : (source :: edges.map Edge.target).getLast? = some target
  simple : (source :: edges.map Edge.target).Nodup
  moves : 1 ≤ edges.length
  bounded : edges.length ≤ maxHops

section Pools
variable {pools : List Pool}

theorem joined_of_walk {token : TokenId} {edges : List Edge}
    (walk : Walk (LiquidityGraph.ofTrusted pools) token edges) :
    Joined (token :: edges.map Edge.target) (edges.map Edge.pool) ∧
      ∀ pool ∈ edges.map Edge.pool, pool ∈ pools ∧ pool.usable = true := by
  induction walk with
  | stay token => exact ⟨.arrived token, by simp⟩
  | @move token edge edges leaves later ih =>
    obtain ⟨joined, usable⟩ := ih
    obtain ⟨rfl, found, trades⟩ := (LiquidityGraph.mem_leaving_iff pools token edge).mp leaves
    exact ⟨.hop trades joined, List.forall_mem_cons.mpr ⟨found, usable⟩⟩

theorem walk_of_joined {source : TokenId} {tokens : List TokenId} {through : List Pool}
    (joined : Joined (source :: tokens) through)
    (usable : ∀ pool ∈ through, pool ∈ pools ∧ pool.usable = true) :
    ∃ edges, Walk (LiquidityGraph.ofTrusted pools) source edges ∧
      edges.map Edge.target = tokens ∧ edges.map Edge.pool = through := by
  induction through generalizing source tokens with
  | nil =>
    cases joined
    exact ⟨[], .stay source, rfl, rfl⟩
  | cons pool through ih =>
    cases joined with
    | @hop _ bought tokens _ _ trades later =>
      obtain ⟨first, others⟩ := List.forall_mem_cons.mp usable
      obtain ⟨edges, walk, rfl, rfl⟩ := ih later others
      refine ⟨⟨pool, source, bought⟩ :: edges, .move ?_ walk, rfl, rfl⟩
      exact (LiquidityGraph.mem_leaving_iff pools source _).mpr ⟨rfl, first, trades⟩

/-- Admissible over a pool list means simple in its graph. -/
theorem admissible_iff_walk (source target : TokenId) (maxHops : Nat) (route : Route) :
    Route.Admissible pools source target maxHops route ↔
      ∃ edges, SimpleWalk (LiquidityGraph.ofTrusted pools) source target maxHops edges ∧
        route = Route.along source edges := by
  constructor
  · intro admissible
    obtain ⟨tokens, through⟩ := route
    cases tokens with
    | nil => simpa using admissible.starts
    | cons first tokens =>
      obtain rfl : first = source := by simpa using admissible.starts
      have usable : ∀ pool ∈ through, pool ∈ pools ∧ pool.usable = true := fun pool member =>
        ⟨admissible.listed pool member,
          (usable_iff pool).mpr ⟨admissible.active pool member, admissible.filled pool member⟩⟩
      obtain ⟨edges, walk, rfl, rfl⟩ := walk_of_joined admissible.joined usable
      refine ⟨edges, ⟨walk, admissible.ends, admissible.simple, ?_, ?_⟩, rfl⟩
      · simpa using admissible.moves
      · simpa using admissible.bounded
  · rintro ⟨edges, ⟨walk, ends, simple, moves, bounded⟩, rfl⟩
    obtain ⟨joined, usable⟩ := joined_of_walk walk
    have parts := fun pool member => (usable_iff pool).mp (usable pool member).2
    exact
      { starts := rfl
        ends := ends
        simple := simple
        joined := joined
        moves := by simpa [Route.along] using moves
        bounded := by simpa [Route.along] using bounded
        listed := fun pool member => (usable pool member).1
        active := fun pool member => (parts pool member).1
        filled := fun pool member => (parts pool member).2 }

end Pools
end PoolRouting
