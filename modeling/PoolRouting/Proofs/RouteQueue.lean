import PoolRouting.Proofs.RouteSearch

/-!
The route search one path at a time. Paths wait in one queue and routes in another; a found route is
handed out at once, and only when none is left the next path is worked off. Worked through to its
end, the queue hands out exactly the routes of the search by rounds, in the same order.
-/

namespace PoolRouting

structure RouteQueue where
  /-- Paths to be worked off. -/
  frontier : List Path
  /-- Routes to be handed out. -/
  found : List Route

namespace RouteQueue

def start (source target : TokenId) (maxHops : Nat) : RouteQueue :=
  if source ≠ target ∧ 0 < maxHops then ⟨[Path.start source], []⟩ else ⟨[], []⟩

-- The bound is asked for where a path is put in the queue; one that arrives is one hop longer.
/-- What one edge makes of a path: nothing, a route, or a longer path that waits in turn. -/
def follow (target : TokenId) (maxHops : Nat) (path : Path) (queue : RouteQueue) (edge : Edge) :
    RouteQueue :=
  if edge.target ∈ path.tokens then queue
  else if edge.target = target then
    { queue with found := queue.found ++ [(path.extend edge).route] }
  else if path.pools.length + 1 < maxHops then
    { queue with frontier := queue.frontier ++ [path.extend edge] }
  else queue

def expand (graph : LiquidityGraph) (target : TokenId) (maxHops : Nat) (path : Path)
    (queue : RouteQueue) : RouteQueue :=
  (graph.leaving path.current).foldl (follow target maxHops path) queue

/-- The queue comes to its end and has handed out these routes by then. -/
inductive Yields (graph : LiquidityGraph) (target : TokenId) (maxHops : Nat) :
    RouteQueue → List Route → Prop where
  | ends : Yields graph target maxHops ⟨[], []⟩ []
  | emits {frontier : List Path} {route : Route} {found routes : List Route}
      (later : Yields graph target maxHops ⟨frontier, found⟩ routes) :
      Yields graph target maxHops ⟨frontier, route :: found⟩ (route :: routes)
  | expands {path : Path} {frontier : List Path} {routes : List Route}
      (later : Yields graph target maxHops
        (expand graph target maxHops path ⟨frontier, []⟩) routes) :
      Yields graph target maxHops ⟨path :: frontier, []⟩ routes

section Rounds
variable (graph : LiquidityGraph) (target : TokenId) (maxHops : Nat)

/-- Those of the paths that have arrived, as routes. -/
def arrivals (paths : List Path) : List Route :=
  (paths.filter fun path => path.current = target).map Path.route

/-- Those of the paths that have not. -/
def pending (paths : List Path) : List Path :=
  paths.filter fun path => !decide (path.current = target)

theorem follow_all (path : Path) (edges : List Edge) (queue : RouteQueue) :
    edges.foldl (follow target maxHops path) queue =
      let grown := (edges.filter fun edge => edge.target ∉ path.tokens).map path.extend
      ⟨queue.frontier ++ if path.pools.length + 1 < maxHops then pending target grown else [],
        queue.found ++ arrivals target grown⟩ := by
  induction edges generalizing queue with
  | nil => simp [pending, arrivals]
  | cons edge rest ih =>
    rw [List.foldl_cons, ih]
    by_cases met : edge.target ∈ path.tokens
    · simp [follow, met]
    · have current : (path.extend edge).current = edge.target := rfl
      by_cases arrived : edge.target = target
      · subst arrived
        simp [follow, met, arrivals, pending, current]
      · by_cases room : path.pools.length + 1 < maxHops <;>
          simp [follow, met, arrived, arrivals, pending, current, room]

theorem expand_eq (path : Path) (queue : RouteQueue) :
    expand graph target maxHops path queue =
      ⟨queue.frontier ++
          if path.pools.length + 1 < maxHops then pending target (graph.growths path) else [],
        queue.found ++ arrivals target (graph.growths path)⟩ :=
  follow_all target maxHops path (graph.leaving path.current) queue

variable {graph target maxHops}

theorem yields_found {frontier : List Path} {routes : List Route}
    (later : Yields graph target maxHops ⟨frontier, []⟩ routes) (found : List Route) :
    Yields graph target maxHops ⟨frontier, found⟩ (found ++ routes) := by
  induction found with
  | nil => exact later
  | cons route found ih => exact .emits ih

-- One round: the paths of this length stand in front of those of the next, and what they lead to is
-- put behind those.
theorem yields_round {hops : Nat} (now next : List Path) {routes : List Route}
    (level : ∀ path ∈ now, path.pools.length + (hops + 1) = maxHops)
    (later : Yields graph target maxHops
      ⟨next ++ if 0 < hops then pending target (now.flatMap graph.growths) else [], []⟩ routes) :
    Yields graph target maxHops ⟨now ++ next, []⟩
      (arrivals target (now.flatMap graph.growths) ++ routes) := by
  induction now generalizing next with
  | nil => simpa [pending, arrivals] using later
  | cons path now ih =>
    obtain ⟨first, others⟩ := List.forall_mem_cons.mp level
    have room : path.pools.length + 1 < maxHops ↔ 0 < hops := by omega
    have split : arrivals target ((path :: now).flatMap graph.growths) =
        arrivals target (graph.growths path) ++ arrivals target (now.flatMap graph.growths) := by
      simp [arrivals]
    rw [split, List.append_assoc, List.cons_append]
    apply Yields.expands
    rw [expand_eq, List.nil_append, List.append_assoc]
    apply yields_found
    apply ih _ others
    by_cases more : 0 < hops <;> simpa [room, more, pending] using later

/-- Round after round the queue does what the search does. -/
theorem yields_search (hops : Nat) (frontier : List Path)
    (level : ∀ path ∈ frontier, path.pools.length + hops = maxHops)
    (waiting : hops = 0 → frontier = []) :
    Yields graph target maxHops ⟨frontier, []⟩ (graph.search target hops frontier) := by
  induction hops generalizing frontier with
  | zero =>
    rw [waiting rfl]
    exact .ends
  | succ hops ih =>
    rw [search_succ]
    have grown : ∀ path ∈ pending target (frontier.flatMap graph.growths),
        path.pools.length + hops = maxHops := by
      intro path member
      obtain ⟨before, start, growth⟩ := List.mem_flatMap.mp (List.mem_filter.mp member).1
      obtain ⟨edge, _, rfl⟩ := List.mem_map.mp growth
      have counted := level before start
      simp only [Path.extend, List.length_cons]
      omega
    have later : Yields graph target maxHops
        ⟨[] ++ if 0 < hops then pending target (frontier.flatMap graph.growths) else [], []⟩
        (graph.search target hops (pending target (frontier.flatMap graph.growths))) := by
      cases hops with
      | zero => exact .ends
      | succ hops => exact ih _ grown (fun empty => by omega)
    have round := yields_round frontier [] level later
    rwa [List.append_nil] at round

theorem yields_routes (graph : LiquidityGraph) (source target : TokenId) (maxHops : Nat) :
    Yields graph target maxHops (start source target maxHops)
      (graph.routes source target maxHops) := by
  unfold start LiquidityGraph.routes
  by_cases same : source = target
  · simpa [same] using Yields.ends
  · by_cases room : 0 < maxHops
    · rw [if_pos ⟨same, room⟩, if_neg same]
      apply yields_search
      · simp [Path.start]
      · omega
    · obtain rfl : maxHops = 0 := by omega
      simpa [same, LiquidityGraph.search] using Yields.ends

end Rounds
end RouteQueue
end PoolRouting
