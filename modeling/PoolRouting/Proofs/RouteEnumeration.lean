import Mathlib.Data.List.Lex
import PoolRouting.Proofs.EdgeOrder
import PoolRouting.Proofs.QuoteChoice
import PoolRouting.Proofs.RouteQueue
import PoolRouting.Proofs.SimpleWalks

/-!
The routes between two tokens, enumerated. Shorter routes come first, and those of one length come in
the order of their steps, like words in a dictionary. Every frontier of the search stands in that
order already: its paths are of one length, and each grows along edges that stand in order.
-/

namespace PoolRouting

namespace Route

/-- The tokens a route goes on to, each with the address of the pool that gives it. -/
def steps (route : Route) : List (TokenId × Address) := route.tokens.tail.zip route.addresses

/-- Shorter routes first, those of one length by their steps. -/
def Before (left right : Route) : Prop :=
  left.hopCount < right.hopCount ∨
    left.hopCount = right.hopCount ∧ List.Lex StepBefore left.steps right.steps

end Route

section Words
variable {α : Type} {before : α → α → Prop}

theorem lex_irrefl (irrefl : ∀ letter, ¬ before letter letter) (word : List α) :
    ¬ List.Lex before word word := by
  induction word with
  | nil => rintro ⟨⟩
  | cons letter word ih =>
    rintro (_ | _ | _)
    case rel less => exact irrefl letter less
    case cons later => exact ih later

-- Words of one length differ before either ends, so what is put behind them does not matter.
theorem lex_append {left right : List α} (counted : left.length = right.length)
    (less : List.Lex before left right) (leftEnd rightEnd : List α) :
    List.Lex before (left ++ leftEnd) (right ++ rightEnd) := by
  induction less with
  | nil => cases counted
  | rel less => exact .rel less
  | cons _ ih => exact .cons (ih (by simpa using counted))

end Words

theorem before_ne {left right : Route} (less : left.Before right) : left ≠ right := by
  rintro rfl
  rcases less with shorter | ⟨_, less⟩
  · exact Nat.lt_irrefl _ shorter
  · exact lex_irrefl step_before_irrefl _ less

/-- A path that has come so many hops, with a token left behind for every pool. -/
structure Path.Advanced (hops : Nat) (path : Path) : Prop where
  left : path.visited.length = hops
  passed : path.pools.length = hops

/-- Paths of one length in the order of their steps. -/
structure Ordered (hops : Nat) (frontier : List Path) : Prop where
  advanced : ∀ path ∈ frontier, path.Advanced hops
  sorted : frontier.Pairwise fun left right => List.Lex StepBefore left.route.steps right.route.steps

section Paths
variable {hops : Nat} {path : Path}

theorem steps_length (advanced : path.Advanced hops) : path.route.steps.length = hops := by
  simp [Route.steps, Route.addresses, Path.route, Path.tokens, advanced.left, advanced.passed]

theorem hop_count_route (advanced : path.Advanced hops) : path.route.hopCount = hops := by
  simp [Route.hopCount, Path.route, advanced.passed]

theorem advanced_extend (advanced : path.Advanced hops) (edge : Edge) :
    (path.extend edge).Advanced (hops + 1) where
  left := by simp [Path.extend, Path.tokens, advanced.left]
  passed := by simp [Path.extend, advanced.passed]

theorem steps_extend (advanced : path.Advanced hops) (edge : Edge) :
    (path.extend edge).route.steps = path.route.steps ++ [edge.step] := by
  have tokens : (path.extend edge).route.tokens = path.route.tokens ++ [edge.target] := by
    simp [Path.extend, Path.route, Path.tokens]
  have addresses : (path.extend edge).route.addresses =
      path.route.addresses ++ [edge.pool.address] := by
    simp [Path.extend, Path.route, Route.addresses]
  have begun : path.route.tokens ≠ [] := by simp [Path.route, Path.tokens]
  have counted : path.route.tokens.tail.length = path.route.addresses.length := by
    simp [Path.route, Path.tokens, Route.addresses, advanced.left, advanced.passed]
  rw [Route.steps, tokens, addresses, List.tail_append_of_ne_nil begun, List.zip_append counted]
  rfl

end Paths

section Search
variable {pools : List Pool} {graph : LiquidityGraph}

theorem mem_growths {path grown : Path} (growth : grown ∈ graph.growths path) :
    ∃ edge ∈ graph.leaving path.current, grown = path.extend edge := by
  obtain ⟨edge, fresh, rfl⟩ := List.mem_map.mp growth
  exact ⟨edge, (List.mem_filter.mp fresh).1, rfl⟩

theorem advanced_growths {hops : Nat} {frontier : List Path}
    (advanced : ∀ path ∈ frontier, path.Advanced hops) :
    ∀ grown ∈ frontier.flatMap graph.growths, grown.Advanced (hops + 1) := by
  intro grown member
  obtain ⟨path, start, growth⟩ := List.mem_flatMap.mp member
  obtain ⟨edge, _, rfl⟩ := mem_growths growth
  exact advanced_extend (advanced path start) edge

theorem growths_sorted (accepted : LiquidityGraph.ofPools pools = .ok graph) {hops : Nat}
    {path : Path} (advanced : path.Advanced hops) :
    (graph.growths path).Pairwise fun left right =>
      List.Lex StepBefore left.route.steps right.route.steps := by
  rw [LiquidityGraph.growths, List.pairwise_map]
  apply List.Pairwise.filter
  apply (LiquidityGraph.leaving_increasing accepted path.current).imp
  intro left right less
  rw [steps_extend advanced, steps_extend advanced]
  exact List.Lex.append_left _ (.rel less) _

theorem ordered_grown (accepted : LiquidityGraph.ofPools pools = .ok graph) {hops : Nat}
    {frontier : List Path} (ordered : Ordered hops frontier) :
    Ordered (hops + 1) (frontier.flatMap graph.growths) where
  advanced := advanced_growths ordered.advanced
  sorted := by
    rw [List.pairwise_flatMap]
    constructor
    · intro path start
      exact growths_sorted accepted (ordered.advanced path start)
    · apply ordered.sorted.imp_of_mem
      intro left right one other less grownLeft growthLeft grownRight growthRight
      obtain ⟨_, _, rfl⟩ := mem_growths growthLeft
      obtain ⟨_, _, rfl⟩ := mem_growths growthRight
      have advancedLeft := ordered.advanced left one
      have advancedRight := ordered.advanced right other
      rw [steps_extend advancedLeft, steps_extend advancedRight]
      apply lex_append _ less
      rw [steps_length advancedLeft, steps_length advancedRight]

theorem ordered_filter {hops : Nat} {frontier : List Path} (ordered : Ordered hops frontier)
    (keep : Path → Bool) : Ordered hops (frontier.filter keep) where
  advanced := fun path member => ordered.advanced path (List.mem_filter.mp member).1
  sorted := ordered.sorted.filter keep

theorem ordered_routes {hops : Nat} {frontier : List Path} (ordered : Ordered hops frontier) :
    (frontier.map Path.route).Pairwise Route.Before := by
  rw [List.pairwise_map]
  apply ordered.sorted.imp_of_mem
  intro left right one other less
  refine Or.inr ⟨?_, less⟩
  rw [hop_count_route (ordered.advanced left one), hop_count_route (ordered.advanced right other)]

theorem search_longer (target : TokenId) (rounds : Nat) {hops : Nat} {frontier : List Path}
    (advanced : ∀ path ∈ frontier, path.Advanced hops) :
    ∀ route ∈ graph.search target rounds frontier, hops < route.hopCount := by
  induction rounds generalizing hops frontier with
  | zero =>
    intro route member
    cases member
  | succ rounds ih =>
    have grown : ∀ path ∈ frontier.flatMap graph.growths, path.Advanced (hops + 1) :=
      advanced_growths advanced
    intro route member
    rw [search_succ, List.mem_append] at member
    rcases member with arrived | later
    · obtain ⟨path, member, rfl⟩ := List.mem_map.mp arrived
      rw [hop_count_route (grown path (List.mem_filter.mp member).1)]
      exact Nat.lt_succ_self hops
    · have longer := ih (fun path member => grown path (List.mem_filter.mp member).1) route later
      omega

/-- The search of an ordered frontier meets the routes in their order. -/
theorem search_increasing (accepted : LiquidityGraph.ofPools pools = .ok graph) (target : TokenId)
    (rounds : Nat) {hops : Nat} {frontier : List Path} (ordered : Ordered hops frontier) :
    (graph.search target rounds frontier).Pairwise Route.Before := by
  induction rounds generalizing hops frontier with
  | zero => exact .nil
  | succ rounds ih =>
    have grown := ordered_grown accepted ordered
    rw [search_succ, List.pairwise_append]
    refine ⟨ordered_routes (ordered_filter grown _), ih (ordered_filter grown _), ?_⟩
    intro arrived member route later
    have longer := search_longer target rounds (ordered_filter grown _).advanced route later
    obtain ⟨path, ends, rfl⟩ := List.mem_map.mp member
    refine Or.inl ?_
    rwa [hop_count_route (grown.advanced path (List.mem_filter.mp ends).1)]

theorem routes_increasing (accepted : LiquidityGraph.ofPools pools = .ok graph)
    (source target : TokenId) (maxHops : Nat) :
    (graph.routes source target maxHops).Pairwise Route.Before := by
  unfold LiquidityGraph.routes
  split
  case isTrue => exact .nil
  case isFalse =>
    have start : Ordered 0 [Path.start source] :=
      { advanced := fun path member => by
          obtain rfl := List.mem_singleton.mp member
          exact ⟨rfl, rfl⟩
        sorted := List.pairwise_singleton _ _ }
    exact search_increasing accepted target maxHops start

/-- What the iteration over the routes between two tokens hands out. -/
structure Enumerates (graph : LiquidityGraph) (source target : TokenId) (maxHops : Nat)
    (routes : List Route) : Prop where
  /-- The queue comes to its end, with these routes handed out in this order. -/
  finishes : RouteQueue.Yields graph target maxHops (.start source target maxHops) routes
  /-- They are the simple walks within the bound, seen as routes. -/
  exact : ∀ route, route ∈ routes ↔
    ∃ edges, SimpleWalk graph source target maxHops edges ∧ route = Route.along source edges
  once : routes.Nodup
  increasing : routes.Pairwise Route.Before
  sound : ∀ route ∈ routes, route.validate = .ok ()
  noLoops : source = target → routes = []

/-- The graph of an accepted pool list has its routes enumerated, whichever tokens are asked for and
whatever the bound. -/
theorem routes_enumerated (accepted : LiquidityGraph.ofPools pools = .ok graph)
    (source target : TokenId) (maxHops : Nat) :
    Enumerates graph source target maxHops (graph.routes source target maxHops) := by
  have increasing := routes_increasing accepted source target maxHops
  obtain rfl := ((LiquidityGraph.of_pools_ok_iff pools graph).mp accepted).2
  exact
    { finishes := RouteQueue.yields_routes _ source target maxHops
      exact := fun route =>
        (LiquidityGraph.mem_routes_iff ..).trans (admissible_iff_walk source target maxHops route)
      once := increasing.imp before_ne
      increasing := increasing
      sound := fun route member => ((LiquidityGraph.mem_routes_iff ..).mp member).validate
      noLoops := fun same => if_pos same }

end Search

namespace Sample

/-- The direct way and the way over the token in between, handed out in this order. -/
theorem routes_enumerated_over_middle :
    LiquidityGraph.ofPools pools = .ok graph ∧
      Enumerates graph usdc wrapped 4 [shortRoute, longRoute] ∧
        shortRoute.Before longRoute :=
  have enumerated := routes ▸ routes_enumerated ready.accepted usdc wrapped 4
  ⟨ready.accepted, enumerated, by simpa using enumerated.increasing⟩

end Sample
end PoolRouting
