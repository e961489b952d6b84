import PoolRouting.Liquidity.Search
import PoolRouting.Proofs.LiquidityGraph

/-!
The route search finds exactly the admissible routes. A relation says how a path goes on to the
target edge by edge; the rounds of the search follow it, and so does every simple way through usable
pools.
-/

namespace PoolRouting

/-- The path goes on to the target in so many hops and meets it only at the end. -/
inductive Reaches (graph : LiquidityGraph) (target : TokenId) : Nat → Path → Route → Prop where
  | arrives {path grown : Path} (growth : grown ∈ graph.growths path)
      (arrived : grown.current = target) : Reaches graph target 1 path grown.route
  | goesOn {path grown : Path} {hops : Nat} {route : Route} (growth : grown ∈ graph.growths path)
      (pending : grown.current ≠ target) (later : Reaches graph target hops grown route) :
      Reaches graph target (hops + 1) path route

theorem search_succ (graph : LiquidityGraph) (target : TokenId) (hops : Nat)
    (frontier : List Path) :
    graph.search target (hops + 1) frontier =
      ((frontier.flatMap graph.growths).filter fun path => path.current = target).map Path.route ++
        graph.search target hops
          ((frontier.flatMap graph.growths).filter fun path => !decide (path.current = target)) := by
  cases frontier with
  | nil => cases hops <;> rfl
  | cons path rest => simp [LiquidityGraph.search, List.partition_eq_filter_filter, Function.comp_def]

theorem mem_search_iff (graph : LiquidityGraph) (target : TokenId) (hops : Nat)
    (frontier : List Path) (route : Route) :
    route ∈ graph.search target hops frontier ↔
      ∃ path ∈ frontier, ∃ taken, taken ≤ hops ∧ Reaches graph target taken path route := by
  induction hops generalizing frontier with
  | zero =>
    constructor
    · intro member
      cases member
    · rintro ⟨path, _, taken, within, reaches⟩
      cases reaches <;> omega
  | succ hops ih =>
    rw [search_succ, List.mem_append, ih]
    constructor
    · rintro (found | ⟨grown, waiting, taken, within, later⟩)
      · obtain ⟨grown, member, rfl⟩ := List.mem_map.mp found
        obtain ⟨member, arrived⟩ := List.mem_filter.mp member
        obtain ⟨path, start, growth⟩ := List.mem_flatMap.mp member
        exact ⟨path, start, 1, by omega, .arrives growth (by simpa using arrived)⟩
      · obtain ⟨member, pending⟩ := List.mem_filter.mp waiting
        obtain ⟨path, start, growth⟩ := List.mem_flatMap.mp member
        exact ⟨path, start, taken + 1, by omega, .goesOn growth (by simpa using pending) later⟩
    · rintro ⟨path, start, taken, within, reaches⟩
      cases reaches with
      | arrives growth arrived =>
        refine Or.inl (List.mem_map.mpr ⟨_, List.mem_filter.mpr ⟨?_, by simpa using arrived⟩, rfl⟩)
        exact List.mem_flatMap.mpr ⟨path, start, growth⟩
      | goesOn growth pending later =>
        refine Or.inr ⟨_, List.mem_filter.mpr ⟨?_, by simpa using pending⟩, _, by omega, later⟩
        exact List.mem_flatMap.mpr ⟨path, start, growth⟩

/-- What may follow a path: tokens it has not met, up to the target, and usable pools between them. -/
structure Continues (pools : List Pool) (target : TokenId) (path : Path)
    (tokens : List TokenId) (through : List Pool) : Prop where
  joined : Joined (path.current :: tokens) through
  usable : ∀ pool ∈ through, pool ∈ pools ∧ pool.usable = true
  distinct : tokens.Nodup
  fresh : ∀ token ∈ tokens, token ∉ path.tokens
  ends : tokens.getLast? = some target

/-- The route that a path becomes when it goes on like that. -/
def Path.continued (path : Path) (tokens : List TokenId) (through : List Pool) : Route :=
  ⟨path.tokens.reverse ++ tokens, path.pools.reverse ++ through⟩

theorem continued_extend (path : Path) (edge : Edge) (tokens : List TokenId)
    (through : List Pool) :
    (path.extend edge).continued tokens through =
      path.continued (edge.target :: tokens) (edge.pool :: through) := by
  simp [Path.continued, Path.extend, Path.tokens]

theorem mem_growths_iff (pools : List Pool) (path grown : Path) :
    grown ∈ (LiquidityGraph.ofTrusted pools).growths path ↔
      ∃ pool token, (pool ∈ pools ∧ pool.usable = true) ∧ pool.Trades path.current token ∧
        token ∉ path.tokens ∧ grown = path.extend ⟨pool, path.current, token⟩ := by
  rw [LiquidityGraph.growths, List.mem_map]
  constructor
  · rintro ⟨edge, member, rfl⟩
    obtain ⟨leaving, fresh⟩ := List.mem_filter.mp member
    obtain ⟨leaves, usable, trades⟩ := (LiquidityGraph.mem_leaving_iff pools _ edge).mp leaving
    exact ⟨edge.pool, edge.target, usable, leaves ▸ trades, by simpa using fresh, rfl⟩
  · rintro ⟨pool, token, usable, trades, fresh, rfl⟩
    refine ⟨⟨pool, path.current, token⟩, List.mem_filter.mpr ⟨?_, by simpa using fresh⟩, rfl⟩
    exact (LiquidityGraph.mem_leaving_iff pools _ _).mpr ⟨rfl, usable, trades⟩

theorem continues_of_reaches {pools : List Pool} {target : TokenId} {hops : Nat} {path : Path}
    {route : Route} (reaches : Reaches (LiquidityGraph.ofTrusted pools) target hops path route) :
    ∃ tokens through, Continues pools target path tokens through ∧ through.length = hops ∧
      route = path.continued tokens through := by
  induction reaches with
  | @arrives path grown growth arrived =>
    obtain ⟨pool, token, usable, trades, fresh, rfl⟩ := (mem_growths_iff pools path grown).mp growth
    refine ⟨[token], [pool], ?_, rfl, continued_extend path ⟨pool, path.current, token⟩ [] [] ▸ ?_⟩
    · exact
        { joined := .hop trades (.arrived token)
          usable := by simpa using usable
          distinct := by simp
          fresh := by simpa using fresh
          ends := congrArg some arrived }
    · simp [Path.route, Path.continued]
  | @goesOn path grown hops route growth pending later ih =>
    obtain ⟨pool, token, usable, trades, fresh, rfl⟩ := (mem_growths_iff pools path grown).mp growth
    obtain ⟨tokens, through, rest, counted, rfl⟩ := ih
    have apart : token ∉ tokens := fun again => rest.fresh token again List.mem_cons_self
    refine ⟨token :: tokens, pool :: through, ?_, by simp [counted], continued_extend ..⟩
    exact
      { joined := .hop trades rest.joined
        usable := List.forall_mem_cons.mpr ⟨usable, rest.usable⟩
        distinct := List.nodup_cons.mpr ⟨apart, rest.distinct⟩
        fresh := by
          intro other member
          rcases List.mem_cons.mp member with rfl | member
          · exact fresh
          · exact fun met => rest.fresh other member (List.mem_cons_of_mem _ met)
        ends := by simp [List.getLast?_cons, rest.ends] }

-- The target stands last and no token repeats, so no earlier hop can have arrived.
theorem reaches_of_continues {pools : List Pool} {target : TokenId} {path : Path}
    {tokens : List TokenId} {through : List Pool}
    (rest : Continues pools target path tokens through) :
    Reaches (LiquidityGraph.ofTrusted pools) target through.length path
      (path.continued tokens through) := by
  induction through generalizing path tokens with
  | nil =>
    have alone := joined_length rest.joined
    have ends := rest.ends
    simp_all
  | cons pool through ih =>
    obtain ⟨joined, usable, distinct, fresh, ends⟩ := rest
    cases joined with
    | @hop _ token tokens _ _ trades later =>
      have growth := (mem_growths_iff pools path _).mpr
        ⟨pool, token, usable pool List.mem_cons_self, trades, fresh token List.mem_cons_self, rfl⟩
      rw [← continued_extend path ⟨pool, path.current, token⟩]
      cases tokens with
      | nil =>
        have done : through = [] := by simpa using joined_length later
        have arrived : token = target := by simpa using ends
        subst done
        have reaches := Reaches.arrives growth arrived
        simpa [Path.route, Path.continued] using reaches
      | cons next tokens =>
        have ends : (next :: tokens).getLast? = some target := by simpa using ends
        have pending : token ≠ target := by
          rintro rfl
          exact (List.nodup_cons.mp distinct).1 (List.mem_of_getLast? ends)
        refine .goesOn growth pending (ih ?_)
        exact
          { joined := later
            usable := fun other member => usable other (List.mem_cons_of_mem _ member)
            distinct := (List.nodup_cons.mp distinct).2
            fresh := by
              intro other member met
              rcases List.mem_cons.mp met with rfl | before
              · exact (List.nodup_cons.mp distinct).1 member
              · exact fresh other (List.mem_cons_of_mem _ member) before
            ends := ends }

namespace LiquidityGraph

theorem admissible_of_continues {pools : List Pool} {source target : TokenId}
    {tokens : List TokenId} {through : List Pool} {maxHops : Nat}
    (rest : Continues pools target (Path.start source) tokens through)
    (bounded : through.length ≤ maxHops) :
    Route.Admissible pools source target maxHops ((Path.start source).continued tokens through) := by
  have usable := fun pool member => (usable_iff pool).mp (rest.usable pool member).2
  have apart : source ∉ tokens := fun again => rest.fresh source again List.mem_cons_self
  have counted := joined_length rest.joined
  have ends := rest.ends
  exact
    { starts := rfl
      ends := by simp [Path.continued, Path.start, Path.tokens, List.getLast?_cons, ends]
      simple := List.nodup_cons.mpr ⟨apart, rest.distinct⟩
      joined := rest.joined
      moves := by
        cases tokens with
        | nil => cases ends
        | cons => simp [Path.continued, Path.start] at counted ⊢; omega
      bounded := bounded
      listed := fun pool member => (rest.usable pool member).1
      active := fun pool member => (usable pool member).1
      filled := fun pool member => (usable pool member).2 }

theorem continues_of_admissible {pools : List Pool} {source target : TokenId} {maxHops : Nat}
    {route : Route} (admissible : Route.Admissible pools source target maxHops route) :
    ∃ tokens through, Continues pools target (Path.start source) tokens through ∧
      through.length ≤ maxHops ∧ route = (Path.start source).continued tokens through := by
  obtain ⟨all, through⟩ := route
  obtain ⟨starts, ends, simple, joined, moves, bounded, listed, active, filled⟩ := admissible
  cases joined with
  | arrived => simp at moves
  | @hop sold bought tokens pool through trades later =>
    cases starts
    refine ⟨bought :: tokens, pool :: through, ?_, bounded, rfl⟩
    exact
      { joined := .hop trades later
        usable := fun other member =>
          ⟨listed other member, (usable_iff other).mpr ⟨active other member, filled other member⟩⟩
        distinct := (List.nodup_cons.mp simple).2
        fresh := by
          intro token member met
          have same : token = source := by simpa [Path.start, Path.tokens] using met
          exact (List.nodup_cons.mp simple).1 (same ▸ member)
        ends := by simpa using ends }

theorem admissible_ends_differ {pools : List Pool} {source target : TokenId} {maxHops : Nat}
    {route : Route} (admissible : Route.Admissible pools source target maxHops route) :
    source ≠ target := by
  obtain ⟨tokens, through, rest, _, _⟩ := continues_of_admissible admissible
  rintro rfl
  exact rest.fresh source (List.mem_of_getLast? rest.ends) List.mem_cons_self

/-- The search is sound and complete for every pool list, every pair of tokens and every bound. -/
theorem mem_routes_iff (pools : List Pool) (source target : TokenId) (maxHops : Nat)
    (route : Route) :
    route ∈ (ofTrusted pools).routes source target maxHops ↔
      Route.Admissible pools source target maxHops route := by
  unfold routes
  by_cases same : source = target
  · rw [if_pos same]
    constructor
    · intro member
      cases member
    · intro admissible
      exact (admissible_ends_differ admissible same).elim
  · rw [if_neg same, mem_search_iff]
    constructor
    · rintro ⟨path, start, taken, within, reaches⟩
      obtain rfl := List.mem_singleton.mp start
      obtain ⟨tokens, through, rest, rfl, rfl⟩ := continues_of_reaches reaches
      exact admissible_of_continues rest within
    · intro admissible
      obtain ⟨tokens, through, rest, within, rfl⟩ := continues_of_admissible admissible
      exact ⟨_, List.mem_singleton.mpr rfl, _, within, reaches_of_continues rest⟩

end LiquidityGraph
end PoolRouting
