import PoolRouting.Proofs.MarketMatching

/-!
The choice of a route does not depend on the order of the candidates. Whatever their order, the
choice stands level with itself; and among the routes of one graph no two stand level, since their
tokens and the addresses of their pools say which they are.
-/

namespace PoolRouting

/-- Exchanging the two sides reverses the answer, and being no worse is handed on. -/
structure TotalPreorder {α : Type} (order : α → α → Ordering) : Prop where
  reversed : ∀ left right, order right left = (order left right).swap
  chained : ∀ one two three, (order one two).isLE = true → (order two three).isLE = true →
    (order one three).isLE = true

namespace SimulatedRoute
variable {type : SwapType} {tokenIn tokenOut : TokenId} {candidates permuted : List SimulatedRoute}

theorem order_total (type : SwapType) : TotalPreorder (order type) where
  reversed := fun _ _ => Std.OrientedCmp.eq_swap
  chained := fun _ _ _ => Std.TransCmp.isLE_trans

theorem select_ok_iff (best : SimulatedRoute) :
    select type tokenIn tokenOut candidates = .ok best ↔ best? type candidates = some best := by
  unfold select
  cases best? type candidates <;> simp

/-- The choice is a candidate that no candidate beats. -/
theorem select_spec {best : SimulatedRoute}
    (chosen : select type tokenIn tokenOut candidates = .ok best) :
    best ∈ candidates ∧ ∀ other ∈ candidates, order type other best ≠ .lt := by
  obtain ⟨member, ahead⟩ := best_spec type candidates best ((select_ok_iff best).mp chosen)
  refine ⟨member, fun other listed beaten => ?_⟩
  exact Std.OrientedCmp.not_isLE_of_lt beaten (ahead other listed)

theorem select_some (type : SwapType) (tokenIn tokenOut : TokenId) (several : candidates ≠ []) :
    ∃ best, select type tokenIn tokenOut candidates = .ok best := by
  cases found : best? type candidates with
  | none => exact (several ((best_none_iff type candidates).mp found)).elim
  | some best => exact ⟨best, (select_ok_iff best).mpr found⟩

/-- In another order there is a choice as well, and neither of the two comes before the other. -/
theorem select_permuted (same : candidates.Perm permuted) {best : SimulatedRoute}
    (chosen : select type tokenIn tokenOut candidates = .ok best) :
    ∃ other, select type tokenIn tokenOut permuted = .ok other ∧ order type best other = .eq := by
  obtain ⟨member, ahead⟩ := best_spec type candidates best ((select_ok_iff best).mp chosen)
  have several : permuted ≠ [] := List.ne_nil_of_mem (same.mem_iff.mp member)
  obtain ⟨other, rechosen⟩ := select_some type tokenIn tokenOut several
  obtain ⟨listed, leads⟩ := best_spec type permuted other ((select_ok_iff other).mp rechosen)
  exact ⟨other, rechosen, Std.OrientedCmp.isLE_antisymm (ahead other (same.mem_iff.mpr listed))
    (leads best (same.mem_iff.mp member))⟩

/-- Where level candidates are one candidate, the order of the list is lost altogether. -/
theorem select_eq_of_perm (same : candidates.Perm permuted)
    (apart : ∀ one ∈ candidates, ∀ two ∈ candidates, order type one two = .eq → one = two) :
    select type tokenIn tokenOut permuted = select type tokenIn tokenOut candidates := by
  by_cases empty : candidates = []
  · rw [empty] at same ⊢
    rw [List.nil_perm.mp same]
  · obtain ⟨best, chosen⟩ := select_some type tokenIn tokenOut empty
    obtain ⟨other, rechosen, level⟩ := select_permuted same chosen
    have listed := same.mem_iff.mpr (select_spec rechosen).1
    rw [chosen, rechosen, apart best (select_spec chosen).1 other listed level]

end SimulatedRoute

section Graph
variable {pools : List Pool} {graph : LiquidityGraph}

-- Both candidates are simulations for one amount, so with the route their amounts agree as well.
theorem simulations_apart (accepted : LiquidityGraph.ofPools pools = .ok graph) (type : SwapType)
    (direction : SwapDirection) (source target : TokenId) (maxHops : Nat) :
    ∀ one ∈ simulations direction (graph.routes source target maxHops),
      ∀ two ∈ simulations direction (graph.routes source target maxHops),
        SimulatedRoute.order type one two = .eq → one = two := by
  obtain ⟨trusted, rfl⟩ := (LiquidityGraph.of_pools_ok_iff pools graph).mp accepted
  have distinct := ((first_fault_none_iff [] pools).mp trusted).2.1
  intro one first two second level
  obtain ⟨left, memberLeft, simulated⟩ := (mem_simulations_iff ..).mp first
  obtain ⟨right, memberRight, repeated⟩ := (mem_simulations_iff ..).mp second
  have admissibleLeft := (LiquidityGraph.mem_routes_iff ..).mp memberLeft
  have admissibleRight := (LiquidityGraph.mem_routes_iff ..).mp memberRight
  obtain ⟨_, tokens, _, addresses⟩ := (SimulatedRoute.order_eq_iff type one two).mp level
  rw [Route.simulate_route simulated, Route.simulate_route repeated] at tokens addresses
  have through : left.pools = right.pools :=
    eq_of_addresses distinct admissibleLeft.listed admissibleRight.listed addresses
  have routes : left = right := by
    cases left
    cases right
    simp_all
  rw [routes, repeated] at simulated
  exact (Except.ok.inj simulated).symm

end Graph

namespace SimulatedRoute

/-- The comparison ranks all candidates and calls two of them equal only where every key agrees; a
choice is made from every list but the empty one and is level for every order of it, and for the
candidates of a graph it is one and the same. -/
theorem choice_ignores_order (type : SwapType) :
    TotalPreorder (order type) ∧
    (∀ left right, order type left right = .eq ↔ Level type left right) ∧
    (∀ tokenIn tokenOut candidates, candidates ≠ [] →
      ∃ best, select type tokenIn tokenOut candidates = .ok best ∧ best ∈ candidates ∧
        (∀ other ∈ candidates, order type other best ≠ .lt) ∧
        ∀ permuted, candidates.Perm permuted →
          ∃ other, select type tokenIn tokenOut permuted = .ok other ∧
            order type best other = .eq) ∧
    ∀ pools graph, LiquidityGraph.ofPools pools = .ok graph →
      ∀ direction source target maxHops, ∃ candidates,
        simulateAll direction (graph.routes source target maxHops) = .ok candidates ∧
        ∀ tokenIn tokenOut permuted, candidates.Perm permuted →
          select type tokenIn tokenOut permuted = select type tokenIn tokenOut candidates := by
  refine ⟨order_total type, order_eq_iff type, ?_, ?_⟩
  · intro tokenIn tokenOut candidates several
    obtain ⟨best, chosen⟩ := select_some type tokenIn tokenOut several
    obtain ⟨member, unbeaten⟩ := select_spec chosen
    exact ⟨best, chosen, member, unbeaten, fun permuted same => select_permuted same chosen⟩
  · intro pools graph accepted direction source target maxHops
    refine ⟨_, Quote.simulate_routes accepted direction source target maxHops, ?_⟩
    intro tokenIn tokenOut permuted same
    exact select_eq_of_perm same
      (simulations_apart accepted type direction source target maxHops)

-- The way over the token in between brings more, and is chosen from either end of the list.
theorem choice_ignores_order_over_middle :
    LiquidityGraph.ofPools Sample.pools = .ok Sample.graph ∧
    ∃ short long,
      simulateAll ⟨.fixedInput, 5⟩ (Sample.graph.routes Sample.usdc Sample.wrapped 4) =
        .ok [short, long] ∧
      select .fixedInput Sample.usdc Sample.wrapped [short, long] = .ok long ∧
      select .fixedInput Sample.usdc Sample.wrapped [long, short] = .ok long := by
  obtain ⟨_, _, chosen, ordered⟩ := choice_ignores_order .fixedInput
  have accepted := Sample.ready.accepted
  have simulated : simulateAll ⟨.fixedInput, 5⟩
      (Sample.graph.routes Sample.usdc Sample.wrapped 4) =
        .ok [⟨Sample.shortRoute, [5, 3]⟩, ⟨Sample.longRoute, [5, 4960, 330]⟩] := by
    rw [Sample.routes]
    decide +kernel
  obtain ⟨candidates, found, same⟩ := ordered Sample.pools Sample.graph accepted ⟨.fixedInput, 5⟩
    Sample.usdc Sample.wrapped 4
  cases found.symm.trans simulated
  have first : select .fixedInput Sample.usdc Sample.wrapped
      [⟨Sample.shortRoute, [5, 3]⟩, ⟨Sample.longRoute, [5, 4960, 330]⟩] =
        .ok ⟨Sample.longRoute, [5, 4960, 330]⟩ := by
    decide +kernel
  exact ⟨accepted, _, _, simulated, first, (same _ _ _ (List.Perm.swap ..)).trans first⟩

end SimulatedRoute
end PoolRouting
