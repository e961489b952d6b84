import PoolRouting.Candidates
import PoolRouting.Proofs.Outcome

/-!
The order of candidates and the choice of the best. The order is total and transitive, it says
"strictly better" key by key, and the chosen candidate is beaten by none. Simulating a list of routes
keeps exactly the routes that can be simulated as long as every failure is local to its route.
-/

namespace PoolRouting

instance : Std.TransOrd TokenId := inferInstanceAs (Std.TransCmp (compareOn TokenId.text))

instance : Std.TransOrd Address := inferInstanceAs (Std.TransCmp (compareOn Address.text))

instance : Std.LawfulEqOrd TokenId where
  eq_of_compare {left right} same := by
    have texts : left.text = right.text := Std.LawfulEqOrd.eq_of_compare same
    cases left
    exact congrArg TokenId.mk texts

instance : Std.LawfulEqOrd Address where
  eq_of_compare {left right} same := by
    have texts : left.text = right.text := Std.LawfulEqOrd.eq_of_compare same
    cases left
    exact congrArg Address.mk texts

theorem compare_text_lt_iff (left right : String) : compare left right = .lt ↔ left < right := by
  by_cases less : left < right
  · simp [compare, String.compare, compareOfLessAndEq, less]
  · by_cases same : left = right <;> simp [compare, String.compare, compareOfLessAndEq, less, same]

-- Identifiers are compared by their texts, so a sequence of them is compared as a list of texts.
theorem compare_by_text_lt_iff {α : Type} [Ord α] [Std.LawfulEqOrd α] (text : α → String)
    (injective : ∀ left right, text left = text right → left = right)
    (byText : ∀ left right : α, compare left right = compare (text left) (text right))
    (left right : List α) :
    compare left right = .lt ↔ left.map text < right.map text := by
  rw [List.compare_eq_compareLex]
  induction left generalizing right with
  | nil => cases right <;> simp [List.compareLex_nil_nil, List.compareLex_nil_cons]
  | cons first rest ih =>
    cases right with
    | nil => simp [List.compareLex_cons_nil]
    | cons other others =>
      have keys : text first = text other ↔ first = other :=
        ⟨injective first other, congrArg text⟩
      rw [List.compareLex_cons_cons, Ordering.then_eq_lt, ih, Std.LawfulEqOrd.compare_eq_iff_eq,
        byText, compare_text_lt_iff, List.map_cons, List.map_cons, List.cons_lt_cons_iff, keys]

namespace SimulatedRoute

instance (type : SwapType) : Std.TransCmp (openAmountOrder type) := by
  cases type with
  | fixedInput => exact inferInstanceAs (Std.TransCmp fun left right => compareOn amountOut right left)
  | fixedOutput => exact inferInstanceAs (Std.TransCmp (compareOn amountIn))

instance (type : SwapType) : Std.TransCmp (order type) :=
  inferInstanceAs (Std.TransCmp (compareLex (openAmountOrder type)
    (compareLex (compareOn hopCount)
      (compareLex (compareOn fun simulated => simulated.route.tokens)
        (compareOn fun simulated => simulated.route.addresses)))))

/-- The amount that the caller did not fix. -/
def openAmount (type : SwapType) (simulated : SimulatedRoute) : Amount :=
  match type with
  | .fixedInput => simulated.amountOut
  | .fixedOutput => simulated.amountIn

/-- The caller gets more for a fixed input, or pays less for a fixed output. -/
def Gains (type : SwapType) (left right : SimulatedRoute) : Prop :=
  match type with
  | .fixedInput => right.amountOut < left.amountOut
  | .fixedOutput => left.amountIn < right.amountIn

/-- Strictly better: each key decides only where the keys before it agree. -/
inductive Better (type : SwapType) (left right : SimulatedRoute) : Prop where
  | byAmount (gains : Gains type left right)
  | byHops (level : openAmount type left = openAmount type right)
      (fewer : left.hopCount < right.hopCount)
  | byTokens (level : openAmount type left = openAmount type right)
      (even : left.hopCount = right.hopCount)
      (earlier : left.route.tokens.map TokenId.text < right.route.tokens.map TokenId.text)
  | byAddresses (level : openAmount type left = openAmount type right)
      (even : left.hopCount = right.hopCount) (parallel : left.route.tokens = right.route.tokens)
      (earlier : left.route.addresses.map Address.text < right.route.addresses.map Address.text)

theorem open_amount_lt_iff (type : SwapType) (left right : SimulatedRoute) :
    openAmountOrder type left right = .lt ↔ Gains type left right := by
  cases type <;> exact Nat.compare_eq_lt

theorem open_amount_eq_iff (type : SwapType) (left right : SimulatedRoute) :
    openAmountOrder type left right = .eq ↔ openAmount type left = openAmount type right := by
  cases type with
  | fixedInput => exact Nat.compare_eq_eq.trans eq_comm
  | fixedOutput => exact Nat.compare_eq_eq

theorem order_lt_iff (type : SwapType) (left right : SimulatedRoute) :
    order type left right = .lt ↔ Better type left right := by
  have tokens := compare_by_text_lt_iff TokenId.text
    (fun left right same => by cases left; exact congrArg TokenId.mk same) (fun _ _ => rfl)
    left.route.tokens right.route.tokens
  have addresses := compare_by_text_lt_iff Address.text
    (fun left right same => by cases left; exact congrArg Address.mk same) (fun _ _ => rfl)
    left.route.addresses right.route.addresses
  rw [order, Ordering.then_eq_lt, Ordering.then_eq_lt, Ordering.then_eq_lt, open_amount_lt_iff,
    open_amount_eq_iff, Nat.compare_eq_lt, Nat.compare_eq_eq, tokens, addresses,
    Std.LawfulEqOrd.compare_eq_iff_eq]
  constructor
  · rintro (gains | ⟨level, fewer | ⟨even, earlier | ⟨parallel, earlier⟩⟩⟩)
    · exact .byAmount gains
    · exact .byHops level fewer
    · exact .byTokens level even earlier
    · exact .byAddresses level even parallel earlier
  · rintro (gains | ⟨level, fewer⟩ | ⟨level, even, earlier⟩ | ⟨level, even, parallel, earlier⟩)
    · exact Or.inl gains
    · exact Or.inr ⟨level, Or.inl fewer⟩
    · exact Or.inr ⟨level, Or.inr ⟨even, Or.inl earlier⟩⟩
    · exact Or.inr ⟨level, Or.inr ⟨even, Or.inr ⟨parallel, earlier⟩⟩⟩

/-- Neither comes first: every key agrees. -/
structure Level (type : SwapType) (left right : SimulatedRoute) : Prop where
  amount : openAmount type left = openAmount type right
  tokens : left.route.tokens = right.route.tokens
  hops : left.hopCount = right.hopCount
  addresses : left.route.addresses = right.route.addresses

theorem order_eq_iff (type : SwapType) (left right : SimulatedRoute) :
    order type left right = .eq ↔ Level type left right := by
  rw [order, Ordering.then_eq_eq, Ordering.then_eq_eq, Ordering.then_eq_eq, open_amount_eq_iff,
    Nat.compare_eq_eq, Std.LawfulEqOrd.compare_eq_iff_eq, Std.LawfulEqOrd.compare_eq_iff_eq]
  constructor
  · rintro ⟨amount, hops, tokens, addresses⟩
    exact ⟨amount, tokens, hops, addresses⟩
  · rintro ⟨amount, tokens, hops, addresses⟩
    exact ⟨amount, hops, tokens, addresses⟩

theorem best_none_iff (type : SwapType) (candidates : List SimulatedRoute) :
    best? type candidates = none ↔ candidates = [] := by
  cases candidates with
  | nil => simp [best?]
  | cons candidate rest =>
    rw [best?]
    split
    · simp
    · split <;> simp

/-- The better of two candidates, the first of two equal ones. -/
def preferred (type : SwapType) (first second : SimulatedRoute) : SimulatedRoute :=
  if (order type first second).isLE then first else second

-- A choice from the left drops one of the first two, a choice from the right compares them last.
theorem best_of_first_two (type : SwapType) (first second : SimulatedRoute)
    (rest : List SimulatedRoute) :
    best? type (first :: second :: rest) = best? type (preferred type first second :: rest) := by
  rw [preferred, best?, best?, best?]
  cases best? type rest with
  | none =>
    dsimp only
    cases (order type first second).isLE <;> rfl
  | some other =>
    dsimp only
    cases among : (order type first second).isLE with
    | true =>
      cases within : (order type second other).isLE with
      | true =>
        have least : (order type first other).isLE = true := Std.TransCmp.isLE_trans among within
        simp [among, least]
      | false => simp
    | false =>
      cases within : (order type second other).isLE with
      | true => simp [among, within]
      | false =>
        have beaten : (order type first other).isLE = false := by
          rw [← Bool.not_eq_true]
          intro level
          have under : (order type other second).isLE = true :=
            Ordering.isLE_of_eq_lt (Std.OrientedCmp.lt_of_not_isLE (by simp [within]))
          have least : (order type first second).isLE = true := Std.TransCmp.isLE_trans level under
          rw [among] at least
          cases least
        simp [beaten, within]

/-- The choice is one of the candidates, and none comes before it. -/
theorem best_spec (type : SwapType) (candidates : List SimulatedRoute) (best : SimulatedRoute)
    (chosen : best? type candidates = some best) :
    best ∈ candidates ∧ ∀ other ∈ candidates, (order type best other).isLE := by
  induction candidates generalizing best with
  | nil => cases chosen
  | cons candidate rest ih =>
    cases later : best? type rest with
    | none =>
      have alone := (best_none_iff type rest).mp later
      rw [best?, later] at chosen
      cases chosen
      simp [alone, Std.ReflCmp.isLE_rfl]
    | some winner =>
      obtain ⟨member, wins⟩ := ih winner later
      rw [best?, later] at chosen
      dsimp only at chosen
      split at chosen
      · case isTrue ahead =>
        cases chosen
        refine ⟨List.mem_cons_self, List.forall_mem_cons.mpr ⟨Std.ReflCmp.isLE_rfl, ?_⟩⟩
        exact fun other listed => Std.TransCmp.isLE_trans ahead (wins other listed)
      · case isFalse behind =>
        cases chosen
        refine ⟨List.mem_cons_of_mem _ member, List.forall_mem_cons.mpr ⟨?_, wins⟩⟩
        exact Ordering.isLE_of_eq_lt (Std.OrientedCmp.lt_of_not_isLE behind)

end SimulatedRoute

/-- The simulations of the routes that can be simulated, in order. -/
def simulations (direction : SwapDirection) (routes : List Route) : List SimulatedRoute :=
  routes.filterMap fun route => (route.simulate direction).toOption

theorem mem_simulations_iff (direction : SwapDirection) (routes : List Route)
    (simulated : SimulatedRoute) :
    simulated ∈ simulations direction routes ↔
      ∃ route ∈ routes, route.simulate direction = .ok simulated := by
  rw [simulations, List.mem_filterMap]
  refine exists_congr fun route => and_congr_right fun _ => ?_
  cases route.simulate direction <;> simp [Except.toOption]

theorem simulate_all_local (direction : SwapDirection) (routes : List Route)
    (isLocal : ∀ route ∈ routes, ∀ error, route.simulate direction = .error error →
      error.isRouteLocal = true) :
    simulateAll direction routes = .ok (simulations direction routes) := by
  induction routes with
  | nil => rfl
  | cons route rest ih =>
    have later := ih fun other member => isLocal other (List.mem_cons_of_mem _ member)
    cases outcome : route.simulate direction with
    | ok simulated => simp [simulateAll, simulations, outcome, later, Except.map, Except.toOption]
    | error error =>
      have dropped := isLocal route List.mem_cons_self error outcome
      simp [simulateAll, simulations, outcome, later, dropped, Except.toOption]

end PoolRouting
