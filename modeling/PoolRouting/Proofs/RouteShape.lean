import PoolRouting.Proofs.Outcome
import PoolRouting.Route

/-!
The shape of a route, said without its check: every pool trades the token before it for the token
after it, and no token occurs twice. The check accepts exactly the routes of this shape.
-/

namespace PoolRouting

/-- The pool gives one token for the other, on whichever side it holds each. -/
def Pool.Trades (pool : Pool) (sold bought : TokenId) : Prop :=
  (pool.tokenA = sold ∧ pool.tokenB = bought) ∨ (pool.tokenB = sold ∧ pool.tokenA = bought)

/-- Tokens with the pools between them. -/
inductive Joined : List TokenId → List Pool → Prop where
  | arrived (token : TokenId) : Joined [token] []
  | hop {sold bought : TokenId} {tokens : List TokenId} {pool : Pool} {pools : List Pool}
      (trades : pool.Trades sold bought) (later : Joined (bought :: tokens) pools) :
      Joined (sold :: bought :: tokens) (pool :: pools)

theorem other_token_iff (pool : Pool) (sold bought : TokenId) :
    pool.otherToken? sold = some bought ↔ pool.Trades sold bought := by
  unfold Pool.otherToken? Pool.Trades
  by_cases holdsA : pool.tokenA = sold
  · by_cases holdsB : pool.tokenB = sold
    · simp [holdsA, holdsB]
    · simp [holdsA, holdsB]
  · simp [holdsA]

/-- What a pool holds of a token. -/
inductive Pool.Holds (pool : Pool) : TokenId → Amount → Prop where
  | sideA : pool.Holds pool.tokenA pool.reserveA
  | sideB : pool.Holds pool.tokenB pool.reserveB

/-- The reserves of a trade are those of the token sold and of the token bought, in this order. -/
theorem reserves_held {pool : Pool} {sold bought : TokenId} (trades : pool.Trades sold bought) :
    ∃ reserves, pool.reservesFor? sold = some reserves ∧
      pool.Holds sold reserves.input ∧ pool.Holds bought reserves.output := by
  unfold Pool.reservesFor?
  rcases trades with ⟨rfl, rfl⟩ | ⟨rfl, rfl⟩
  · exact ⟨_, if_pos rfl, .sideA, .sideB⟩
  · by_cases same : pool.tokenA = pool.tokenB
    · simp only [if_pos same]
      exact ⟨_, rfl, same ▸ .sideA, same ▸ .sideB⟩
    · simp only [if_neg same]
      exact ⟨_, rfl, .sideB, .sideA⟩

theorem joined_length {tokens : List TokenId} {pools : List Pool} (joined : Joined tokens pools) :
    tokens.length = pools.length + 1 := by
  induction joined with
  | arrived => rfl
  | hop _ _ ih => simpa using ih

theorem gap_none_iff (tokens : List TokenId) (pools : List Pool)
    (counted : tokens.length = pools.length + 1) :
    Route.gap? tokens pools = none ↔ Joined tokens pools := by
  induction pools generalizing tokens with
  | nil =>
    obtain ⟨token, rfl⟩ := List.length_eq_one_iff.mp counted
    simp [Route.gap?, Joined.arrived]
  | cons pool pools ih =>
    match tokens, counted with
    | left :: right :: tokens, counted =>
      have rest := ih (right :: tokens) (by simpa using counted)
      by_cases joins : pool.otherToken? left = some right
      · rw [Route.gap?, if_pos joins, rest]
        constructor
        · exact Joined.hop ((other_token_iff pool left right).mp joins)
        · rintro (_ | ⟨_, later⟩)
          exact later
      · rw [Route.gap?, if_neg joins]
        constructor
        · intro joined
          cases joined
        · rintro (_ | ⟨trades, _⟩)
          exact (joins ((other_token_iff pool left right).mpr trades)).elim

theorem repeated_none_iff (tokens : List TokenId) :
    Route.repeated? tokens = none ↔ tokens.Nodup := by
  induction tokens with
  | nil => simp [Route.repeated?]
  | cons token rest ih => by_cases again : token ∈ rest <;> simp [Route.repeated?, again, ih]

/-- A fault refuses the route that has it. -/
def judged : Option RouteFault → Except RouterError Unit
  | some fault => .error (.invalidRoute fault)
  | none => .ok ()

theorem judged_or (first second : Option RouteFault) :
    judged (first.or second) = (judged first).bind fun _ => judged second := by
  cases first <;> rfl

namespace Route

theorem validate_eq (route : Route) : route.validate = judged route.fault? := by
  rw [validate]
  cases route.fault? <;> rfl

theorem fault_none_iff (route : Route) :
    route.fault? = none ↔
      route.pools ≠ [] ∧ Joined route.tokens route.pools ∧ route.tokens.Nodup := by
  unfold fault?
  by_cases empty : route.pools = []
  · simp [empty]
  · by_cases counted : route.tokens.length = route.pools.length + 1
    · simp [empty, counted, gap_none_iff route.tokens route.pools counted, repeated_none_iff]
    · have apart : ¬ Joined route.tokens route.pools := fun joined => counted (joined_length joined)
      simp [empty, counted, apart]

theorem validate_ok_iff (route : Route) :
    route.validate = .ok () ↔
      route.pools ≠ [] ∧ Joined route.tokens route.pools ∧ route.tokens.Nodup := by
  rw [← fault_none_iff, validate]
  cases route.fault? <;> simp

/-- A way from one token to another that a swap over a pool list may take. -/
structure Admissible (pools : List Pool) (source target : TokenId) (maxHops : Nat)
    (route : Route) : Prop where
  starts : route.tokens.head? = some source
  ends : route.tokens.getLast? = some target
  simple : route.tokens.Nodup
  joined : Joined route.tokens route.pools
  moves : 1 ≤ route.pools.length
  bounded : route.pools.length ≤ maxHops
  listed : ∀ pool ∈ route.pools, pool ∈ pools
  active : ∀ pool ∈ route.pools, pool.state = .active
  filled : ∀ pool ∈ route.pools, pool.reserveA ≠ 0 ∧ pool.reserveB ≠ 0

theorem Admissible.validate {pools : List Pool} {source target : TokenId} {maxHops : Nat}
    {route : Route} (admissible : Admissible pools source target maxHops route) :
    route.validate = .ok () := by
  have nonempty : route.pools ≠ [] := by
    intro empty
    have moves := admissible.moves
    simp [empty] at moves
  exact (validate_ok_iff route).mpr ⟨nonempty, admissible.joined, admissible.simple⟩

end Route
end PoolRouting
