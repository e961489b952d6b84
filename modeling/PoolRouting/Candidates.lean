import PoolRouting.Simulation

/-!
Candidates for a swap: the routes that can be simulated, and the best of them.
-/

namespace PoolRouting

/-- Simulates every route. A failure that is local to its route drops that route; any other failure,
the first in the order of the routes, fails the whole. -/
def simulateAll (direction : SwapDirection) : List Route → Except RouterError (List SimulatedRoute)
  | [] => .ok []
  | route :: rest =>
    match route.simulate direction with
    | .ok simulated => (simulateAll direction rest).map fun later => simulated :: later
    | .error error => if error.isRouteLocal then simulateAll direction rest else .error error

namespace SimulatedRoute

/-- The amount that the fixed side leaves open, better first. -/
def openAmountOrder (type : SwapType) (left right : SimulatedRoute) : Ordering :=
  match type with
  | .fixedInput => compare right.amountOut left.amountOut
  | .fixedOutput => compare left.amountIn right.amountIn

/-- Better first: the open amount, then fewer hops, then the tokens, then the pool addresses. -/
def order (type : SwapType) (left right : SimulatedRoute) : Ordering :=
  (openAmountOrder type left right).then
    ((compare left.hopCount right.hopCount).then
      ((compare left.route.tokens right.route.tokens).then
        (compare left.route.addresses right.route.addresses)))

/-- The earliest of the best candidates. -/
def best? (type : SwapType) : List SimulatedRoute → Option SimulatedRoute
  | [] => none
  | candidate :: rest =>
    match best? type rest with
    | none => some candidate
    | some other => if (order type candidate other).isLE then some candidate else some other

def select (type : SwapType) (tokenIn tokenOut : TokenId) (candidates : List SimulatedRoute) :
    Except RouterError SimulatedRoute :=
  match best? type candidates with
  | some simulated => .ok simulated
  | none => .error (.noRouteFound tokenIn tokenOut)

end SimulatedRoute
end PoolRouting
