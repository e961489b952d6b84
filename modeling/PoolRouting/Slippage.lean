import PoolRouting.Swap

/-!
Slippage bounds: what a tolerance makes of a simulated route. A fixed input may shrink to a least
output; a fixed output may cost more, and the margin is spread over the hops so that the last hop
asks for exactly the output.
-/

namespace PoolRouting

/-- A tolerance lies in `[0, 1)` and carries no minus sign, not even at zero. -/
def validTolerance (tolerance : Decimal) : Bool :=
  !tolerance.negative && (Decimal.order tolerance Decimal.one).isLT

def validateTolerance (tolerance : Decimal) : Except RouterError Unit :=
  if validTolerance tolerance then .ok () else .error (.invalidAmount (.tolerance tolerance))

def toleranceFraction (tolerance : Decimal) : Except RouterError Fraction :=
  (validateTolerance tolerance).bind fun _ =>
    match tolerance.fraction? with
    | some fraction => .ok fraction
    | none => .error (.invalidAmount (.tolerance tolerance))

/-- The amount raised by the tolerance, rounded down. -/
def maxAmountIn (amount : Amount) (tolerance : Decimal) : Except RouterError Amount :=
  (toleranceFraction tolerance).map fun fraction =>
    amount * (fraction.denominator + fraction.numerator) / fraction.denominator

/-- The amount lowered by the tolerance, rounded down. -/
def minAmountOut (amount : Amount) (tolerance : Decimal) : Except RouterError Amount :=
  (toleranceFraction tolerance).map fun fraction =>
    amount * (fraction.denominator - fraction.numerator) / fraction.denominator

/-- The amount to transfer and one limit per hop: the least output to accept for a fixed input, the
output to ask for otherwise. -/
structure SwapBounds where
  amountIn : Amount
  limits : List Amount
  deriving DecidableEq

namespace SwapBounds

-- A limit of zero would accept anything, so the last hop asks for at least one unit.
/-- Only the last of the hops is protected. -/
def lastOnly (least : Amount) : List Amount → List Amount
  | [] => []
  | [_] => [max 1 least]
  | _ :: rest => 1 :: lastOnly least rest

/-- With `r` of `hops` hops still to come the amount is raised by `tolerance * r / hops`. -/
def spread (hops : Nat) (tolerance : Fraction) : List Amount → List Amount
  | [] => []
  | amount :: rest =>
    let scale := hops * tolerance.denominator
    amount * (scale + rest.length * tolerance.numerator) / scale :: spread hops tolerance rest

def compute (type : SwapType) (amounts : List Amount) (tolerance : Decimal) :
    Except RouterError SwapBounds :=
  match amounts with
  | first :: later@(_ :: _) =>
    match type with
    | .fixedInput =>
      (minAmountOut (later.getLast?.getD 0) tolerance).map fun least =>
        ⟨first, lastOnly least later⟩
    | .fixedOutput =>
      (toleranceFraction tolerance).bind fun fraction =>
        (maxAmountIn first tolerance).map fun amountIn =>
          ⟨amountIn, spread later.length fraction later⟩
  | _ => .error (.invalidRoute .tooFewAmounts)

end SwapBounds
end PoolRouting
