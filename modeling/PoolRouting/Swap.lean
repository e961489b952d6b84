import PoolRouting.Failure

/-!
What a caller asks for: two tokens, at most one fixed amount, and a slippage tolerance.
-/

namespace PoolRouting

/-- The side of the swap whose amount is fixed. -/
inductive SwapType where
  | fixedInput
  | fixedOutput
  deriving DecidableEq

def SwapType.text : SwapType → String
  | .fixedInput => "FixedInput"
  | .fixedOutput => "FixedOutput"

def SwapType.display : SwapType → String
  | .fixedInput => "fixed-input"
  | .fixedOutput => "fixed-output"

/-- The fixed side with its amount. -/
structure SwapDirection where
  type : SwapType
  amount : Amount
  deriving DecidableEq

namespace SwapDirection

/-- Without either amount the direction is left open. -/
def ofAmounts? : Option Amount → Option Amount → Except RouterError (Option SwapDirection)
  | some _, some _ => .error (.invalidAmount .bothSides)
  | some amount, none => .ok (some ⟨.fixedInput, amount⟩)
  | none, some amount => .ok (some ⟨.fixedOutput, amount⟩)
  | none, none => .ok none

def validate (direction : SwapDirection) : Except RouterError Unit :=
  if direction.amount = 0 then .error (.invalidAmount .zero) else .ok ()

end SwapDirection

structure SwapRequest where
  tokenIn : TokenId
  tokenOut : TokenId
  amountIn : Option Amount
  amountOut : Option Amount
  tolerance : Decimal
  deriving DecidableEq

end PoolRouting
