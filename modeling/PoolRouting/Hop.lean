import PoolRouting.Failure

/-!
One trade against one pool. The product of the reserves may not fall: outputs are rounded down and
inputs up, after the fee has been taken from the input.
-/

namespace PoolRouting

/-- The pool passes on `keep / denominator` of every input. -/
structure FeeRatio where
  keep : Nat
  denominator : Nat
  deriving DecidableEq

/-- A fee must be a fraction in `[0, 1)`. -/
def FeeRatio.ofDecimal? (fee : Decimal) : Option FeeRatio :=
  fee.fraction?.bind fun fraction =>
    if fraction.denominator ≤ fraction.numerator then none
    else some ⟨fraction.denominator - fraction.numerator, fraction.denominator⟩

namespace Hop

/-- The quotient rounded up. -/
def divideUp (numerator denominator : Nat) : Nat := (numerator + denominator - 1) / denominator

/-- The amount bought for an amount sold. -/
def output (reserves : Reserves) (fee : FeeRatio) (input : Amount) : Except HopError Amount :=
  if reserves.input = 0 ∨ reserves.output = 0 then .error .insufficientLiquidity
  else if input = 0 then .ok 0
  else
    let kept := input * fee.keep
    let bought := reserves.output * kept / (reserves.input * fee.denominator + kept)
    if reserves.output ≤ bought then .error .insufficientLiquidity else .ok bought

/-- The least amount to sell for an amount bought. -/
def input (reserves : Reserves) (fee : FeeRatio) (output : Amount) : Except HopError Amount :=
  if reserves.input = 0 ∨ reserves.output ≤ output then .error .insufficientLiquidity
  else if output = 0 then .ok 0
  else if fee.keep = 0 then .error .insufficientLiquidity
  else
    .ok (divideUp (reserves.input * output * fee.denominator)
      ((reserves.output - output) * fee.keep))

end Hop

/-- Units bought per whole token sold, at the rate of a trade; nothing sold has no rate. -/
def exchangeRate (sold bought : Amount) (decimals : Nat) : Amount :=
  if sold = 0 then 0 else bought * placeValue decimals / sold

/-- The fraction digits of a denominated amount without trailing zeros. -/
def trimZeros (digits : List Char) : List Char :=
  (digits.reverse.dropWhile (· = '0')).reverse

/-- An amount in whole tokens: at least one digit before the point, no trailing zeros behind it. -/
def denominate (amount : Amount) (decimals : Nat) : String :=
  let digits := Decimal.padded (decimals + 1) (Nat.toDigits 10 amount)
  let cut := digits.length - decimals
  let fraction := trimZeros (digits.drop cut)
  String.ofList (if fraction.isEmpty then digits.take cut else digits.take cut ++ '.' :: fraction)

example : denominate 1246248446862 18 = "0.000001246248446862" := by decide +kernel
example : denominate 1500000 6 = "1.5" := by decide +kernel

end PoolRouting
