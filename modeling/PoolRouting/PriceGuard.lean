import PoolRouting.Token
import PoolRouting.Decimal

/-!
The price guard compares the rate of a quote with reference prices. With `R` the price paid for the
bought token over its reference price, the bought side deviates by `|R - 1|` and the sold side by
`|1 / R - 1|`, both in percent. A deviation is advice and blocks nothing.
-/

namespace PoolRouting

/-- One side of a swap with its reference price. -/
structure PricedAmount where
  amount : Amount
  decimals : Nat
  price : Decimal

structure PriceDeviation where
  tokenIn : Decimal
  tokenOut : Decimal
  deriving DecidableEq

namespace PriceGuard

/-- Places kept on a percentage. -/
def places : Nat := 6

/-- `difference / base` in percent, truncated; a percentage too large for a decimal is the largest
decimal. -/
def percent (difference base : Nat) : Decimal :=
  let mantissa := difference * 100 * placeValue places / base
  if fits : mantissa ≤ Decimal.maxMantissa then ⟨false, mantissa, places, fits, by decide⟩
  else Decimal.largest

/-- `none` without a price or an amount on either side. -/
def deviation (sold bought : PricedAmount) : Option PriceDeviation :=
  if sold.price.isZero || bought.price.isZero || sold.amount == 0 || bought.amount == 0 then none
  else
    sold.price.fraction?.bind fun priceIn =>
      bought.price.fraction?.map fun priceOut =>
        let paid :=
          priceIn.numerator * sold.amount * placeValue bought.decimals * priceOut.denominator
        let reference :=
          priceOut.numerator * bought.amount * placeValue sold.decimals * priceIn.denominator
        let difference := max paid reference - min paid reference
        ⟨percent difference paid, percent difference reference⟩

end PriceGuard

/-- The larger of the two sides. -/
def PriceDeviation.worst (deviation : PriceDeviation) : Decimal :=
  Decimal.larger deviation.tokenIn deviation.tokenOut

namespace PriceGuard

/-- The deviation of a quote that strays further than allowed. -/
def flagged (sold bought : PricedAmount) (allowed : Decimal) : Option Decimal :=
  ((deviation sold bought).map PriceDeviation.worst).filter fun worst =>
    (Decimal.order worst allowed).isGT

end PriceGuard
end PoolRouting
