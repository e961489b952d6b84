import PoolRouting.Binary64
import PoolRouting.Pool

/-!
The price impact of a trade in percent, a figure for logs only, in binary floating point.
-/

namespace PoolRouting

-- With x the spot price over the price paid, the impact is |(x - 1) / x| * 100.
/-- The rank of the impact; `none` where it is not a number. -/
def priceImpact (reserves : Reserves) (sold bought : Amount) : Option Nat :=
  if sold = 0 ∨ bought = 0 ∨ reserves.input = 0 then some 0
  else
    let spot := Binary64.ofLong (reserves.output * sold)
    let paid := Binary64.ofLong (reserves.input * bought)
    (Binary64.divide spot paid).bind fun ratio =>
      if ratio = 0 then some 0
      else
        (Binary64.divide (Binary64.distanceToOne ratio) ratio).bind fun share =>
          Binary64.multiply share (Binary64.ofNat 100)

end PoolRouting
