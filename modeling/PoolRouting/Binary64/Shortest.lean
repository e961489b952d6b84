import PoolRouting.Binary64
import PoolRouting.Decimal.Text

/-!
The shortest decimal numeral that reads back as a given double: of all numerals inside the interval
that rounds to the double, one on the coarsest decimal grid, and of two such the nearer. Writers
differ in which one they take if both are equally near.
-/

namespace PoolRouting.Binary64

/-- The reals that round to a magnitude, in units of `2 ^ exponent`; the ends belong to it for an
even rank. -/
structure Interval where
  low : Nat
  value : Nat
  high : Nat
  closed : Bool
  exponent : Int

-- One unit is half the spacing below the magnitude, so all three numbers are whole.
def interval (rank : Nat) : Interval :=
  let before := magnitude (rank - 1)
  let here := magnitude rank
  let after := magnitude (rank + 1)
  let exponent := before.exponent - 1
  let units (d : Dyadic) : Nat := d.mantissa <<< (d.exponent - exponent).toNat
  ⟨(units before + units here) / 2, units here, (units here + units after) / 2, rank % 2 == 0,
    exponent⟩

/-- The numeral `digits * 10 ^ place`. -/
structure Scaled where
  digits : Nat
  place : Int

/-- Which of two equally near neighbours on a grid is taken. -/
inductive Tie where
  | upper
  | even
  deriving DecidableEq

/-- Whether a tie above the grid point `below` goes up. -/
def Tie.goesUp (below : Nat) : Tie → Bool
  | .upper => true
  | .even => below % 2 == 1

/-- A multiple of `2 ^ exponent` and a multiple of `10 ^ place`, over one denominator. -/
def twoUnits (exponent place : Int) : Nat × Nat :=
  (placeValue (-place).toNat <<< exponent.toNat, placeValue place.toNat <<< (-exponent).toNat)

/-- The point of the grid `10 ^ place` inside the interval that is nearest to the value. -/
def gridPoint? (tie : Tie) (range : Interval) (place : Int) : Option Scaled :=
  let (binary, decimal) := twoUnits range.exponent place
  let inside (digits : Nat) : Bool :=
    let point := digits * decimal
    let low := range.low * binary
    let high := range.high * binary
    let atEnd := point == low || point == high
    digits != 0 && ((low < point && point < high) || (range.closed && atEnd))
  let value := range.value * binary
  let below := value / decimal
  let down := value - below * decimal
  let up := (below + 1) * decimal - value
  let goesUp := decide (up < down) || (up == down && tie.goesUp below)
  match inside below, inside (below + 1) with
  | true, true => some ⟨if goesUp then below + 1 else below, place⟩
  | true, false => some ⟨below, place⟩
  | false, true => some ⟨below + 1, place⟩
  | false, false => none

-- No double reaches 10^309, and below 10^-342 every grid is finer than the least interval.
/-- Decimal places from the coarsest to the finest. -/
def places : List Int := (List.range 652).map fun step : Nat => 309 - (step : Int)

/-- The shortest numeral of a finite magnitude above zero. The exact expansion always reads back. -/
def shortest (tie : Tie) (rank : Nat) : Scaled :=
  let exact := magnitude rank
  (places.findSome? (gridPoint? tie (interval rank))).getD
    ⟨(exact.mantissa <<< exact.exponent.toNat) * Nat.pow 5 (-exact.exponent).toNat,
      min 0 exact.exponent⟩

/-- Positional text: zeros fill up to the point on either side. -/
def Scaled.chars (value : Scaled) : List Char :=
  Decimal.pointed (-value.place).toNat
    (Nat.toDigits 10 value.digits ++ List.replicate value.place.toNat '0')

/-- The shortest positional numeral of a finite double, the upper one of two equally near. -/
def chars (negative : Bool) (rank : Nat) : List Char :=
  let digits := if rank = 0 then ['0'] else (shortest .upper rank).chars
  if negative then '-' :: digits else digits

end PoolRouting.Binary64
