import PoolRouting.Amount

/-!
Decimals: a sign, a mantissa of at most 96 bits and a scale of at most 28 places. Two decimals of
one value may differ in scale (`0.01` and `0.010`), and a zero may carry a sign; comparison goes by
value, so neither difference is seen by it.
-/

namespace PoolRouting

/-- The decimal `± mantissa / 10 ^ scale`. -/
structure Decimal where
  negative : Bool
  mantissa : Nat
  scale : Nat
  mantissa_le : mantissa ≤ 79228162514264337593543950335
  scale_le : scale ≤ 28
  deriving DecidableEq

namespace Decimal

def maxMantissa : Nat := 79228162514264337593543950335

def maxScale : Nat := 28

theorem max_mantissa_eq : maxMantissa = (1 <<< 96) - 1 := by decide

/-- The whole number `mantissa`. -/
def whole (negative : Bool) (mantissa : Nat) (fits : mantissa ≤ maxMantissa) : Decimal :=
  ⟨negative, mantissa, 0, fits, Nat.zero_le _⟩

def zero : Decimal := whole false 0 (by decide)

def one : Decimal := whole false 1 (by decide)

/-- The largest decimal. -/
def largest : Decimal := whole false maxMantissa (Nat.le_refl _)

def isZero (value : Decimal) : Bool := value.mantissa == 0

/-- The mantissa with its sign. -/
def signed (value : Decimal) : Int :=
  if value.negative then -(value.mantissa : Int) else value.mantissa

-- Both sides are brought to the product of the two denominators, so no place is lost.
/-- Compares by value, whatever the scales. -/
def order (left right : Decimal) : Ordering :=
  compare (left.signed * (placeValue right.scale : Int))
    (right.signed * (placeValue left.scale : Int))

/-- Equality of value. -/
def sameValue (left right : Decimal) : Bool := (order left right).isEq

/-- The later of two decimals in the order; of two equal ones the second. -/
def larger (left right : Decimal) : Decimal := if (order left right).isGT then left else right

end Decimal

/-- An unreduced fraction of natural numbers. -/
structure Fraction where
  numerator : Nat
  denominator : Nat
  deriving DecidableEq

/-- A decimal below zero has no fraction; a zero has one, whatever its sign. -/
def Decimal.fraction? (value : Decimal) : Option Fraction :=
  if value.signed < 0 then none else some ⟨value.mantissa, placeValue value.scale⟩

end PoolRouting
