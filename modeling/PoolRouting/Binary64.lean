import PoolRouting.Decimal

/-!
Binary floating point of 64 bits, in exact arithmetic on natural numbers. A magnitude is named by
its rank, the place it takes among all magnitudes in increasing order; the rank is also its bit
pattern. Rank zero is zero, and `infinityRank` stands above every finite magnitude.
-/

namespace PoolRouting.Binary64

/-- The number of magnitudes in one binade. -/
def binade : Nat := 1 <<< 52

def infinityRank : Nat := 2047 * binade

/-- The number `mantissa * 2 ^ exponent`. -/
structure Dyadic where
  mantissa : Nat
  exponent : Int

/-- The magnitude of a rank. Below the first binade the spacing stays constant. -/
def magnitude (rank : Nat) : Dyadic :=
  if rank < binade then ⟨rank, -1074⟩
  else ⟨rank % binade + binade, (rank / binade : Nat) - 1075⟩

def Dyadic.fraction (value : Dyadic) : Fraction :=
  ⟨value.mantissa <<< value.exponent.toNat, 1 <<< (-value.exponent).toNat⟩

/-- Rounds a quotient to the nearest integer, a half to the even neighbour. -/
def roundEven (numerator denominator : Nat) : Nat :=
  let quotient := numerator / denominator
  let twice := 2 * (numerator % denominator)
  if twice < denominator ∨ (twice = denominator ∧ quotient % 2 = 0) then quotient else quotient + 1

/-- The quotient in units of `2 ^ exponent`, as a fraction. -/
def inUnits (value : Fraction) (exponent : Int) : Fraction :=
  ⟨value.numerator <<< (-exponent).toNat, value.denominator <<< exponent.toNat⟩

-- A first guess from the bit lengths is at most one too large.
/-- The exponent at which the fraction has 53 significant bits, or the least exponent there is. -/
def unitExponent (value : Fraction) : Int :=
  let guess := (Nat.log2 value.numerator : Int) - Nat.log2 value.denominator - 52
  let scaled := inUnits value guess
  max (-1074) (if scaled.numerator < binade * scaled.denominator then guess - 1 else guess)

/-- The rank nearest to a fraction; infinity when the fraction is too large. -/
def nearest (value : Fraction) : Nat :=
  if value.numerator = 0 then 0
  else
    let exponent := unitExponent value
    let scaled := inUnits value exponent
    let rank := (exponent + 1074).toNat * binade + roundEven scaled.numerator scaled.denominator
    min rank infinityRank

def ofNat (value : Nat) : Nat := nearest ⟨value, 1⟩

/-! A long number is cut to its 64 leading bits before it is rounded. What is cut off could still
decide a tie, so it leaves a mark in the last bit that is kept. -/

/-- Whether one of the first `words` words of 64 bits has a bit set among its lowest `width`. -/
def marked (width words value : Nat) : Bool :=
  match words with
  | 0 => false
  | words + 1 => value % (1 <<< width) != 0 || marked width words (value >>> 64)

-- Each word below the cut is looked at only as far as the leading word is wide; a lone bit above
-- that leaves no mark, and a tie it should have decided goes to the even neighbour.
/-- The 64 leading bits, the last of them set where something marked was cut off. -/
def leading (value : Nat) : Dyadic :=
  let cut := Nat.log2 value + 1 - 64
  let kept := value >>> cut
  let width := Nat.log2 value % 64 + 1
  ⟨if kept % 2 = 0 ∧ marked width ((cut + 63) / 64) value then kept + 1 else kept, cut⟩

/-- The double of a number of any length. -/
def ofLong (value : Nat) : Nat := nearest (leading value).fraction

/-- The product; not a number for zero times infinity. -/
def multiply (left right : Nat) : Option Nat :=
  if left = infinityRank ∨ right = infinityRank then
    if left = 0 ∨ right = 0 then none else some infinityRank
  else
    let a := (magnitude left).fraction
    let b := (magnitude right).fraction
    some (nearest ⟨a.numerator * b.numerator, a.denominator * b.denominator⟩)

/-- The quotient; not a number for two zeros or two infinities. -/
def divide (left right : Nat) : Option Nat :=
  if left = infinityRank then if right = infinityRank then none else some infinityRank
  else if right = infinityRank then some 0
  else if right = 0 then if left = 0 then none else some infinityRank
  else
    let a := (magnitude left).fraction
    let b := (magnitude right).fraction
    some (nearest ⟨a.numerator * b.denominator, a.denominator * b.numerator⟩)

/-- The distance to one. -/
def distanceToOne (rank : Nat) : Nat :=
  if rank = infinityRank then infinityRank
  else
    let a := (magnitude rank).fraction
    nearest ⟨max a.numerator a.denominator - min a.numerator a.denominator, a.denominator⟩

/-- Sixteen hexadecimal digits of the bit pattern of a magnitude. -/
def bits (rank : Nat) : String := String.ofList (Nat.toDigits 16 rank |> fun digits =>
  List.replicate (16 - digits.length) '0' ++ digits)

example : nearest ⟨1, 10⟩ = 0x3FB999999999999A := by decide +kernel
example : nearest ⟨1, 2 ^ 1075⟩ = 0 := by decide +kernel
example : ofNat (2 ^ 1024) = infinityRank := by decide +kernel
example : ofLong (2 ^ 127 + 2 ^ 74 + 1) = ofNat (2 ^ 127 + 2 ^ 75) := by decide +kernel
example : ofLong (2 ^ 60 * (2 ^ 127 + 2 ^ 74 + 1)) = ofNat (2 ^ 187) := by decide +kernel

end PoolRouting.Binary64
