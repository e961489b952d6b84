import PoolRouting.Decimal

/-!
The written form of a decimal: a minus sign if the decimal carries one, the integer part, and as
many fraction digits as the scale says. The scale is thereby kept.
-/

namespace PoolRouting.Decimal

/-- Zeros in front, up to `width` characters. -/
def padded (width : Nat) (digits : List Char) : List Char :=
  List.replicate (width - digits.length) '0' ++ digits

/-- A point is set so that `places` digits follow it; without places there is no point. -/
def pointed (places : Nat) (digits : List Char) : List Char :=
  let all := padded (places + 1) digits
  let cut := all.length - places
  if places = 0 then all else all.take cut ++ '.' :: all.drop cut

def chars (value : Decimal) : List Char :=
  let digits := pointed value.scale (Nat.toDigits 10 value.mantissa)
  if value.negative then '-' :: digits else digits

def text (value : Decimal) : String := String.ofList value.chars

example : text ⟨false, 10, 3, by decide, by decide⟩ = "0.010" := by decide
example : text ⟨true, 0, 2, by decide, by decide⟩ = "-0.00" := by decide

end PoolRouting.Decimal
