import PoolRouting.Decimal.Plain

/-!
Reading a decimal in scientific notation, `base e exponent`, and the reader that callers use: plain
notation first, scientific notation if that fails.
-/

namespace PoolRouting.Decimal

def natural? : List Char → Option Nat
  | [] => none
  | c :: rest =>
    if (c :: rest).all Char.isDigit then some (Nat.ofDigitChars 10 (c :: rest) 0) else none

/-- A natural number below 2^32, one plus sign allowed in front. -/
def exponent? (text : List Char) : Option Nat :=
  let digits := match text with
    | '+' :: rest => rest
    | _ => text
  (natural? digits).filter (· < UInt32.size)

/-- Removes the last `places` digits, half up at the first removed one. -/
def roundOff (places mantissa : Nat) : Nat :=
  match places with
  | 0 => mantissa
  | places + 1 => (mantissa + 5 * placeValue places) / placeValue (places + 1)

theorem round_off_le (places mantissa : Nat) : roundOff places mantissa ≤ mantissa := by
  cases places with
  | zero => exact Nat.le_refl _
  | succ places =>
    have power := place_value_pos places
    simp only [roundOff, place_value_succ]
    rcases Nat.eq_zero_or_pos mantissa with zero | positive
    · subst zero
      exact Nat.le_of_eq (Nat.div_eq_of_lt (by omega))
    · refine Nat.le_of_lt_succ ((Nat.div_lt_iff_lt_mul (by omega)).mpr ?_)
      have grows : mantissa * 1 ≤ mantissa * (placeValue places * 10) :=
        Nat.mul_le_mul_left _ (by omega)
      rw [Nat.succ_mul mantissa]
      omega

-- A shift that would pass the last place rounds the base first; its sign stays even at zero.
/-- Divides by `10 ^ places`. -/
def shiftDown (base : Decimal) (places : Nat) : Except NumeralError Decimal :=
  if maxScale < places then .error (.exponentTooLarge places)
  else if fits : base.scale + places ≤ maxScale then
    .ok { base with scale := base.scale + places, scale_le := fits }
  else
    .ok { base with
      mantissa := roundOff (base.scale + places - maxScale) base.mantissa
      scale := maxScale
      mantissa_le := Nat.le_trans (round_off_le _ _) base.mantissa_le
      scale_le := Nat.le_refl _ }

-- Fraction digits are used up first and keep their trailing zeros; then the mantissa grows.
/-- Multiplies by `10 ^ places`. -/
def shiftUp (base : Decimal) (places : Nat) : Except NumeralError Decimal :=
  if places ≤ base.scale then
    .ok { base with
      scale := base.scale - places
      scale_le := Nat.le_trans (Nat.sub_le _ _) base.scale_le }
  else if maxScale < places then .error (.exponentTooLarge places)
  else
    let mantissa := base.mantissa * placeValue (places - base.scale)
    if fits : mantissa ≤ maxMantissa then .ok (whole base.negative mantissa fits)
    else .error .outOfRange

def isExponentMark (c : Char) : Bool := c = 'e' || c = 'E'

/-- Reads scientific notation; the base is read before the exponent. -/
def scientific (text : List Char) : Except NumeralError Decimal :=
  let base := text.takeWhile fun c => !isExponentMark c
  match text.dropWhile fun c => !isExponentMark c with
  | [] => .error .malformed
  | _ :: exponent =>
    (plain base).bind fun value =>
      match exponent with
      | '-' :: places =>
        match exponent? places with
        | some places => value.shiftDown places
        | none => .error .malformed
      | places =>
        match exponent? places with
        | some places => value.shiftUp places
        | none => .error .malformed

/-- Reads either notation. The error, if any, is that of the scientific one. -/
def read (text : List Char) : Except NumeralError Decimal :=
  match plain text with
  | .ok value => .ok value
  | .error _ => scientific text

def ofText? (text : String) : Option Decimal := (read text.toList).toOption

end PoolRouting.Decimal
