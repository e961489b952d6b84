import PoolRouting.Decimal

/-!
Reading a decimal in positional notation: an optional sign, then digits with at most one point,
underscores allowed once a digit has been read. Fraction digits that no longer fit are rounded away
at the first of them, half up.
-/

namespace PoolRouting.Decimal

/-- Why a text is no decimal. -/
inductive NumeralError where
  | empty
  | noDigits
  | secondPoint
  | leadingUnderscore
  | unknownCharacter
  | tooManyDigits
  | roundingOverflow
  | malformed
  | exponentTooLarge (exponent : Nat)
  | outOfRange
  deriving DecidableEq

def NumeralError.message : NumeralError → String
  | .empty => "Invalid decimal: empty"
  | .noDigits => "Invalid decimal: no digits found"
  | .secondPoint => "Invalid decimal: two decimal points"
  | .leadingUnderscore => "Invalid decimal: must start lead with a number"
  | .unknownCharacter => "Invalid decimal: unknown character"
  | .tooManyDigits => "Invalid decimal: overflow from too many digits"
  | .roundingOverflow => "Invalid decimal: overflow from mantissa after rounding"
  | .malformed => "Failed to parse"
  | .exponentTooLarge exponent =>
      s!"Scale exceeds the maximum precision allowed: {exponent} > {maxScale}"
  | .outOfRange => "Number exceeds maximum value that can be represented."

/-- What has been read of a numeral: its digits so far fit a mantissa. -/
structure Digits where
  mantissa : Nat
  scale : Nat
  point : Bool
  started : Bool
  mantissa_le : mantissa ≤ maxMantissa
  scale_le : scale ≤ maxScale

def Digits.empty : Digits := ⟨0, 0, false, false, Nat.zero_le _, Nat.zero_le _⟩

/-- A zero never keeps a minus sign. -/
def Digits.close (negative : Bool) (digits : Digits) : Except NumeralError Decimal :=
  if digits.started then
    .ok ⟨negative && digits.mantissa != 0, digits.mantissa, digits.scale, digits.mantissa_le,
      digits.scale_le⟩
  else .error .noDigits

/-- What is wrong with a character that cannot continue a numeral. -/
def misplaced (c : Char) : NumeralError :=
  if c = '.' then .secondPoint
  else if c = '_' then .leadingUnderscore
  else .unknownCharacter

/-- Past the rounding digit only digits and underscores may follow. -/
def dropped : List Char → Except NumeralError Unit
  | [] => .ok ()
  | c :: rest => if c.isDigit || c = '_' then dropped rest else .error (misplaced c)

-- Rounding up the largest mantissa costs one more place: the carry is rounded in turn.
/-- Rounds at the first digit that does not fit. -/
def Digits.rounded (digits : Digits) (next : Nat) : Except NumeralError Digits :=
  let up := if 5 ≤ next then digits.mantissa + 1 else digits.mantissa
  if fits : up ≤ maxMantissa then
    .ok { digits with mantissa := up, mantissa_le := fits }
  else if digits.scale = 0 then .error .roundingOverflow
  else
    .ok { digits with
      mantissa := (up + 4) / 10
      scale := digits.scale - 1
      mantissa_le := by
        have bound := digits.mantissa_le
        simp only [maxMantissa, up] at bound ⊢
        split <;> omega
      scale_le := by
        have bound := digits.scale_le
        omega }

/-- A mantissa from here on is long: one more digit could need more than 64 bits. -/
def longFrom : Nat := (UInt64.size - 1) / 10 - 255

/-- All places are taken, and the mantissa was not long before the last of them. -/
def Digits.isShort (digits : Digits) : Bool :=
  digits.point && digits.scale == maxScale && decide (digits.mantissa / 10 < longFrom)

-- Behind the last place of a short mantissa an underscore stands for the rounding digit, a zero;
-- everywhere else it is passed over.
/-- Reads the digits left to right and stops at the first one that no longer fits. -/
def readDigits (negative : Bool) (digits : Digits) : List Char → Except NumeralError Decimal
  | [] => digits.close negative
  | c :: rest =>
    if c.isDigit then
      let next := c.toNat - '0'.toNat
      let mantissa := digits.mantissa * 10 + next
      if digits.point then
        if fits : mantissa ≤ maxMantissa ∧ digits.scale < maxScale then
          readDigits negative
            { digits with
              mantissa := mantissa, scale := digits.scale + 1, started := true
              mantissa_le := fits.1, scale_le := fits.2 } rest
        else
          (digits.rounded next).bind fun digits =>
            (dropped rest).bind fun _ => digits.close negative
      else if fits : mantissa ≤ maxMantissa then
        readDigits negative
          { digits with mantissa := mantissa, started := true, mantissa_le := fits } rest
      else .error .tooManyDigits
    else if c = '.' ∧ digits.point = false then
      readDigits negative { digits with point := true } rest
    else if c = '_' ∧ digits.started then
      if digits.isShort then (dropped rest).bind fun _ => digits.close negative
      else readDigits negative digits rest
    else .error (misplaced c)

/-- Reads positional notation. -/
def plain : List Char → Except NumeralError Decimal
  | [] => .error .empty
  | '-' :: rest => readDigits true .empty rest
  | '+' :: rest => readDigits false .empty rest
  | text => readDigits false .empty text

end PoolRouting.Decimal
