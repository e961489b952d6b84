/-!
Amounts are natural numbers of smallest units, without an upper limit. Their written form is the
decimal numeral; the reader also admits one leading plus sign and underscores between digits.
-/

namespace PoolRouting

/-- A count of smallest units of one token. -/
abbrev Amount := Nat

/-- Ten to the power `places`: what a digit counts that has so many places behind it. -/
def placeValue (places : Nat) : Nat := Nat.pow 10 places

theorem place_value_succ (places : Nat) : placeValue (places + 1) = placeValue places * 10 := rfl

theorem place_value_pos (places : Nat) : 0 < placeValue places := Nat.pow_pos (by decide)

namespace Amount

def text (amount : Amount) : String := String.ofList (Nat.toDigits 10 amount)

/-- A digit continues the numeral; an underscore is passed over. -/
def extend? (value : Nat) (c : Char) : Option Nat :=
  if c = '_' then some value
  else if c.isDigit then some (value * 10 + (c.toNat - '0'.toNat))
  else none

def digits? : Nat → List Char → Option Nat
  | value, [] => some value
  | value, c :: rest => (extend? value c).bind fun next => digits? next rest

/-- The numeral may not be empty and may not open with an underscore. -/
def unsigned? : List Char → Option Amount
  | [] => none
  | c :: rest => if c = '_' then none else digits? 0 (c :: rest)

-- A second plus sign is left in place and then refused as a character that is no digit.
def ofChars? : List Char → Option Amount
  | '+' :: rest => unsigned? rest
  | text => unsigned? text

def ofText? (text : String) : Option Amount := ofChars? text.toList

end Amount
end PoolRouting
