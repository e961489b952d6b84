import PoolRouting.Json
import PoolRouting.Binary64
import PoolRouting.Decimal.Scientific

/-!
Tokens of JSON text. The text is read one character at a time; the mode says what the character
belongs to. A string token carries the text it denotes, if any; a bare literal carries its value.
-/

namespace PoolRouting.Json

inductive Token where
  | openArray
  | closeArray
  | openObject
  | closeObject
  | comma
  | colon
  | string (text : Option String)
  | literal (value : Json)

/-! Strings. An escape may name half of a surrogate pair, so a string is collected in code units
that are either whole characters or halves, and halves are joined at the end. -/

def isLead (unit : Nat) : Bool := decide (0xD800 ≤ unit ∧ unit ≤ 0xDBFF)

def isTrail (unit : Nat) : Bool := decide (0xDC00 ≤ unit ∧ unit ≤ 0xDFFF)

/-- Joins surrogate pairs; a half without its partner denotes nothing. -/
def joinUnits : List Nat → Option (List Char)
  | [] => some []
  | lead :: rest =>
    if isLead lead then
      match rest with
      | trail :: rest =>
        if isTrail trail then
          (joinUnits rest).map
            (Char.ofNat (0x10000 + (lead - 0xD800) * 0x400 + (trail - 0xDC00)) :: ·)
        else none
      | [] => none
    else if isTrail lead then none
    else (joinUnits rest).map (Char.ofNat lead :: ·)

def ofUnits (units : List Nat) : Option String := (joinUnits units).map String.ofList

/-- What a single character after a backslash stands for. -/
def escaped? : Char → Option Char
  | '"' => some '"'
  | '\\' => some '\\'
  | '/' => some '/'
  | 'b' => some '\x08'
  | 'f' => some '\x0c'
  | 'n' => some '\n'
  | 'r' => some '\r'
  | 't' => some '\t'
  | _ => none

def hexValue? (c : Char) : Option Nat :=
  if c.isDigit then some (c.toNat - '0'.toNat)
  else if 'a' ≤ c ∧ c ≤ 'f' then some (c.toNat - 'a'.toNat + 10)
  else if 'A' ≤ c ∧ c ≤ 'F' then some (c.toNat - 'A'.toNat + 10)
  else none

/-! Numbers. -/

/-- A number literal by its parts; a part that is absent has no digits. -/
structure Numeral where
  negative : Bool
  whole : List Char
  fraction : List Char
  exponent : Int
  integral : Bool

def digitsOf (text : List Char) : List Char × List Char :=
  (text.takeWhile Char.isDigit, text.dropWhile Char.isDigit)

/-- No digits, or a zero in front of others, make no integer part. -/
def wellFormedWhole : List Char → Bool
  | [] => false
  | ['0'] => true
  | '0' :: _ => false
  | _ => true

/-- The digits of an exponent after its mark and sign. -/
def exponentPart? : List Char → Option Int
  | '-' :: digits => (Decimal.natural? digits).map fun n => -(n : Int)
  | '+' :: digits => (Decimal.natural? digits).map Int.ofNat
  | digits => (Decimal.natural? digits).map Int.ofNat

def fractionPart? : List Char → Option (List Char × List Char)
  | '.' :: rest =>
    let (digits, rest) := digitsOf rest
    if digits.isEmpty then none else some (digits, rest)
  | rest => some ([], rest)

def Numeral.ofChars? (text : List Char) : Option Numeral :=
  let (negative, text) := match text with
    | '-' :: rest => (true, rest)
    | _ => (false, text)
  let (whole, rest) := digitsOf text
  if wellFormedWhole whole then
    (fractionPart? rest).bind fun (fraction, rest) =>
      match rest with
      | [] => some ⟨negative, whole, fraction, 0, fraction.isEmpty⟩
      | mark :: rest =>
        if Decimal.isExponentMark mark then
          (exponentPart? rest).map fun exponent => ⟨negative, whole, fraction, exponent, false⟩
        else none
  else none

def maxSignificand : Nat := UInt64.size - 1

/-- Appends digits to a significand as long as 64 bits hold it. The second part counts the digits
taken. -/
def takeDigits (significand : Nat) : List Char → Nat × Nat
  | [] => (significand, 0)
  | c :: rest =>
    let next := significand * 10 + (c.toNat - '0'.toNat)
    if next ≤ maxSignificand then
      let (value, taken) := takeDigits next rest
      (value, taken + 1)
    else (significand, 0)

def powerOfTen (places : Nat) : Nat := Binary64.ofNat (placeValue places)

-- Zero stays zero, so the steps end long before the places run out.
/-- Divides by a power of ten in steps of at most 10^308. -/
def shrink (rank places : Nat) : Nat :=
  if places ≤ 308 then (Binary64.divide rank (powerOfTen places)).getD 0
  else if rank = 0 then 0
  else shrink ((Binary64.divide rank (powerOfTen 308)).getD 0) (places - 308)
termination_by places

def grow? (rank places : Nat) : Option Nat :=
  if rank = 0 then some 0
  else if 308 < places then none
  else (Binary64.multiply rank (powerOfTen places)).filter (· < Binary64.infinityRank)

/-- A number that is no integer is read with two roundings: the leading digits that 64 bits hold are
rounded to a double, and this is multiplied or divided by the double next to the power of ten. -/
def Numeral.rank? (numeral : Numeral) : Option Nat :=
  let (wholeValue, wholeTaken) := takeDigits 0 numeral.whole
  let (significand, fractionTaken) := takeDigits wholeValue numeral.fraction
  let exponent := numeral.exponent + (numeral.whole.length - wholeTaken : Nat) - fractionTaken
  let rank := Binary64.ofNat significand
  if exponent < 0 then some (shrink rank (-exponent).toNat) else grow? rank exponent.toNat

-- A negative zero is a double: no integer carries its sign.
/-- An integer of 64 bits, signed or unsigned, is exact. -/
def Numeral.integer? (numeral : Numeral) : Option Int :=
  let value := Nat.ofDigitChars 10 numeral.whole 0
  if numeral.integral then
    if numeral.negative then if 0 < value ∧ value ≤ 1 <<< 63 then some (-(value : Int)) else none
    else if value ≤ maxSignificand then some value else none
  else none

def Numeral.value (numeral : Numeral) : Json :=
  match numeral.integer? with
  | some value => .integer value
  | none =>
    match numeral.rank? with
    | some rank => .double numeral.negative rank
    | none => .unreadable

/-- A literal without quotes. -/
def bare? (text : List Char) : Option Json :=
  if text = "null".toList then some .null
  else if text = "true".toList then some (.bool true)
  else if text = "false".toList then some (.bool false)
  else (Numeral.ofChars? text).map Numeral.value

/-! The text as a whole. -/

def isSpace (c : Char) : Bool := c = ' ' || c = '\t' || c = '\n' || c = '\r'

def punctuation? : Char → Option Token
  | '[' => some .openArray
  | ']' => some .closeArray
  | '{' => some .openObject
  | '}' => some .closeObject
  | ',' => some .comma
  | ':' => some .colon
  | _ => none

/-- Where the reader stands. Collected parts are kept in reverse. -/
inductive Mode where
  | between
  | bare (chars : List Char)
  | string (units : List Nat)
  | escape (units : List Nat)
  | hex (units : List Nat) (missing value : Nat)

/-- A character between two tokens. -/
def start? (c : Char) : Option (Mode × List Token) :=
  if isSpace c then some (.between, [])
  else if c = '"' then some (.string [], [])
  else
    match punctuation? c with
    | some token => some (.between, [token])
    | none => some (.bare [c], [])

-- A bare literal has no end mark of its own: the first character that cannot belong to it ends it.
def next? (mode : Mode) (c : Char) : Option (Mode × List Token) :=
  match mode with
  | .between => start? c
  | .bare chars =>
    if isSpace c || c = '"' || (punctuation? c).isSome then
      (bare? chars.reverse).bind fun value =>
        (start? c).map fun (mode, tokens) => (mode, .literal value :: tokens)
    else some (.bare (c :: chars), [])
  | .string units =>
    if c = '"' then some (.between, [.string (ofUnits units.reverse)])
    else if c = '\\' then some (.escape units, [])
    else if c.toNat < 0x20 then none
    else some (.string (c.toNat :: units), [])
  | .escape units =>
    if c = 'u' then some (.hex units 4 0, [])
    else (escaped? c).map fun plain => (.string (plain.toNat :: units), [])
  | .hex units missing value =>
    (hexValue? c).map fun digit =>
      let value := value * 16 + digit
      if missing ≤ 1 then (.string (value :: units), []) else (.hex units (missing - 1) value, [])

/-- The tokens of a text, given those before it in reverse. -/
def tokens? (mode : Mode) (before : List Token) : List Char → Option (List Token)
  | [] =>
    match mode with
    | .between => some before.reverse
    | .bare chars => (bare? chars.reverse).map fun value => (Token.literal value :: before).reverse
    | _ => none
  | c :: rest =>
    match next? mode c with
    | some (mode, found) => tokens? mode (found.reverse ++ before) rest
    | none => none

end PoolRouting.Json
