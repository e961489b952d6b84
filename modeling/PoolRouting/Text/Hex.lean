/-!
Bytes as pairs of lowercase hexadecimal digits, and natural numbers as big-endian bytes without
leading zeros. Zero has no bytes at all.
-/

namespace PoolRouting.Text

def hexDigit (value : Nat) : Char := Nat.digitChar value

def hexChars : List UInt8 → List Char
  | [] => []
  | byte :: rest => hexDigit (byte.toNat / 16) :: hexDigit (byte.toNat % 16) :: hexChars rest

def hex (bytes : List UInt8) : String := String.ofList (hexChars bytes)

/-- The value of a lowercase digit. -/
def hexDigitValue? (c : Char) : Option Nat :=
  if c.isDigit then some (c.toNat - '0'.toNat)
  else if 'a' ≤ c ∧ c ≤ 'f' then some (c.toNat - 'a'.toNat + 10)
  else none

/-- Reads pairs of lowercase digits. -/
def bytesOfHex? : List Char → Option (List UInt8)
  | [] => some []
  | [_] => none
  | high :: low :: rest =>
    match hexDigitValue? high, hexDigitValue? low with
    | some high, some low => (bytesOfHex? rest).map (UInt8.ofNat (high * 16 + low) :: ·)
    | _, _ => none

def natBytes (value : Nat) : List UInt8 :=
  if value = 0 then [] else natBytes (value / 256) ++ [UInt8.ofNat (value % 256)]

def natOfBytes (bytes : List UInt8) : Nat :=
  bytes.foldl (fun value byte => value * 256 + byte.toNat) 0

/-- The bytes of a text in UTF-8. -/
def utf8 (text : String) : List UInt8 := text.toUTF8.data.toList

example : hex (natBytes 15) = "0f" := by decide +kernel
example : hex (natBytes 0) = "" := by decide +kernel

end PoolRouting.Text
