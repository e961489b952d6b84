import PoolRouting.Token

/-!
The raw key behind an address. An address is a Bech32 or Bech32m text: a readable part, the
separator `1`, and five-bit symbols of which the last six are a checksum.
-/

namespace PoolRouting.Address

def alphabet : List Char := "qpzry9x8gf2tvdw0s3jn54khce6mua7l".toList

def lowered (c : Char) : Char := if c.isUpper then c.toLower else c

/-- The five bits that a symbol stands for, in either case. -/
def symbol? (c : Char) : Option Nat := alphabet.idxOf? (lowered c)

def generators : List Nat := [0x3b6a57b2, 0x26508e6d, 0x1ea119fa, 0x3d4233dd, 0x2a1462b3]

/-- The generators whose bit is set in the symbol that leaves the register. -/
def feedback (top : Nat) (position : Nat) : List Nat → Nat
  | [] => 0
  | generator :: rest =>
    (if top.testBit position then generator else 0) ^^^ feedback top (position + 1) rest

/-- The checksum register of thirty bits after one more symbol. -/
def shiftIn (register value : Nat) : Nat :=
  ((register % (1 <<< 25)) * 32 ^^^ value) ^^^ feedback (register >>> 25) 0 generators

def checksum (values : List Nat) : Nat := values.foldl shiftIn 1

/-- The readable part enters the checksum with its high bits, a zero, and its low bits. -/
def expanded (readable : List Char) : List Nat :=
  let codes := readable.map fun c => (lowered c).toNat
  codes.map (· / 32) ++ 0 :: codes.map (· % 32)

/-- The checksums of the two variants. -/
def accepted : List Nat := [1, 0x2bc830a3]

-- The bits of an unfinished byte are dropped unchecked.
/-- Regroups five-bit symbols into bytes; `width` bits are pending. -/
def regroup (pending width : Nat) : List Nat → List UInt8
  | [] => []
  | value :: rest =>
    let bits := pending * 32 + value
    let width := width + 5
    if 8 ≤ width then
      UInt8.ofNat (bits >>> (width - 8)) ::
        regroup (bits % (1 <<< (width - 8))) (width - 8) rest
    else regroup bits width rest

def isReadable (c : Char) : Bool := decide (33 ≤ c.toNat ∧ c.toNat ≤ 126)

def oneCase (text : List Char) : Bool := !(text.any Char.isUpper && text.any Char.isLower)

/-- The readable part and the symbols, cut at the last separator. -/
def split? (text : List Char) : Option (List Char × List Char) :=
  let symbols := (text.reverse.takeWhile (· ≠ '1')).reverse
  match text.reverse.dropWhile (· ≠ '1') with
  | [] => none
  | _ :: readable => some (readable.reverse, symbols)

def decode? (text : List Char) : Option (List UInt8) :=
  (split? text).bind fun (readable, symbols) =>
    (symbols.mapM symbol?).bind fun values =>
      if oneCase text ∧ readable.all isReadable ∧ 1 ≤ readable.length ∧ readable.length ≤ 83 ∧
          6 ≤ values.length ∧ text.length ≤ 1023 ∧ checksum (expanded readable ++ values) ∈ accepted
      then some (regroup 0 0 (values.take (values.length - 6)))
      else none

def bytes? (address : Address) : Option (List UInt8) := decode? address.text.toList

/-- A contract has a key of 32 bytes that opens with eight zeros. -/
def isContract (address : Address) : Bool :=
  match address.bytes? with
  | some bytes => bytes.length = 32 && (bytes.take 8).all (· = 0)
  | none => false

end PoolRouting.Address
