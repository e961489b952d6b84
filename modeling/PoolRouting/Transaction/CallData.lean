import PoolRouting.Text.Hex
import PoolRouting.Text.Split

/-!
Call data of a transaction: a function name and its arguments, each in hexadecimal behind a
separator. An amount of zero is an empty argument.
-/

namespace PoolRouting

/-- A function of a contract with the raw bytes of its arguments. -/
structure Call where
  function : String
  arguments : List (List UInt8)
  deriving DecidableEq

namespace Call

def separator : Char := '@'

def chars (call : Call) : List Char :=
  call.function.toList ++ call.arguments.flatMap fun bytes => separator :: Text.hexChars bytes

def text (call : Call) : String := String.ofList call.chars

/-- Reads call data back: what stands before the first separator is the function. -/
def ofChars? (text : List Char) : Option Call :=
  match Text.split separator text with
  | [] => none
  | function :: arguments =>
    (arguments.mapM Text.bytesOfHex?).map fun arguments => ⟨String.ofList function, arguments⟩

/-- An argument that names something. -/
def name (value : String) : List UInt8 := Text.utf8 value

/-- An argument that counts something. -/
def count (value : Nat) : List UInt8 := Text.natBytes value

end Call
end PoolRouting
