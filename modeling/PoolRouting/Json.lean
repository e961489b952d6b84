/-!
JSON values as the readers of documents see them. An object keeps its fields in the order of the
text, repetitions included. Integers are those of 64 bits, signed or unsigned; every other number is
a double. A literal that the grammar admits but that denotes no value, such as a string with an
unpaired surrogate or a number beyond every double, is `unreadable`: whoever skips it gets past it.
-/

namespace PoolRouting

inductive Json where
  | null
  | bool (value : Bool)
  | integer (value : Int)
  | double (negative : Bool) (rank : Nat)
  | string (text : String)
  | array (items : List Json)
  | object (fields : List (String × Json))
  | unreadable

namespace Json

def ofNat (value : Nat) : Json := .integer value

end Json
end PoolRouting
