import PoolRouting.Amount

/-!
Identifiers of tokens and addresses, ordered by code points, and the metadata of a token.
-/

namespace PoolRouting

structure TokenId where
  text : String
  deriving DecidableEq

structure Address where
  text : String
  deriving DecidableEq

instance : Ord TokenId := ⟨fun left right => compare left.text right.text⟩

instance : Ord Address := ⟨fun left right => compare left.text right.text⟩

/-- A token with the number of decimals of its whole unit. -/
structure Token where
  id : TokenId
  decimals : UInt32
  deriving DecidableEq

/-- One whole token in smallest units. -/
def Token.oneUnit (token : Token) : Amount := placeValue token.decimals.toNat

end PoolRouting
