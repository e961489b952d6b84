import PoolRouting.Document.Swap
import PoolRouting.Transaction

/-!
Documents of transactions.
-/

namespace PoolRouting.Transaction

def fieldNames : List String :=
  ["nonce", "value", "receiver", "sender", "gasPrice", "gasLimit", "data", "chainId", "version"]

def document (transaction : Transaction) : Json :=
  .object
    [("nonce", .ofNat transaction.nonce.toNat), ("value", Amount.document transaction.value),
      ("receiver", transaction.receiver.document), ("sender", transaction.sender.document),
      ("gasPrice", .ofNat transaction.gasPrice.toNat),
      ("gasLimit", .ofNat transaction.gasLimit.toNat), ("data", .string transaction.data),
      ("chainId", .string transaction.chainId), ("version", .ofNat transaction.version.toNat)]

def read : Reader Transaction := fun document => do
  let record ← Record.ofJson? fieldNames document
  let nonce ← record.required "nonce" Reader.word64
  let value ← record.required "value" Reader.amount
  let receiver ← record.required "receiver" Address.read
  let sender ← record.required "sender" Address.read
  let gasPrice ← record.required "gasPrice" Reader.word64
  let gasLimit ← record.required "gasLimit" Reader.word64
  let data ← record.required "data" Reader.text
  let chainId ← record.required "chainId" Reader.text
  let version ← record.required "version" Reader.word32
  return ⟨nonce, value, receiver, sender, gasPrice, gasLimit, data, chainId, version⟩

end PoolRouting.Transaction
