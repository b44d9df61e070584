import DynamicFeeWallet.Json.Basic
import DynamicFeeWallet.Quantity
import DynamicFeeWallet.Transaction.Payload

/-!
# Transactions before pricing

A skeleton says who sends what to whom. Its call object is the document by which a node is asked for the gas that the
transaction will use; empty data and an empty access list are left out of it.
-/

namespace DynamicFeeWallet

/-- A transaction without gas and fees. -/
structure Skeleton where
  /-- Who sends it. -/
  sender : Address
  /-- The destination; none creates a contract. -/
  destination : Option Address := none
  /-- The amount sent. -/
  value : UInt256 := .zero
  /-- The data sent. -/
  data : Bytes := []
  /-- The number of transactions that the sender has sent before. -/
  nonce : UInt256
  /-- The network that the transaction is for. -/
  chainId : UInt64
  /-- The storage announced. -/
  accessList : List AccessItem := []
deriving DecidableEq

/-- The access list as a document. -/
def accessListJson (items : List AccessItem) : Json :=
  .array <| items.map fun item =>
    .members [("address", .text item.address.checksum),
      ("storageKeys", .array (item.storageKeys.map fun key => .text key.toHex))]

/-- An amount as a document. -/
def quantityJson (n : Nat) : Json := .text (Quantity.render n)

/-- The call object of a transaction; the sender is left out when it is not known. -/
def callObject (sender destination : Option Address) (value : UInt256) (data : Bytes) (nonce : UInt256) (chainId : UInt64)
    (accessList : List AccessItem) : Json :=
  .members <|
    (if accessList.isEmpty then [] else [("accessList", accessListJson accessList)]) ++
    [("chainId", quantityJson chainId.toNat)] ++
    (if data.isEmpty then [] else [("data", .text (Hex.encode data))]) ++
    (sender.toList.map fun a => ("from", .text a.checksum)) ++
    [("nonce", quantityJson nonce.toNat)] ++
    (destination.toList.map fun a => ("to", .text a.checksum)) ++
    [("value", quantityJson value.toNat)]

namespace Skeleton

/-- The skeleton creates a contract. -/
def isCreation (sk : Skeleton) : Bool := sk.destination.isNone

/-- The call object of the skeleton. -/
def callObject (sk : Skeleton) : Json :=
  DynamicFeeWallet.callObject (some sk.sender) sk.destination sk.value sk.data sk.nonce sk.chainId sk.accessList

end Skeleton

end DynamicFeeWallet
