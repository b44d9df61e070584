import DynamicFeeWallet.Curve.Signature
import DynamicFeeWallet.Transaction.Payload

/-!
# The encoding of a transaction

A transaction is written as its type and a list of nine items, or of twelve with the parity, `r` and `s` of its
signature. `Payload.encode` writes it and `Payload.decode` reads it. The list is gone through twice: its items are
counted first, and read one after the other then. Only what is written is read back.
-/

namespace DynamicFeeWallet

namespace AccessItem

/-- An item of an access list as a list of two: the address and the list of the keys. -/
def encode (item : AccessItem) : Bytes :=
  Rlp.list (Rlp.string item.address.toBytes ++ Rlp.list (item.storageKeys.flatMap fun key => Rlp.string key.toBytes))

/-- Reads an item of an access list. The two parts are read past its header first; where they end is compared with the
length that the header gives afterwards. -/
def decode : Rlp.Reader AccessItem := fun input => do
  let (h, start) ← Rlp.readHeader input
  if h.isList then
    let (address, rest) ← Rlp.readFixed 20 start
    let (keys, rest) ← Rlp.readListOf (Rlp.readFixed 32) rest
    let consumed := start.length - rest.length
    if consumed = h.length then return (⟨address, keys⟩, rest) else throw (.listLength consumed h.length)
  else throw .unexpectedString

end AccessItem

namespace Payload

/-- The three items of a signature. -/
def encodeSignature : Option Signature → Bytes
  | none => []
  | some sig =>
    Rlp.number 1 sig.yParity.toNat ++ Rlp.number 32 sig.r.toNat ++ Rlp.number 32 sig.s.toNat

/-- The bytes that name the receiver: none for the creation of a contract. -/
def destinationBytes (p : Payload) : Bytes := p.destination.elim [] FixedBytes.toBytes

/-- The items of a transaction with these fees and this gas limit. -/
def encodeItems (p : Payload) (priorityFee maxFee gasLimit : UInt256) (signature : Option Signature) : Bytes :=
  Rlp.number 8 p.chainId.toNat ++ Rlp.number 32 p.nonce.toNat ++ Rlp.number 32 priorityFee.toNat ++
    Rlp.number 32 maxFee.toNat ++ Rlp.number 32 gasLimit.toNat ++
    Rlp.string p.destinationBytes ++ Rlp.number 32 p.value.toNat ++ Rlp.string p.data ++
    Rlp.list (p.accessList.flatMap AccessItem.encode) ++ encodeSignature signature

/-- The encoding of a priced transaction, with a signature or without. -/
def encode (p : Payload) (signature : Option Signature) : Except TransactionError Bytes :=
  match p.priorityFee, p.maxFee, p.gasLimit with
  | some priorityFee, some maxFee, some gasLimit =>
    .ok (typeByte :: Rlp.list (p.encodeItems priorityFee maxFee gasLimit signature))
  | _, _, _ => .error .incomplete

/-- Reading a part of a transaction. -/
abbrev Reader (α : Type) := Bytes → Except FormatError (α × Bytes)

/-- An item that is read on its own. -/
def item {α : Type} (read : Rlp.Reader α) : Reader α := fun input => (read input).mapError .badItem

/-- Reads the destination: no bytes or an address. -/
def readDestination : Reader (Option Address) := fun input => do
  let (bytes, rest) ← item Rlp.readString input
  match bytes with
  | [] => return (none, rest)
  | bytes =>
    match FixedBytes.ofBytes? 20 bytes with
    | some address => return (some address, rest)
    | none => throw (.destinationLength bytes.length)

/-- Reads the nine items of a transaction. -/
def readFields : Reader Payload := fun input => do
  let (chainId, input) ← item Rlp.readUInt64 input
  let (nonce, input) ← item Rlp.readUInt256 input
  let (priorityFee, input) ← item Rlp.readUInt256 input
  let (maxFee, input) ← item Rlp.readUInt256 input
  let (gasLimit, input) ← item Rlp.readUInt256 input
  let (destination, input) ← readDestination input
  let (value, input) ← item Rlp.readUInt256 input
  let (data, input) ← item Rlp.readString input
  let (accessList, input) ← item (Rlp.readListOf AccessItem.decode) input
  return (⟨chainId, nonce, some priorityFee, some maxFee, some gasLimit, destination, value, data, accessList⟩, input)

/-- Reads the three items of a signature. -/
def readSignature : Reader Signature := fun input => do
  let (parity, input) ← item Rlp.readUInt8 input
  if 1 < parity then throw (.badParity parity)
  let (r, input) ← item Rlp.readUInt256 input
  let (s, input) ← item Rlp.readUInt256 input
  return (⟨r, s, parity == 1⟩, input)

/-- The payload of the list that makes up all of the input. -/
def readBody (input : Bytes) : Except FormatError Bytes := do
  let (h, body) ← item Rlp.readHeader input
  if !h.isList then throw .notList
  else if body.length ≠ h.length then throw (.trailing (body.length - h.length))
  else return body

/-- The number of items of an unsigned transaction. -/
def unsignedItems : Nat := 9

/-- The number of items of a signed transaction. -/
def signedItems : Nat := 12

/-- Reads an encoding, or tells why it is no transaction. -/
def decodeBytes : Bytes → Except FormatError (Payload × Option Signature)
  | [] => .error .empty
  | type :: rest => do
    if type ≠ typeByte then throw (.unknownType type)
    let body ← readBody rest
    let count ← (Rlp.countItems body.length body).mapError .badItem
    if count ≠ unsignedItems ∧ count ≠ signedItems then throw (.itemCount count)
    let (payload, rest) ← readFields body
    if count = signedItems then
      let (signature, _) ← readSignature rest
      return (payload, some signature)
    else return (payload, none)

/-- Reads an encoding; a failure names the encoding. -/
def decode (raw : Bytes) : Except TransactionError (Payload × Option Signature) :=
  (decodeBytes raw).mapError fun error => .badFormat error (Hex.encode raw)

end Payload

end DynamicFeeWallet
