import DynamicFeeWallet.Address
import DynamicFeeWallet.Rlp.Decode
import DynamicFeeWallet.UInt256

/-!
# What a transaction says

The fields of a transaction with a dynamic fee (type 2). The gas limit and the two fees are unknown until the
transaction is priced. An unsigned or signed transaction that is not of a form asked for fails with a
`TransactionError`.
-/

namespace DynamicFeeWallet

/-- An address and the storage keys of it that a transaction announces. -/
structure AccessItem where
  (address : Address) (storageKeys : List Hash)
deriving DecidableEq

/-- The fields of a transaction. -/
structure Payload where
  /-- The network that the transaction is for. -/
  chainId : UInt64
  /-- The number of transactions that the sender has sent before. -/
  nonce : UInt256
  /-- The most that the miner gets for a unit of gas, once priced. -/
  priorityFee : Option UInt256
  /-- The most that a unit of gas costs, once priced. -/
  maxFee : Option UInt256
  /-- The most gas that may be used, once priced. -/
  gasLimit : Option UInt256
  /-- The destination; none creates a contract. -/
  destination : Option Address
  /-- The amount sent. -/
  value : UInt256
  /-- The data sent. -/
  data : Bytes
  /-- The storage announced. -/
  accessList : List AccessItem
deriving DecidableEq

/-- The byte in front of the encoding that tells the type. -/
def Payload.typeByte : UInt8 := 2

/-- The gas limit and both fees are known. -/
def Payload.isPriced (p : Payload) : Bool := p.gasLimit.isSome && p.maxFee.isSome && p.priorityFee.isSome

/-- Why an encoding is no transaction. -/
inductive FormatError where
  /-- The text is not hexadecimal data. -/
  | notHex (error : HexError)
  /-- There are no bytes. -/
  | empty
  /-- The first byte is of no known type. -/
  | unknownType (byte : UInt8)
  /-- An item cannot be read. -/
  | badItem (error : Rlp.DecodeError)
  /-- What follows the type is no list. -/
  | notList
  /-- This many bytes follow the list. -/
  | trailing (bytes : Nat)
  /-- The list has another number of items than an unsigned or a signed transaction has. -/
  | itemCount (found : Nat)
  /-- The destination has this many bytes. -/
  | destinationLength (bytes : Nat)
  /-- The parity is neither zero nor one. -/
  | badParity (found : UInt8)
deriving DecidableEq

/-- What is said of an encoding that is no transaction. -/
def FormatError.message : FormatError → String
  | .notHex error => error.message
  | .empty => "empty input"
  | .unknownType byte => s!"unknown transaction type 0x{String.ofList (Hex.byteDigits byte)}"
  | .badItem error => error.message
  | .notList => "payload is not a list"
  | .trailing bytes => s!"{bytes} trailing bytes after payload"
  | .itemCount found => s!"expected 9 or 12 fields, found {found}"
  | .destinationLength bytes => s!"destination of {bytes} bytes"
  | .badParity found => s!"y parity {found.toNat} out of range"

/-- What a fee history lacks. -/
inductive FeeHistoryError where
  /-- The document has no result. -/
  | noResult
  /-- There is no base fee. -/
  | noBaseFee
  /-- The newest base fee is no quantity. -/
  | badBaseFee
  /-- There are no rewards. -/
  | noReward
  /-- The newest rewards have none for the fee level. -/
  | noPercentile
  /-- The reward for the fee level is no quantity. -/
  | badReward
deriving DecidableEq

/-- What is said of a fee history that lacks something. -/
def FeeHistoryError.message : FeeHistoryError → String
  | .noResult => "missing result"
  | .noBaseFee => "missing baseFeePerGas"
  | .badBaseFee => "invalid baseFeePerGas"
  | .noReward => "missing reward"
  | .noPercentile => "missing reward percentile"
  | .badReward => "invalid reward"

/-- Why something cannot be done with a transaction. -/
inductive TransactionError where
  /-- The encoding, given as a text, is no transaction. -/
  | badFormat (error : FormatError) (encoding : String)
  /-- The transaction is not priced. -/
  | incomplete
  /-- The transaction is not signed. -/
  | unsigned
  /-- The signature is out of range, has a high `s`, or names no signer. -/
  | badSignature
  /-- The transaction or the node is of another network. -/
  | chainMismatch (expected actual : UInt64)
  /-- The fee history lacks something. -/
  | badFeeHistory (error : FeeHistoryError)
deriving DecidableEq

/-- What is said when something cannot be done with a transaction. -/
def TransactionError.message : TransactionError → String
  | .badFormat error encoding => s!"invalid transaction format ({error.message}): {encoding}"
  | .incomplete => "transaction is incomplete: gas limit and fees must be set"
  | .unsigned => "transaction unsigned"
  | .badSignature => "invalid signature"
  | .chainMismatch expected actual => s!"chain id mismatch: expected {expected.toNat}, got {actual.toNat}"
  | .badFeeHistory error => s!"malformed fee history response: {error.message}"

end DynamicFeeWallet
