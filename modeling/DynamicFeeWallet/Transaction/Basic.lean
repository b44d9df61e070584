import DynamicFeeWallet.FeeLevel
import DynamicFeeWallet.Transaction.Encoding
import DynamicFeeWallet.Transaction.Skeleton

/-!
# Transactions

A transaction is unpriced at first, estimated once its gas limit and fees are set, and signed at last. Its hash and
its sender are remembered once they are computed; every change of a field and every new signature forgets both, so
that what is remembered is always what would be computed.
-/

namespace DynamicFeeWallet

/-- A transaction, with what is remembered of it. -/
structure Transaction where
  /-- The fields. -/
  payload : Payload
  /-- How the fees are to be chosen. -/
  feeLevel : FeeLevel
  /-- The sender declared when the transaction was built; none for one that was read. -/
  declaredSender : Option Address
  /-- The signature, once signed. -/
  signature : Option Signature
  /-- The hash, once computed. -/
  hashMemo : Option Hash := none
  /-- The sender found by the signature, once computed. -/
  senderMemo : Option Address := none
deriving DecidableEq

/-- How far a transaction has come. -/
inductive Stage where
  /-- The gas limit or a fee is missing. -/
  | unpriced
  /-- It can be signed. -/
  | estimated
  /-- It is signed. -/
  | signed
deriving DecidableEq

/-- How much of a transaction is verified when it is read. -/
inductive CheckLevel where
  /-- Its structure only. -/
  | structureOnly
  /-- The range of its signature too. -/
  | signatureRange
  /-- The signer too, who is remembered. -/
  | signer
deriving DecidableEq

namespace Transaction

/-- The unpriced transaction of a skeleton. -/
def ofSkeleton (sk : Skeleton) (level : FeeLevel) : Transaction where
  payload :=
    { chainId := sk.chainId
      nonce := sk.nonce
      priorityFee := none
      maxFee := none
      gasLimit := none
      destination := sk.destination
      value := sk.value
      data := sk.data
      accessList := sk.accessList }
  feeLevel := level
  declaredSender := some sk.sender
  signature := none

/-- Two transactions are the same when their fields and their signatures are. -/
def same (t u : Transaction) : Bool := t.payload == u.payload && t.signature == u.signature

/-- The transaction has its gas limit and its fees. -/
def isSignable (t : Transaction) : Bool := t.payload.isPriced

/-- How far the transaction has come. -/
def stage (t : Transaction) : Stage :=
  if t.signature.isSome then .signed else if t.isSignable then .estimated else .unpriced

/-- The transaction has a signature of two zeros. -/
def hasZeroSignature (t : Transaction) : Bool :=
  match t.signature with
  | some sig => sig.isZero
  | none => false

/-! ## Changes -/

/-- Changes the fields; the signature and what is remembered are dropped. -/
def change (f : Payload → Payload) (t : Transaction) : Transaction :=
  { t with payload := f t.payload, signature := none, hashMemo := none, senderMemo := none }

/-- Sets the nonce; the gas limit and the fees are cleared. -/
def setNonce (nonce : UInt256) (t : Transaction) : Transaction :=
  t.change fun p => { p with nonce := nonce, gasLimit := none, maxFee := none, priorityFee := none }

/-- Sets the fee level; the fees are cleared. -/
def setFeeLevel (level : FeeLevel) (t : Transaction) : Transaction :=
  { t with feeLevel := level }.change fun p => { p with maxFee := none, priorityFee := none }

/-- The gas limit for an estimate: a fifth more. -/
def gasWithMargin (estimate : UInt256) : UInt256 := (estimate.satMul 12).div 10

/-- Sets the gas limit from an estimate. -/
def setGas (estimate : UInt256) (t : Transaction) : Transaction :=
  t.change fun p => { p with gasLimit := some (gasWithMargin estimate) }

/-- The most that a unit of gas may cost: twice the base fee and the priority fee. -/
def maxFeeFor (baseFee priorityFee : UInt256) : UInt256 := (baseFee.satMul 2).satAdd priorityFee

/-- The newest base fee of a fee history, and the newest reward for a level. -/
def pricesOf (level : FeeLevel) (history : Json) : Except FeeHistoryError (UInt256 × UInt256) :=
  match history.get? "result" with
  | none => .error .noResult
  | some .null => .error .noResult
  | some result =>
    match ((result.get? "baseFeePerGas").bind Json.asArray?).bind List.getLast? with
    | none => .error .noBaseFee
    | some newest =>
      match Quantity.ofJson? newest with
      | none => .error .badBaseFee
      | some baseFee =>
        match ((result.get? "reward").bind Json.asArray?).bind List.getLast? with
        | none => .error .noReward
        | some rewards =>
          match rewards.asArray?.bind fun row => row[level.rewardIndex]? with
          | none => .error .noPercentile
          | some reward =>
            match Quantity.ofJson? reward with
            | none => .error .badReward
            | some priorityFee => .ok (baseFee, priorityFee)

/-- Sets the fees from a fee history; there is no changed transaction when the history lacks something. -/
def setFees (history : Json) (t : Transaction) : Except TransactionError Transaction :=
  match pricesOf t.feeLevel history with
  | .error error => .error (.badFeeHistory error)
  | .ok (baseFee, priorityFee) =>
    .ok (t.change fun p => { p with priorityFee := some priorityFee, maxFee := some (maxFeeFor baseFee priorityFee) })

/-! ## Encoding, hash and sender -/

/-- The encoding without a signature. -/
def encodeUnsigned (t : Transaction) : Except TransactionError Bytes := t.payload.encode none

/-- The encoding with the signature. -/
def encodeSigned (t : Transaction) : Except TransactionError Bytes :=
  if t.isSignable then
    match t.signature with
    | some sig => t.payload.encode (some sig)
    | none => .error .unsigned
  else .error .incomplete

/-- The digest that is signed. -/
def signingHash (t : Transaction) : Except TransactionError Hash := t.encodeUnsigned.map keccak256

/-- The hash, computed from the fields and the signature. -/
def computeHash (t : Transaction) : Except TransactionError Hash := t.encodeSigned.map keccak256

/-- The sender, computed from the fields and the signature; a signature of two zeros names the address of all ones. -/
def computeSender (t : Transaction) : Except TransactionError Address :=
  match t.signature with
  | none => .error .unsigned
  | some sig =>
    if sig.isZero then .ok .allOnes
    else do
      match sig.signer? (← t.signingHash) with
      | some address => return address
      | none => throw .badSignature

/-- The hash, and the transaction that remembers it. -/
def readHash (t : Transaction) : Except TransactionError Hash × Transaction :=
  match t.hashMemo with
  | some hash => (.ok hash, t)
  | none =>
    match t.computeHash with
    | .ok hash => (.ok hash, { t with hashMemo := some hash })
    | .error error => (.error error, t)

/-- The sender found by the signature, and the transaction that remembers it. -/
def readSender (t : Transaction) : Except TransactionError Address × Transaction :=
  match t.senderMemo with
  | some sender => (.ok sender, t)
  | none =>
    match t.computeSender with
    | .ok sender => (.ok sender, { t with senderMemo := some sender })
    | .error error => (.error error, t)

/-- The sender found by the signature, or the zero address. -/
def readSafeSender (t : Transaction) : Address × Transaction :=
  match t.readSender with
  | (.ok sender, t) => (sender, t)
  | (.error _, t) => (.zero, t)

/-- The call object, sent by the declared sender or else by the one found by the signature. -/
def readCallObject (t : Transaction) : Json × Transaction :=
  let object (sender : Option Address) : Json :=
    let p := t.payload
    callObject sender p.destination p.value p.data p.nonce p.chainId p.accessList
  match t.declaredSender with
  | some sender => (object (some sender), t)
  | none =>
    match t.readSender with
    | (.ok sender, t) => (object (some sender), t)
    | (.error _, t) => (object none, t)

/-- A fee or a gas limit that may be missing. -/
def renderOptional : Option UInt256 → String
  | some a => toString a
  | none => "?"

/-- One line about the transaction: hash, destination, size of the data, value, gas limit, fees, sender and nonce. -/
def describe (t : Transaction) : String × Transaction :=
  let (hash, t) := t.readHash
  let (sender, t) := t.readSafeSender
  let p := t.payload
  let hashText := match hash with
    | .ok hash => hash.toHex
    | .error _ => "<unsigned>"
  let destination := match p.destination with
    | some a => "\x7b" ++ a.checksum ++ "\x7d"
    | none => "\x7b[CREATE]\x7d"
  let fees := s!"{renderOptional p.gasLimit}@{renderOptional p.maxFee}({renderOptional p.priorityFee})"
  (s!"{hashText}{destination}/{p.data.length}${p.value}+{fees}<-{sender.checksum} #{p.nonce}", t)

/-! ## Signatures -/

/-- Signs with a key. A transaction that is not priced stays as it is, and so does one whose signature came out of
range. There is no result when the key gives no signature. -/
def sign (key : PrivateKey) (t : Transaction) : Option Transaction :=
  match t.signingHash with
  | .error _ => some t
  | .ok digest =>
    match key.sign digest with
    | none => none
    | some sig =>
      if sig.isValid then some { t with signature := some sig, hashMemo := none, senderMemo := none } else some t

/-- The signature has a low `s`. -/
def checkLowS (t : Transaction) : Except TransactionError Unit :=
  match t.signature with
  | none => .error .unsigned
  | some sig => if sig.isLowS then .ok () else .error .badSignature

/-- The transaction is for this network. -/
def checkChainId (expected : UInt64) (t : Transaction) : Except TransactionError Unit :=
  if t.payload.chainId = expected then .ok () else .error (.chainMismatch expected t.payload.chainId)

/-! ## Reading -/

/-- The transaction of what was read from an encoding. -/
def ofPayload (payload : Payload) (signature : Option Signature) : Transaction where
  payload := payload
  feeLevel := .medium
  declaredSender := none
  signature := signature

/-- Verifies the signature as far as asked. A transaction without a signature or with one of two zeros passes. -/
def verify (level : CheckLevel) (t : Transaction) : Except TransactionError Transaction :=
  match level, t.signature with
  | .structureOnly, _ => .ok t
  | _, none => .ok t
  | level, some sig =>
    if sig.isZero then .ok t
    else if !sig.isValid || !sig.isLowS then .error .badSignature
    else if level = .signer then
      match t.readSender with
      | (.ok _, t) => .ok t
      | (.error error, _) => .error error
    else .ok t

/-- Reads an encoding and verifies it as far as asked. -/
def decode (level : CheckLevel) (raw : Bytes) : Except TransactionError Transaction := do
  let (payload, signature) ← Payload.decode raw
  (ofPayload payload signature).verify level

/-- Reads an encoding in hexadecimal. -/
def decodeHex (level : CheckLevel) (text : String) : Except TransactionError Transaction :=
  match Hex.decode text with
  | .error error => .error (.badFormat (.notHex error) text)
  | .ok raw => decode level raw

end Transaction

end DynamicFeeWallet
