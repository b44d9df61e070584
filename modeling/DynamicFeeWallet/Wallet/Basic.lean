import DynamicFeeWallet.Key.Phrase
import DynamicFeeWallet.Node.Estimation
import DynamicFeeWallet.Transaction.Basic
import DynamicFeeWallet.Wallet.Account

/-!
# The wallet

Accounts and messages, and the way of a transaction: built, priced, signed, sent, and watched until it is mined. The
wallet holds a client and nothing else; keys come in with each call.
-/

namespace DynamicFeeWallet

/-- The wallet over a node. -/
structure Wallet where
  /-- The client of the node. -/
  client : Client

/-- What became of a transaction. -/
inductive ConfirmationStatus where
  /-- It is not mined yet. -/
  | pending
  /-- It was mined in this block. -/
  | confirmed (blockNumber : UInt64)
  /-- It was mined and failed. -/
  | rejected (reason : String)
deriving DecidableEq

/-- The status as it is shown for inspection. -/
def ConfirmationStatus.inspect : ConfirmationStatus → String
  | .pending => "Pending"
  | .confirmed blockNumber => s!"Confirmed \x7b block_number: {blockNumber} \x7d"
  | .rejected reason => s!"Rejected({Text.quoted reason})"

/-- The text with a mark in front. -/
def marked (text : String) : String :=
  if (Hex.marked? text.toList).isSome then text else "0x" ++ text

/-- The digest of a personal message: that of a fixed heading, the number of bytes in decimal, and the bytes. -/
def messagePreimage (message : Bytes) : Bytes :=
  Bytes.ofText "\x19Ethereum Signed Message:\n" ++ Bytes.ofText (toString message.length) ++ message

/-- The digest that is signed for a personal message. -/
def messageHash (message : Bytes) : Hash := keccak256 (messagePreimage message)

/-- The signature that 65 bytes hold: the last one is the parity, alone or above 27, or above 35 with the number of a
network. -/
def Signature.ofBytes (bytes : Bytes) : Except SignError Signature :=
  match bytes.drop 64 with
  | [v] =>
    let r := UInt256.saturate (Bytes.toNat (bytes.take 32))
    let s := UInt256.saturate (Bytes.toNat ((bytes.drop 32).take 32))
    if v = 0 ∨ v = 27 then .ok ⟨r, s, false⟩
    else if v = 1 ∨ v = 28 then .ok ⟨r, s, true⟩
    else if 35 ≤ v then .ok ⟨r, s, v % 2 == 0⟩
    else .error (.badParity v)
  | _ => .error .badLength

namespace Wallet

/-! ## Accounts and messages -/

/-- The private key that a text writes, for an operation that needs one. -/
def readKey (text : String) : Except WalletError PrivateKey :=
  (PrivateKey.parse text).mapError fun e => .setup (.badKey e)

/-- The account of a recovery phrase, with no transaction sent yet. -/
def createAccount (w : Wallet) (name phrase : String) : Except WalletError Account :=
  match Phrase.privateKey phrase with
  | .ok key => .ok ⟨key.address, name, key, 0, w.client⟩
  | .error error => .error (.setup (.badPhrase error))

/-- The account of an address and a key that controls it. -/
def getAccount (w : Wallet) (address name key : String) (nonce : Option UInt64) : Attempt Account := do
  if !Address.isAddress address then throw (.argument .notAddress)
  match Address.parse address with
  | .error _ => throw (.argument .notAddress)
  | .ok address =>
    let key ← ExceptT.mk (pure (readKey key))
    Account.load w.client address name key nonce

/-- Signs a personal message. -/
def signMessage (_w : Wallet) (message : Bytes) (key : String) : Except WalletError String := do
  let key ← readKey key
  match key.sign (messageHash message) with
  | some sig => return Hex.encode sig.toBytes
  | none => throw (.sign .noSignature)

/-- The address whose key signed a personal message. -/
def recoverSigner (_w : Wallet) (message : Bytes) (signature : String) : Except WalletError Address := do
  match Hex.decode signature with
  | .error _ => throw (.argument .notHex)
  | .ok bytes =>
    let sig ← (Signature.ofBytes bytes).mapError .sign
    match sig.signer? (messageHash message) with
    | some address => return address
    | none => throw (.sign .noSigner)

/-! ## Building and pricing -/

/-- A text that is missing when it is empty. -/
def nonEmpty (text : Option String) : Option String := text.filter fun s => !s.isEmpty

/-- Builds a skeleton; without a destination it creates a contract. -/
def buildTransaction (w : Wallet) (sender : String) (nonce : UInt64) (destination data : Option String) (value : UInt256)
    (accessList : List AccessItem) : Except WalletError Skeleton := do
  let sender ← (Address.parse sender).mapError fun e => .build (.badSender sender e)
  let destination ← match nonEmpty destination with
    | some text => ((Address.parse text).mapError fun e => .build (.badDestination text e)).map some
    | none => pure none
  let data ← match nonEmpty data with
    | some data => (Hex.decode data).mapError fun e => .build (.badData e)
    | none => pure []
  return { sender, destination, value, data, nonce := .ofUInt64 nonce, chainId := w.client.settings.chainId, accessList }

/-- Prices a transaction anew: the fees are set first and the gas limit then, so that a fee history that lacks
something changes nothing. The transaction given back is the one to go on with, whether the pricing succeeded or not.
-/
def reprice (w : Wallet) (t : Transaction) : Exchange (Except WalletError Unit × Transaction) := do
  let (object, t) := t.readCallObject
  match ← (w.client.estimate object).run with
  | .error error => return (.error error, t)
  | .ok estimate =>
    match t.setFees estimate.feeHistory with
    | .error error => return (.error (.transaction error), t)
    | .ok priced => return (.ok (), priced.setGas estimate.gas)

/-- The priced transaction of a skeleton. -/
def estimateTransaction (w : Wallet) (sk : Skeleton) (level : FeeLevel) : Attempt Transaction := do
  match ← w.reprice (Transaction.ofSkeleton sk level) with
  | (.ok _, t) => return t
  | (.error error, _) => throw error

/-- Signs a transaction and gives its encoding, and the transaction to go on with. -/
def signTransaction (_w : Wallet) (t : Transaction) (key : String) : Except WalletError String × Transaction :=
  match PrivateKey.parse key with
  | .error error => (.error (.sign (.badKey error)), t)
  | .ok key =>
    match t.sign key with
    | none => (.error (.sign .noSignature), t)
    | some signed =>
      match signed.encodeSigned with
      | .error error => (.error (.sign (.transaction error)), signed)
      | .ok bytes => (.ok (Hex.encode bytes), signed)

/-! ## Sending and watching -/

/-- What the node said to a text that was sent: the text with its mark and the result. -/
structure Submission where
  (text : String) (result : Json)

/-- Sends a signed encoding. -/
def sendTransaction (w : Wallet) (signed : String) : Attempt Submission := do
  let signed := marked signed
  match Outcome.ofResponse (← w.client.sendCall (.sendRawTransaction signed)) with
  | .success result => return ⟨signed, result⟩
  | .failure error => throw (.sendRefused signed error)

/-- Drops a pending transaction on a development node. -/
def dropTransaction (w : Wallet) (hash : String) : Attempt Submission := do
  let hash := marked hash
  match Outcome.ofResponse (← w.client.sendCall (.dropTransaction hash)) with
  | .success result => return ⟨hash, result⟩
  | .failure error => throw (.dropRefused hash error)

/-- What a receipt says: nothing yet when it is `null`, a failure when its status is zero, and otherwise the block, or
zero. -/
def statusOf (receipt : Json) : ConfirmationStatus :=
  if receipt.isNull then .pending
  else if (receipt.get? "status").bind Quantity.ofJson? = some .zero then .rejected "Transaction reverted"
  else
    .confirmed ((((receipt.get? "blockNumber").bind Quantity.ofJson?).bind UInt256.toUInt64?).getD 0)

/-- Looks for the receipt of a transaction once. -/
def transactionStatus (w : Wallet) (hash : String) : Attempt ConfirmationStatus := do
  return statusOf (← w.client.ask (.transactionReceipt (marked hash)))

/-- The seconds between two looks, at least one. -/
def pollSeconds (w : Wallet) : Nat := max w.client.settings.confirmationPollSecs.toNat 1

theorem pollSeconds_pos (w : Wallet) : 0 < w.pollSeconds := Nat.le_max_right _ 1

/-- Looks for a receipt at a tick of the clock. While nothing is known yet, the next look comes with the next tick,
unless that is past the deadline; then the time up to the deadline is spent, and it is left at that. A tick on the
deadline comes first. -/
def watch (w : Wallet) (hash : String) (deadline tick : Nat) : Attempt ConfirmationStatus := do
  match ← w.transactionStatus hash with
  | .pending =>
    if tick + w.pollSeconds ≤ deadline then
      Exchange.sleep w.pollSeconds
      w.watch hash deadline (tick + w.pollSeconds)
    else
      Exchange.sleep (deadline - tick)
      return .pending
  | status => return status
termination_by deadline - tick
decreasing_by
  have := w.pollSeconds_pos
  omega

/-- Looks for a receipt again and again while the time allows, from the start on. -/
def waitForConfirmation (w : Wallet) (hash : String) (timeoutSecs : UInt64) : Attempt ConfirmationStatus :=
  w.watch hash timeoutSecs.toNat 0

end Wallet

end DynamicFeeWallet
