import DynamicFeeWallet.Json.Printer
import DynamicFeeWallet.Key.Phrase
import DynamicFeeWallet.Key.Text
import DynamicFeeWallet.Request.Argument
import DynamicFeeWallet.Transaction.Payload
import DynamicFeeWallet.Url.Error

/-!
# Failures

Why an operation of the wallet fails. Each cause has a text, a number and a kind; the kind tells where it lies: in the
arguments, in the settings, in the transaction, or with the node.
-/

namespace DynamicFeeWallet

/-- Why a request got no answer. -/
inductive TransportError where
  /-- The URL of an endpoint is none. -/
  | badUrl (url : String) (error : UrlError)
  /-- Requests cannot be made at all. -/
  | client (reason : String)
  /-- The request to an endpoint failed. -/
  | failed (endpoint reason : String)
  /-- The endpoint did not answer in time. -/
  | timedOut (endpoint : String)
  /-- This many endpoints were tried and none answered. -/
  | exhausted (attempted : Nat)
deriving DecidableEq

/-- What is said when a request gets no answer. -/
def TransportError.message : TransportError → String
  | .badUrl url error => s!"invalid endpoint URL '{url}': {error.message}"
  | .client reason => s!"HTTP client error: {reason}"
  | .failed endpoint reason => s!"request to {endpoint} failed: {reason}"
  | .timedOut endpoint => s!"request to {endpoint} timed out"
  | .exhausted attempted => s!"all {attempted} endpoints failed"

/-- Why a skeleton cannot be built. -/
inductive BuildError where
  /-- The sender is no address. -/
  | badSender (text : String) (error : HexError)
  /-- The destination is no address. -/
  | badDestination (text : String) (error : HexError)
  /-- The data is not hexadecimal. -/
  | badData (error : HexError)
deriving DecidableEq

/-- What is said when a skeleton cannot be built. -/
def BuildError.message : BuildError → String
  | .badSender text error => s!"invalid from address '{text}': {error.message}"
  | .badDestination text error => s!"invalid to address '{text}': {error.message}"
  | .badData error => s!"invalid data: {error.message}"

/-- Why the wallet cannot be set up for an operation. -/
inductive SetupError where
  /-- The private key cannot be read. -/
  | badKey (error : KeyError)
  /-- The recovery phrase gives no key. -/
  | badPhrase (error : PhraseError)
  /-- The variable of the environment that holds the private key is not set. -/
  | noKey (name : String)
deriving DecidableEq

/-- What is said when the wallet cannot be set up. -/
def SetupError.message : SetupError → String
  | .badKey error => s!"Invalid private key format: {error.message}"
  | .badPhrase error => s!"Mnemonic derivation failed: {error.message}"
  | .noKey name => s!"Environment variable {name} not set"

/-- Why nothing can be signed, or no signer found. -/
inductive SignError where
  /-- The private key cannot be read. -/
  | badKey (error : KeyError)
  /-- The transaction cannot be signed. -/
  | transaction (error : TransactionError)
  /-- The key gives no signature. -/
  | noSignature
  /-- A signature is not 65 bytes long. -/
  | badLength
  /-- The last byte of a signature stands for no parity. -/
  | badParity (byte : UInt8)
  /-- No key signed the message so. -/
  | noSigner
deriving DecidableEq

/-- What is said when nothing can be signed or no signer found. -/
def SignError.message : SignError → String
  | .badKey error => s!"Wallet error: {(SetupError.badKey error).message}"
  | .transaction error => error.message
  | .noSignature => "signature error"
  | .badLength => "expected exactly 65 bytes"
  | .badParity byte => s!"invalid parity: {byte.toNat}"
  | .noSigner => "signature does not recover"

/-- Why a request has no response document. -/
inductive SendError where
  /-- There was no answer. -/
  | transport (error : TransportError)
  /-- The answer to this method is no document. -/
  | unparseable (method : String)
deriving DecidableEq

/-- What a node answered that is of no use. -/
inductive NodeError where
  /-- The answer to this method is no document. -/
  | unparseable (method : String)
  /-- The node reports an error. -/
  | reported (error : Json)
  /-- One of two requests of an estimation failed. -/
  | legFailed (method : String) (error : SendError)
  /-- The node reports an error for one of two requests of an estimation. -/
  | legReported (method : String) (error : Json)
  /-- The estimated gas is no quantity. -/
  | badGasEstimate (result : Json)
  /-- The number of the network cannot be read. -/
  | badChainId (result : Json)
  /-- The number of transactions of a sender cannot be read. -/
  | badTransactionCount (result : Json)
  /-- A balance cannot be read. -/
  | badBalance (result : Json)

/-- What is said of an answer that is no document. -/
def unparseableMessage (method : String) : String := s!"unparseable response to {method}"

/-- What is said when a request has no response document. -/
def SendError.message : SendError → String
  | .transport error => s!"Transport error: {error.message}"
  | .unparseable method => s!"RPC error: {unparseableMessage method}"

/-- What is said of an answer that is of no use. -/
def NodeError.message : NodeError → String
  | .unparseable method => unparseableMessage method
  | .reported error => error.render
  | .legFailed method error => s!"{method}: {error.message}"
  | .legReported method error => s!"{method}: {error.render}"
  | .badGasEstimate result => s!"invalid gas estimate: {result.render}"
  | .badChainId result => s!"invalid chain id: {result.render}"
  | .badTransactionCount result => s!"invalid transaction count: {result.render}"
  | .badBalance result => s!"invalid balance: {result.render}"

/-- Why an operation of the wallet fails. -/
inductive WalletError where
  /-- The arguments of a request are refused. -/
  | argument (error : ArgumentError)
  /-- Something cannot be done with a transaction. -/
  | transaction (error : TransactionError)
  /-- A skeleton cannot be built. -/
  | build (error : BuildError)
  /-- Nothing can be signed, or no signer found. -/
  | sign (error : SignError)
  /-- The node refused a signed transaction. -/
  | sendRefused (signed : String) (error : Json)
  /-- The node's answer is of no use. -/
  | node (error : NodeError)
  /-- The node refused to drop a transaction. -/
  | dropRefused (hash : String) (error : Json)
  /-- A request got no answer. -/
  | transport (error : TransportError)
  /-- The private key does not control the address. -/
  | keyMismatch (address : Address)
  /-- The wallet cannot be set up. -/
  | setup (error : SetupError)

/-- Where the cause of a failure lies. -/
inductive ErrorKind where
  | validation
  | build
  | sign
  | protocol
  | codec
  | unsigned
  | configuration
deriving DecidableEq

namespace WalletError

/-- A request without a response document, as a failure of the wallet. -/
def ofSend : SendError → WalletError
  | .transport error => .transport error
  | .unparseable method => .node (.unparseable method)

/-- What is said of a failure. -/
def message : WalletError → String
  | .argument error => error.message
  | .transaction error => error.message
  | .build error => s!"Build error: {error.message}"
  | .sign error => s!"Sign error: {error.message}"
  | .sendRefused _ error => s!"Send failed: {error.render}"
  | .node error => s!"RPC error: {error.message}"
  | .dropRefused _ error => s!"Drop failed: {error.render}"
  | .transport error => s!"Transport error: {error.message}"
  | .keyMismatch address => s!"Address {address.checksum} does not match private key"
  | .setup error => s!"Wallet error: {error.message}"

/-- The number that stands for the cause. -/
def code : WalletError → Nat
  | .argument error => error.code
  | .transaction .unsigned => 40
  | .transaction _ => 39
  | .build _ => 11
  | .sign _ => 12
  | .sendRefused .. => 13
  | .node _ => 36
  | .dropRefused .. => 37
  | .transport _ => 36
  | .keyMismatch _ => 5
  | .setup _ => 41

/-- Where the cause lies. -/
def kind : WalletError → ErrorKind
  | .argument _ => .validation
  | .transaction .unsigned => .unsigned
  | .transaction _ => .codec
  | .build _ => .build
  | .sign _ => .sign
  | .sendRefused .. => .protocol
  | .node _ => .protocol
  | .dropRefused .. => .protocol
  | .transport _ => .protocol
  | .keyMismatch _ => .validation
  | .setup _ => .configuration

end WalletError

end DynamicFeeWallet
