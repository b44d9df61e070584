import DynamicFeeWallet.Config.Settings
import DynamicFeeWallet.Json.Parser
import DynamicFeeWallet.Node.Exchange

/-!
# The client of a node

Sends requests and takes the response documents apart. A document is a failure only when it has an error and no result.
-/

namespace DynamicFeeWallet

/-- What a response document says about its request. -/
inductive Outcome where
  /-- It succeeded with this result. -/
  | success (result : Json)
  /-- It failed with this error. -/
  | failure (error : Json)

/-- What a response document says: a result wins over an error, and a document with neither has the result `null`. -/
def Outcome.ofResponse (response : Json) : Outcome :=
  match response.get? "result", response.get? "error" with
  | none, some error => .failure error
  | some result, _ => .success result
  | none, none => .success .null

/-- The client of a node. -/
structure Client where
  /-- How the node is reached, and which network it serves. -/
  settings : NetworkSettings

namespace Client

/-- Takes in the response document of a request, and counts it. -/
def receive (request : Request) (ticket : Ticket) : Exchange (Except SendError Json) := do
  let reply ← Exchange.await ticket
  Exchange.count (.latency request.method)
  match reply with
  | .error error =>
    Exchange.count (.request request.method .transportError)
    return .error (.transport error)
  | .ok text =>
    match Json.parse? text with
    | none =>
      Exchange.count (.request request.method .parseError)
      return .error (.unparseable request.method)
    | some document =>
      match Outcome.ofResponse document with
      | .success _ => Exchange.count (.request request.method .ok)
      | .failure _ => Exchange.count (.request request.method .rpcError)
      return .ok document

/-- Sends a request and waits for its response document. -/
def send (_client : Client) (request : Request) : Attempt Json := do
  let ticket ← Exchange.post request
  match ← receive request ticket with
  | .ok document => return document
  | .error error => throw (.ofSend error)

/-- The request of a call, whose arguments have to be in order. -/
def prepare (call : Call) : Attempt Request :=
  match call.request with
  | .ok request => return request
  | .error error => throw (.argument error)

/-- Sends a request and gives its result. -/
def call (client : Client) (request : Request) : Attempt Json := do
  match Outcome.ofResponse (← client.send request) with
  | .success result => return result
  | .failure error => throw (.node (.reported error))

/-- Makes a call and gives its response document. -/
def sendCall (client : Client) (c : Call) : Attempt Json := do client.send (← prepare c)

/-- Makes a call and gives its result. -/
def ask (client : Client) (c : Call) : Attempt Json := do client.call (← prepare c)

/-- The text without any marks `0x` in front. -/
def dropMarks : List Char → List Char
  | '0' :: 'x' :: rest => dropMarks rest
  | digits => digits

/-- The 64-bit number that hexadecimal digits write; a plus may stand before them, and there has to be a digit. -/
def readChainId (digits : List Char) : Option UInt64 :=
  let digits := match digits with
    | '+' :: rest => rest
    | digits => digits
  if digits.isEmpty || !digits.all Hex.isDigit then none
  else (Quantity.ofDigits? 16 digits).bind UInt256.toUInt64?

/-- The number of the network that the node serves. -/
def fetchChainId (client : Client) : Attempt UInt64 := do
  let result ← client.ask .chainId
  match result.asText?.bind fun s => readChainId (dropMarks s.toList) with
  | some id => return id
  | none => throw (.node (.badChainId result))

/-- The node serves the network of the settings. -/
def verifyChainId (client : Client) : Attempt Unit := do
  let actual ← client.fetchChainId
  if actual = client.settings.chainId then return ()
  else throw (.transaction (.chainMismatch client.settings.chainId actual))

/-- The node answers when it is asked for its newest block. -/
def isHealthy (client : Client) : Exchange Bool := do
  let healthy := match ← (client.ask .blockNumber).run with
    | .ok _ => true
    | .error _ => false
  Exchange.count (.health healthy)
  return healthy

/-- The client as it is shown for inspection. -/
def inspect (client : Client) : String :=
  let s := client.settings
  "RpcClient \x7b rpc_url: " ++ Text.quoted s.rpcUrl ++ s!", chain_id: {s.chainId}, timeout_secs: {s.rpcTimeoutSecs} " ++
    "\x7d"

end Client

end DynamicFeeWallet
