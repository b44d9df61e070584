import DynamicFeeWallet.Json.Printer
import DynamicFeeWallet.Quantity
import DynamicFeeWallet.Request.CallObject

/-!
# Remote calls

One constructor to each remote method that the wallet knows, with its arguments. `Call.request` checks the arguments
in their order and gives the request, or the first thing that is wrong with them.
-/

namespace DynamicFeeWallet

/-- A request: a method and its parameters. -/
structure Request where
  (method : String) (params : List Json)

namespace Request

/-- The document of a request. -/
def toJson (r : Request) : Json :=
  .object [("jsonrpc", .text "2.0"), ("method", .text r.method), ("params", .array r.params), ("id", .natural 1)]

/-- The text that is sent. -/
def body (r : Request) : String := r.toJson.render

end Request

/-- A remote method with its arguments. -/
inductive Call where
  | clientVersion
  | sha3 (data : String)
  | netVersion
  | netListening
  | netPeerCount
  | protocolVersion
  | syncing
  | coinbase
  | mining
  | hashrate
  | gasPrice
  | accounts
  | blockNumber
  | chainId
  | maxPriorityFeePerGas
  | balance (address block : String)
  | storageAt (address position block : String)
  | transactionCount (address block : String)
  | blockTransactionCountByHash (hash : String)
  | blockTransactionCountByNumber (block : String)
  | uncleCountByBlockHash (hash : String)
  | uncleCountByBlockNumber (block : String)
  | code (address block : String)
  | sign (address data : String)
  | signTransaction (transaction : Json)
  | sendTransaction (transaction : Json)
  | sendRawTransaction (signed : String)
  | call (object : Json) (block : String)
  | estimateGas (object : Json)
  | blockByHash (hash : String) (fullTransactions : Bool)
  | blockByNumber (block : String) (fullTransactions : Bool)
  | transactionByHash (hash : String)
  | transactionByBlockHashAndIndex (hash index : String)
  | transactionByBlockNumberAndIndex (block index : String)
  | transactionReceipt (hash : String)
  | uncleByBlockHashAndIndex (hash index : String)
  | uncleByBlockNumberAndIndex (block index : String)
  | newFilter (filter : Json)
  | newBlockFilter
  | newPendingTransactionFilter
  | uninstallFilter (id : String)
  | filterChanges (id : String)
  | filterLogs (id : String)
  | logs (filter : Json)
  | feeHistory (blockCount : UInt64) (newestBlock : String) (percentiles : List UInt64)
  | dropTransaction (hash : String)
  | dropAllTransactions
  | setNextBlockBaseFee (fee : UInt256)
  | setBalance (address : String) (balance : UInt256)
  | addBalance (address : String) (amount : UInt256)
  | dealErc20 (address token : String) (amount : UInt256)
  | poolStatus
  | poolContent

namespace Call

open Argument

/-- The name of the method. -/
def method : Call → String
  | clientVersion => "web3_clientVersion"
  | sha3 _ => "web3_sha3"
  | netVersion => "net_version"
  | netListening => "net_listening"
  | netPeerCount => "net_peerCount"
  | protocolVersion => "eth_protocolVersion"
  | syncing => "eth_syncing"
  | coinbase => "eth_coinbase"
  | mining => "eth_mining"
  | hashrate => "eth_hashrate"
  | gasPrice => "eth_gasPrice"
  | accounts => "eth_accounts"
  | blockNumber => "eth_blockNumber"
  | chainId => "eth_chainId"
  | maxPriorityFeePerGas => "eth_maxPriorityFeePerGas"
  | balance .. => "eth_getBalance"
  | storageAt .. => "eth_getStorageAt"
  | transactionCount .. => "eth_getTransactionCount"
  | blockTransactionCountByHash _ => "eth_getBlockTransactionCountByHash"
  | blockTransactionCountByNumber _ => "eth_getBlockTransactionCountByNumber"
  | uncleCountByBlockHash _ => "eth_getUncleCountByBlockHash"
  | uncleCountByBlockNumber _ => "eth_getUncleCountByBlockNumber"
  | code .. => "eth_getCode"
  | sign .. => "eth_sign"
  | signTransaction _ => "eth_signTransaction"
  | sendTransaction _ => "eth_sendTransaction"
  | sendRawTransaction _ => "eth_sendRawTransaction"
  | call .. => "eth_call"
  | estimateGas _ => "eth_estimateGas"
  | blockByHash .. => "eth_getBlockByHash"
  | blockByNumber .. => "eth_getBlockByNumber"
  | transactionByHash _ => "eth_getTransactionByHash"
  | transactionByBlockHashAndIndex .. => "eth_getTransactionByBlockHashAndIndex"
  | transactionByBlockNumberAndIndex .. => "eth_getTransactionByBlockNumberAndIndex"
  | transactionReceipt _ => "eth_getTransactionReceipt"
  | uncleByBlockHashAndIndex .. => "eth_getUncleByBlockHashAndIndex"
  | uncleByBlockNumberAndIndex .. => "eth_getUncleByBlockNumberAndIndex"
  | newFilter _ => "eth_newFilter"
  | newBlockFilter => "eth_newBlockFilter"
  | newPendingTransactionFilter => "eth_newPendingTransactionFilter"
  | uninstallFilter _ => "eth_uninstallFilter"
  | filterChanges _ => "eth_getFilterChanges"
  | filterLogs _ => "eth_getFilterLogs"
  | logs _ => "eth_getLogs"
  | feeHistory .. => "eth_feeHistory"
  | dropTransaction _ => "anvil_dropTransaction"
  | dropAllTransactions => "anvil_dropAllTransactions"
  | setNextBlockBaseFee _ => "anvil_setNextBlockBaseFeePerGas"
  | setBalance .. => "anvil_setBalance"
  | addBalance .. => "anvil_addBalance"
  | dealErc20 .. => "anvil_dealERC20"
  | poolStatus => "txpool_status"
  | poolContent => "txpool_content"

/-- The text of an amount as a parameter. -/
def amount (a : UInt256) : Json := .text (Quantity.render a.toNat)

/-- A hash and an index: both have to be hexadecimal before the length of the hash is looked at. -/
def hashAndIndex (hash index : String) : Except ArgumentError (List Json) := do
  checkHex hash
  checkHex index
  ensure (hasByteLength hash 32) .wrongHashLength
  return [.text hash, .text index]

/-- A block and an index. -/
def blockAndIndex (block index : String) : Except ArgumentError (List Json) := do
  checkBlock block
  checkHex index
  return [.text block, .text index]

/-- An address and a block. -/
def addressAndBlock (address block : String) : Except ArgumentError (List Json) := do
  checkAddress address
  checkBlock block
  return [.text address, .text block]

/-- One hash. -/
def oneHash (hash : String) : Except ArgumentError (List Json) := do
  checkHash hash
  return [.text hash]

/-- One block. -/
def oneBlock (block : String) : Except ArgumentError (List Json) := do
  checkBlock block
  return [.text block]

/-- One piece of hexadecimal data. -/
def oneHex (data : String) : Except ArgumentError (List Json) := do
  checkHex data
  return [.text data]

/-- One call object, sent as it is. -/
def oneObject (object : Json) : Except ArgumentError (List Json) := do
  checkCall object
  return [object]

/-- The parameters, or the first thing that is wrong with the arguments. -/
def params : Call → Except ArgumentError (List Json)
  | sha3 data => oneHex data
  | balance address block => addressAndBlock address block
  | storageAt address position block => do
    checkAddress address
    checkHex position
    checkBlock block
    return [.text address, .text position, .text block]
  | transactionCount address block => addressAndBlock address block
  | blockTransactionCountByHash hash => oneHash hash
  | blockTransactionCountByNumber block => oneBlock block
  | uncleCountByBlockHash hash => oneHash hash
  | uncleCountByBlockNumber block => oneBlock block
  | code address block => addressAndBlock address block
  | sign address data => do
    checkAddress address
    checkHex data
    return [.text address, .text data]
  | signTransaction transaction => oneObject transaction
  | sendTransaction transaction => oneObject transaction
  | sendRawTransaction signed => oneHex signed
  | call object block => do
    checkCall object
    checkBlock block
    return [object, .text block]
  | estimateGas object => oneObject object
  | blockByHash hash full => do
    checkHash hash
    return [.text hash, .bool full]
  | blockByNumber block full => do
    checkBlock block
    return [.text block, .bool full]
  | transactionByHash hash => oneHash hash
  | transactionByBlockHashAndIndex hash index => hashAndIndex hash index
  | transactionByBlockNumberAndIndex block index => blockAndIndex block index
  | transactionReceipt hash => oneHash hash
  | uncleByBlockHashAndIndex hash index => hashAndIndex hash index
  | uncleByBlockNumberAndIndex block index => blockAndIndex block index
  | newFilter filter => do return [← completeFilter false filter]
  | uninstallFilter id => oneHex id
  | filterChanges id => oneHex id
  | filterLogs id => oneHex id
  | logs filter => do return [← completeFilter true filter]
  | feeHistory blockCount newestBlock percentiles => do
    ensure (0 < blockCount) .badBlockCount
    checkBlock newestBlock
    ensure (arePercentiles percentiles) .badPercentiles
    return [.text (Quantity.render blockCount.toNat), .text newestBlock, .array (percentiles.map .natural)]
  | dropTransaction hash => oneHash hash
  | setNextBlockBaseFee fee => .ok [amount fee]
  | setBalance address wanted => do
    checkAddress address
    return [.text address, amount wanted]
  | addBalance address added => do
    checkAddress address
    return [.text address, amount added]
  | dealErc20 address token dealt => do
    checkAddress address
    checkAddress token
    return [.text address, .text token, amount dealt]
  | clientVersion | netVersion | netListening | netPeerCount | protocolVersion | syncing | coinbase | mining | hashrate
  | gasPrice | accounts | blockNumber | chainId | maxPriorityFeePerGas | newBlockFilter | newPendingTransactionFilter
  | dropAllTransactions | poolStatus | poolContent => .ok []

/-- The request of a call. -/
def request (c : Call) : Except ArgumentError Request := do return ⟨c.method, ← c.params⟩

end Call

end DynamicFeeWallet
