import DynamicFeeWallet.Json.Basic
import DynamicFeeWallet.Request.Argument

/-!
# Call objects and log filters

The two compound arguments of requests. A call object is checked and sent as it is: who sends it, to whom, nine members of
hexadecimal data, and an access list. A log filter is checked and completed: a bound that is missing becomes `latest`.
-/

namespace DynamicFeeWallet.Argument

/-- A member that may be missing or `null` and otherwise has to be a text that passes a check. -/
def checkOptionalText (check : String → Except ArgumentError Unit) (wrongShape : ArgumentError) :
    Option Json → Except ArgumentError Unit
  | none => .ok ()
  | some .null => .ok ()
  | some (.text s) => check s
  | some _ => .error wrongShape

/-- The members of a call object that hold hexadecimal data, in the order of their check. -/
def callHexFields : List String :=
  ["data", "input", "gas", "gasPrice", "maxFeePerGas", "maxPriorityFeePerGas", "value", "nonce", "chainId"]

/-- The sender of a call, which has to be given. -/
def checkSender : Option Json → Except ArgumentError Unit
  | some (.text s) => checkAddress s
  | none => .error .notAddress
  | some .null => .error .notAddress
  | some _ => .error (.badField "from")

/-- A storage key of an access list. -/
def checkStorageKey : Json → Except ArgumentError Unit
  | .text s => checkHash s
  | _ => .error (.badField "accessList")

/-- An item of an access list: an address, then its storage keys. -/
def checkAccessItem (item : Json) : Except ArgumentError Unit := do
  match item.get? "address" with
  | some (.text s) => checkAddress s
  | _ => throw (.badField "accessList")
  match item.get? "storageKeys" with
  | some (.array keys) => keys.forM checkStorageKey
  | _ => throw (.badField "accessList")

/-- The access list of a call. -/
def checkAccessList : Option Json → Except ArgumentError Unit
  | none => .ok ()
  | some .null => .ok ()
  | some (.array items) => items.forM checkAccessItem
  | some _ => .error (.badField "accessList")

/-- A call object: sender, destination, hexadecimal members, access list, in this order. -/
def checkCall : Json → Except ArgumentError Unit
  | .members fields => do
    checkSender (Members.get? fields "from")
    checkOptionalText checkAddress (.badField "to") (Members.get? fields "to")
    callHexFields.forM fun name => checkOptionalText checkHex (.badField name) (Members.get? fields name)
    checkAccessList (Members.get? fields "accessList")
  | _ => .error (.badField "callObject")

/-- A bound of a filter: `latest` when it is missing, and otherwise a block. -/
def completeBound (name : String) (fields : Members) : Except ArgumentError Members :=
  match fields.get? name with
  | none => .ok (fields.insert name (.text "latest"))
  | some .null => .ok (fields.insert name (.text "latest"))
  | some (.text s) => do
    checkBlock s
    return fields
  | some _ => .error .badBlock

/-- An item of a row of addresses. -/
def checkAddressItem : Json → Except ArgumentError Unit
  | .text s => checkAddress s
  | _ => .error (.badField "address")

/-- The addresses of a filter: none, one or a row. -/
def checkFilterAddresses : Option Json → Except ArgumentError Unit
  | none => .ok ()
  | some .null => .ok ()
  | some (.text s) => checkAddress s
  | some (.array items) => items.forM checkAddressItem
  | some _ => .error (.badField "address")

/-- A topic: any, or hexadecimal data. -/
def checkTopic : Json → Except ArgumentError Unit
  | .null => .ok ()
  | .text s => checkHex s
  | _ => .error (.badField "topics")

/-- The topics at one place: one, or a row of alternatives. -/
def checkTopicPlace : Json → Except ArgumentError Unit
  | .array alternatives => alternatives.forM checkTopic
  | topic => checkTopic topic

/-- The topics of a filter. -/
def checkTopics : Option Json → Except ArgumentError Unit
  | none => .ok ()
  | some .null => .ok ()
  | some (.array places) => places.forM checkTopicPlace
  | some _ => .error (.badField "topics")

/-- A filter with its missing bounds filled in; the hash of a block is looked at only where one may be given. -/
def completeFilter (allowBlockHash : Bool) : Json → Except ArgumentError Json
  | .members fields => do
    let fields ← completeBound "fromBlock" fields
    let fields ← completeBound "toBlock" fields
    checkFilterAddresses (fields.get? "address")
    checkTopics (fields.get? "topics")
    if allowBlockHash then
      ["blockHash", "blockhash"].forM fun name =>
        checkOptionalText checkHash (.badField "blockHash") (fields.get? name)
    return .members fields
  | _ => .error (.badField "filter")

end DynamicFeeWallet.Argument
