import DynamicFeeWallet.Node.Client

/-!
# Accounts

A named key with the number of its next transaction. Balances are always asked for and never kept; whatever goes wrong
with a balance is told as zero.
-/

namespace DynamicFeeWallet

/-- A named key with the number of its next transaction. -/
structure Account where
  /-- The address that the key controls. -/
  address : Address
  /-- The name. -/
  name : String
  /-- The key. -/
  key : PrivateKey
  /-- The number of the next transaction. -/
  nonce : UInt64
  /-- The client of the node. -/
  client : Client

namespace Account

/-- The number of transactions that an address has sent, as the node reports it. -/
def fetchNonce (client : Client) (address : Address) : Attempt UInt64 := do
  let result ← client.ask (.transactionCount address.checksum "latest")
  match (Quantity.ofJson? result).bind UInt256.toUInt64? with
  | some nonce => return nonce
  | none => throw (.node (.badTransactionCount result))

/-- The account of an address, a name and a key. The key has to control the address; the nonce is fetched when it is
not given. -/
def load (client : Client) (address : Address) (name : String) (key : PrivateKey) (nonce : Option UInt64) :
    Attempt Account := do
  if key.address ≠ address then throw (.keyMismatch address)
  match nonce with
  | some nonce => return ⟨address, name, key, nonce, client⟩
  | none => return ⟨address, name, key, ← fetchNonce client address, client⟩

/-- The account with its nonce fetched anew. -/
def refreshNonce (account : Account) : Attempt Account := do
  return { account with nonce := ← fetchNonce account.client account.address }

/-- The balance, as the node reports it. -/
def fetchBalance (account : Account) : Attempt UInt256 := do
  let result ← account.client.ask (.balance account.address.checksum "latest")
  match Quantity.ofJson? result with
  | some balance => return balance
  | none => throw (.node (.badBalance result))

/-- The balance, or zero. -/
def balance (account : Account) : Exchange UInt256 := do
  match ← account.fetchBalance.run with
  | .ok balance => return balance
  | .error _ => return .zero

/-- The balance after a call that changes it, or zero; the balance is not asked for when the call fails. -/
def balanceAfter (account : Account) (call : Call) : Exchange UInt256 := do
  match ← (account.client.ask call).run with
  | .ok _ => account.balance
  | .error _ => return .zero

/-- Credits an amount on a development node and gives the new balance. -/
def addBalance (account : Account) (amount : UInt256) : Exchange UInt256 :=
  account.balanceAfter (.addBalance account.address.checksum amount)

/-- Sets the balance on a development node and gives the new balance. -/
def setBalance (account : Account) (amount : UInt256) : Exchange UInt256 :=
  account.balanceAfter (.setBalance account.address.checksum amount)

/-- Gives the account an amount of a token on a development node; the result is the response document. -/
def dealErc20 (account : Account) (token : Address) (amount : UInt256) : Attempt Json :=
  account.client.sendCall (.dealErc20 account.address.checksum token.checksum amount)

/-- The account as it is shown for inspection, without its key. -/
def inspect (account : Account) : String :=
  s!"Account \x7b address: {account.address.toHex}, name: {Text.quoted account.name}, private_key: \"<redacted>\", " ++
    s!"nonce: {account.nonce} \x7d"

end Account

end DynamicFeeWallet
