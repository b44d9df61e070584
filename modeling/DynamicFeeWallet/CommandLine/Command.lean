import DynamicFeeWallet.CommandLine.Arguments
import DynamicFeeWallet.Config.Validation

/-!
# Commands

What each command does: the requests that it makes and the lines that it prints. A command that fails keeps the lines
that it has printed. A transfer is prepared up to its signature first; a dry run prints it then and sends nothing.
-/

namespace DynamicFeeWallet

/-- What is sent where, and how. -/
structure Transfer where
  /-- The destination; none creates a contract. -/
  destination : Option String
  /-- The amount. -/
  value : String
  /-- The data. -/
  data : Option String
  /-- How the fees are chosen. -/
  level : FeeLevel
  /-- The transaction is printed and not sent. -/
  dryRun : Bool
  /-- How long to wait until it is mined. -/
  wait : Option UInt64

/-- A command with its arguments. -/
inductive Command where
  /-- Makes an account, of a phrase or at random. -/
  | newAccount (name : String) (phrase : Option String)
  /-- Prints a balance. -/
  | balance (address : String)
  /-- Signs a message. -/
  | signMessage (message : String)
  /-- Finds the signer of a message. -/
  | recover (message signature : String)
  /-- Reads a transaction. -/
  | decode (encoded : String)
  /-- Sends a transaction. -/
  | transfer (t : Transfer)
  /-- Drops a transaction. -/
  | drop (hash : String)

/-- A command, and the settings that the arguments change. -/
structure Invocation where
  /-- The path of the settings. -/
  config : Option String
  /-- The URL of the node. -/
  rpcUrl : Option String
  /-- The number of the network. -/
  chainId : Option UInt64
  /-- The command. -/
  command : Command

/-- Why a command fails. -/
inductive CommandError where
  /-- The file of the settings cannot be read. -/
  | unreadableFile (path : String)
  /-- The settings are not in order. -/
  | settings (error : SettingsError)
  /-- The wallet fails. -/
  | wallet (error : WalletError)
  /-- The amount of a transfer is none. -/
  | badAmount (text : String)
  /-- The node's balance cannot be read. -/
  | badBalance

/-- What is said when a command fails. -/
def CommandError.message : CommandError → String
  | unreadableFile path => s!"IO error: {path}"
  | settings error => error.message
  | wallet error => error.message
  | badAmount text => s!"invalid value '{text}'"
  | badBalance => "node returned an invalid balance"

/-- The variable of the environment that holds the private key. -/
def keyVariable : String := "WALLET_PRIVATE_KEY"

/-- What a command finds in its environment: the private key, and a secret drawn at random. -/
structure Environment where
  (key : Option String) (random : Hash)

/-- A plan that prints lines and may fail. -/
abbrev Script (α : Type) := ExceptT CommandError (StateT (List String) Exchange) α

namespace Script

/-- Prints a line. -/
def say (line : String) : Script Unit := modify (· ++ [line])

/-- Carries out an attempt. -/
def await {α : Type} (a : Attempt α) : Script α :=
  ExceptT.mk do return (← StateT.lift a.run).mapError .wallet

/-- Gives a result, or fails with it. -/
def give {α : Type} (result : Except WalletError α) : Script α := ExceptT.mk (pure (result.mapError .wallet))

/-- The lines that a script prints, and why it fails if it does. -/
def outcome (s : Script Unit) : Exchange (List String × Option CommandError) := do
  match ← s.run.run [] with
  | (.ok _, lines) => return (lines, none)
  | (.error error, lines) => return (lines, some error)

end Script

open Script

/-- The private key of the environment. -/
def Environment.readKey (env : Environment) : Except WalletError String :=
  match env.key with
  | some key => .ok key
  | none => .error (.setup (.noKey keyVariable))

/-- The account of a secret drawn at random. -/
def Wallet.randomAccount (w : Wallet) (name : String) (secret : Hash) : Except WalletError Account :=
  match PrivateKey.ofNat? secret.toNat with
  | some key => .ok ⟨key.address, name, key, 0, w.client⟩
  | none => .error (.setup (.badKey .outOfRange))

/-- Builds, prices and signs a transfer. -/
def Wallet.prepareTransfer (w : Wallet) (env : Environment) (t : Transfer) : Script (Transaction × String) := do
  match Quantity.ofAnyBase? t.value with
  | none => throw (.badAmount t.value)
  | some value =>
    let key ← give env.readKey
    let sender := (← give (Wallet.readKey key)).address.checksum
    let account ← await (w.getAccount sender "cli" key none)
    let skeleton ← give (w.buildTransaction sender account.nonce t.destination t.data value [])
    let transaction ← await (w.estimateTransaction skeleton t.level)
    let (signed, transaction) := w.signTransaction transaction key
    return (transaction, ← give signed)

/-- Sends what was signed, prints what the node says to it, and waits for it if asked to. -/
def Wallet.submitTransfer (w : Wallet) (t : Transfer) (signed : String) : Script Unit := do
  let submission ← await (w.sendTransaction signed)
  say submission.result.render
  match t.wait, submission.result.asText? with
  | some seconds, some hash => say (← await (w.waitForConfirmation hash seconds)).inspect
  | _, _ => return ()

/-- Carries out a transfer. -/
def Wallet.transfer (w : Wallet) (env : Environment) (t : Transfer) : Script Unit := do
  let (transaction, signed) ← w.prepareTransfer env t
  if t.dryRun then
    say transaction.describe.1
    say signed
  else w.submitTransfer t signed

/-- What a command does. -/
def Command.script (w : Wallet) (env : Environment) : Command → Script Unit
  | newAccount name phrase => do
    let account ← give <|
      match phrase with
      | some phrase => w.createAccount name phrase
      | none => w.randomAccount name env.random
    say s!"address:     {account.address.checksum}"
    say s!"private key: {account.key.toHash.toHex}"
  | balance address => do
    let result ← await (w.client.ask (.balance address "latest"))
    match Quantity.ofJson? result with
    | some amount => say (toString amount)
    | none => throw .badBalance
  | signMessage message => do
    let key ← give env.readKey
    say (← give (w.signMessage (Bytes.ofText message) key))
  | recover message signature => do
    say (← give (w.recoverSigner (Bytes.ofText message) signature)).checksum
  | decode encoded => do
    let transaction ← give ((Transaction.decodeHex .signer encoded).mapError .transaction)
    say transaction.describe.1
  | transfer t => w.transfer env t
  | drop hash => do
    say (← await (w.dropTransaction hash)).result.render

namespace Invocation

/-- The settings: those of the document, or the defaults, with what the arguments change. -/
def settings (i : Invocation) (document : Option String) : Except CommandError Settings := do
  let base ← match i.config, document with
    | none, _ => pure {}
    | some path, none => throw (.unreadableFile path)
    | some _, some document => (Settings.parse document).mapError .settings
  let network := base.network
  let changed := { base with network := { network with
    rpcUrl := i.rpcUrl.getD network.rpcUrl
    chainId := i.chainId.getD network.chainId } }
  changed.validate.mapError .settings

/-- What an invocation does over a node with these settings. -/
def run (i : Invocation) (s : Settings) (env : Environment) : Exchange (List String × Option CommandError) :=
  (i.command.script ⟨⟨s.network⟩⟩ env).outcome

end Invocation

namespace CommandLine

/-- The command of a name with what was given to it. -/
def command? (c : CommandSpec) (g : Given) : Option Command :=
  let option (name : String) : Option String :=
    g.value? name <|> (c.options.find? (·.name == name)).bind OptionSpec.fallback
  match c.name, g.words with
  | "new-account", [] => some (.newAccount ((option "name").getD "") (option "seed"))
  | "balance", [address] => some (.balance address)
  | "sign-message", [message] => some (.signMessage message)
  | "recover", [message, signature] => some (.recover message signature)
  | "decode", [encoded] => some (.decode encoded)
  | "transfer", [] => some <| .transfer {
      destination := option "to"
      value := (option "value").getD ""
      data := option "data"
      level := ((option "fee-level").bind FeeLevel.ofText?).getD .medium
      dryRun := (g.value? "dry-run").isSome
      wait := (option "wait").bind number? }
  | "drop", [hash] => some (.drop hash)
  | _, _ => none

/-- Reads the arguments. -/
def parse (arguments : List String) : Except Ending Invocation := do
  let (c, before, after) ← scanAll arguments
  let shared (name : String) : Option String := after.value? name <|> before.value? name
  match command? c after with
  | none => throw .misuse
  | some command =>
    return { config := shared "config", rpcUrl := shared "rpc-url", chainId := (shared "chain-id").bind number?, command }

end CommandLine

end DynamicFeeWallet
