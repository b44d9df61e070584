import DynamicFeeWallet.Config.Settings
import DynamicFeeWallet.Toml.Parser

/-!
# Settings from documents

The settings stand in two groups, `network` and `observability`. Members that a document does not give keep their
defaults, and members that it gives besides are passed over; a member of another type is refused. A group may also be
given as a row of its members in their order. A date in place of a group gives no member.
-/

namespace DynamicFeeWallet

namespace Toml

/-- What a value gives for the named members of a group: a table by their names, a row in their order. -/
def groupMembers? (names : List String) : Toml → Option (List (Option Toml))
  | table _ entries => some (names.map fun name => Entries.get? entries name)
  | array items => some ((List.range names.length).map fun i => items[i]?)
  | tables rows => some ((List.range names.length).map fun i => rows[i]?.map (table .stated))
  | date _ => some (names.map fun _ => none)
  | _ => none

/-- The text that a value is. -/
def text? : Toml → Option String
  | text s => some s
  | _ => none

/-- The number of 64 bits that a value is. -/
def word? : Toml → Option UInt64
  | whole n => if 0 ≤ n then some (UInt64.ofNat n.toNat) else none
  | _ => none

/-- The row of texts that a value is. -/
def texts? : Toml → Option (List String)
  | array items => items.mapM text?
  | tables rows => if rows.isEmpty then some [] else none
  | _ => none

/-- A member that keeps its default when it is not given. -/
def member {α : Type} (read : Toml → Option α) (fallback : α) : Option Toml → Option α
  | none => some fallback
  | some value => read value

end Toml

open Toml

/-- The names of the members of the network group, in their order. -/
def NetworkSettings.names : List String :=
  ["rpc_url", "failover_urls", "chain_id", "rpc_timeout_secs", "confirmation_poll_secs"]

/-- The network group that a value gives. -/
def NetworkSettings.ofToml? (value : Toml) : Option NetworkSettings := do
  let fallback : NetworkSettings := {}
  match ← groupMembers? NetworkSettings.names value with
  | [rpcUrl, failoverUrls, chainId, rpcTimeoutSecs, confirmationPollSecs] =>
    return {
      rpcUrl := ← member text? fallback.rpcUrl rpcUrl
      failoverUrls := ← member texts? fallback.failoverUrls failoverUrls
      chainId := ← member word? fallback.chainId chainId
      rpcTimeoutSecs := ← member word? fallback.rpcTimeoutSecs rpcTimeoutSecs
      confirmationPollSecs := ← member word? fallback.confirmationPollSecs confirmationPollSecs }
  | _ => none

/-- The level of the log that the observability group gives. -/
def logLevelOfToml? (value : Toml) : Option String := do
  let fallback : Settings := {}
  match ← groupMembers? ["log_level"] value with
  | [logLevel] => member text? fallback.logLevel logLevel
  | _ => none

/-- The settings that a value gives. -/
def Settings.ofToml? (value : Toml) : Option Settings := do
  let fallback : Settings := {}
  match ← groupMembers? ["network", "observability"] value with
  | [network, observability] =>
    return {
      network := ← member NetworkSettings.ofToml? fallback.network network
      logLevel := ← member logLevelOfToml? fallback.logLevel observability }
  | _ => none

/-- The settings that a document gives. -/
def Settings.ofDocument? (document : String) : Option Settings := do Settings.ofToml? (← Toml.parse? document)

end DynamicFeeWallet
