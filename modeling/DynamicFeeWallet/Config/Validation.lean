import DynamicFeeWallet.Config.Decoding
import DynamicFeeWallet.Text.Blank
import DynamicFeeWallet.Text.Case
import DynamicFeeWallet.Url.Parser

/-!
# Validation of settings

Settings are looked through as a whole, and every problem is told, in the order of the settings. URLs have to be of
the web, numbers greater than zero, and the level of the log one of five, whatever its case.
-/

namespace DynamicFeeWallet

/-- A setting. -/
inductive SettingName where
  /-- The URL of the node. -/
  | rpcUrl
  /-- One of the URLs to turn to, by its place. -/
  | failoverUrl (place : Nat)
  /-- The number of the network. -/
  | chainId
  /-- The seconds that a request may take. -/
  | rpcTimeoutSecs
  /-- The seconds between two looks for a receipt. -/
  | confirmationPollSecs
  /-- How much is told. -/
  | logLevel
deriving DecidableEq

/-- The path of a setting. -/
def SettingName.path : SettingName → String
  | rpcUrl => "network.rpc_url"
  | failoverUrl place => s!"network.failover_urls[{place}]"
  | chainId => "network.chain_id"
  | rpcTimeoutSecs => "network.rpc_timeout_secs"
  | confirmationPollSecs => "network.confirmation_poll_secs"
  | logLevel => "observability.log_level"

/-- What is wrong with a setting. -/
inductive Problem where
  /-- It is empty or blank. -/
  | empty
  /-- It is a URL of another scheme than those of the web. -/
  | unsupportedScheme (scheme : String)
  /-- It is no URL. -/
  | badUrl (url : String) (error : UrlError)
  /-- It is zero. -/
  | zero
  /-- It names no level. -/
  | unknownLevel (level : String)
deriving DecidableEq

/-- What is said of a problem. -/
def Problem.message : Problem → String
  | empty => "must not be empty"
  | unsupportedScheme scheme => s!"unsupported scheme '{scheme}'"
  | badUrl url error => s!"invalid URL '{url}': {error.message}"
  | zero => "must be greater than 0"
  | unknownLevel level => s!"unknown level '{level}'"

/-- A setting and what is wrong with it. -/
structure Finding where
  (setting : SettingName) (problem : Problem)
deriving DecidableEq

/-- What is said of a finding. -/
def Finding.message (f : Finding) : String := s!"{f.setting.path}: {f.problem.message}"

/-- What is wrong with the text of a URL. -/
def Problem.ofUrl? (text : String) : Option Problem :=
  match Url.parse text with
  | .ok url => if ["http", "https"].contains url.scheme then none else some (unsupportedScheme url.scheme)
  | .error error => some (badUrl text error)

/-- What is wrong with the URL of the node. -/
def Problem.ofRpcUrl? (text : String) : Option Problem := if Text.isAllBlank text then some empty else ofUrl? text

/-- What is wrong with a number. -/
def Problem.ofNumber? (n : UInt64) : Option Problem := if n = 0 then some zero else none

/-- The levels of the log. -/
def logLevels : List String := ["trace", "debug", "info", "warn", "error"]

/-- What is wrong with a level of the log. -/
def Problem.ofLogLevel? (level : String) : Option Problem :=
  if logLevels.contains (Text.lowerCase level) then none else some (unknownLevel level)

/-- All that may be wrong with settings, in the order of the settings. -/
def Settings.checks (s : Settings) : List (SettingName × Option Problem) :=
  [(.rpcUrl, Problem.ofRpcUrl? s.network.rpcUrl)] ++
    s.network.failoverUrls.zipIdx.map (fun (url, place) => (.failoverUrl place, Problem.ofUrl? url)) ++
    [(.chainId, Problem.ofNumber? s.network.chainId), (.rpcTimeoutSecs, Problem.ofNumber? s.network.rpcTimeoutSecs),
      (.confirmationPollSecs, Problem.ofNumber? s.network.confirmationPollSecs),
      (.logLevel, Problem.ofLogLevel? s.logLevel)]

/-- All that is wrong with settings. -/
def Settings.findings (s : Settings) : List Finding :=
  s.checks.filterMap fun (setting, problem) => problem.map (Finding.mk setting)

/-- Why there are no settings. -/
inductive SettingsError where
  /-- The text is no document, or a member has another type. -/
  | unreadable
  /-- The settings have problems. -/
  | invalid (findings : List Finding)
deriving DecidableEq

/-- What is said when there are no settings. -/
def SettingsError.message : SettingsError → String
  | unreadable => "Parse error"
  | invalid findings => "Validation failed: " ++ ", ".intercalate (findings.map Finding.message)

/-- The settings, unless something is wrong with them. -/
def Settings.validate (s : Settings) : Except SettingsError Settings :=
  if s.findings.isEmpty then .ok s else .error (.invalid s.findings)

/-- The settings of a document, unless something is wrong with them. -/
def Settings.parse (document : String) : Except SettingsError Settings :=
  match Settings.ofDocument? document with
  | some s => s.validate
  | none => .error .unreadable

end DynamicFeeWallet
