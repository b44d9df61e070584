/-!
# Settings

The settings of the wallet: how it reaches its node, and how much it tells. Every setting has a default.
-/

namespace DynamicFeeWallet

/-- How the wallet reaches its node. -/
structure NetworkSettings where
  /-- The URL of the node. -/
  rpcUrl : String := "http://localhost:8545"
  /-- The URLs of the nodes to turn to when it fails, in their order. -/
  failoverUrls : List String := []
  /-- The number of the network. -/
  chainId : UInt64 := 1
  /-- The seconds that a request may take. -/
  rpcTimeoutSecs : UInt64 := 10
  /-- The seconds between two looks for a receipt. -/
  confirmationPollSecs : UInt64 := 2
deriving DecidableEq

/-- All settings. -/
structure Settings where
  /-- How the wallet reaches its node. -/
  network : NetworkSettings := {}
  /-- How much is told: `trace`, `debug`, `info`, `warn` or `error`. -/
  logLevel : String := "info"
deriving DecidableEq

end DynamicFeeWallet
