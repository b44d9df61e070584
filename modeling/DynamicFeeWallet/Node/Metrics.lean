/-!
# Metrics

What the wallet counts: requests by method and outcome, the time that each took, estimations by outcome, and whether
the node was reachable when it was last asked.
-/

namespace DynamicFeeWallet

/-- How a request ended. -/
inductive RequestOutcome where
  /-- With a result. -/
  | ok
  /-- With an error that the node reports. -/
  | rpcError
  /-- With an answer that is no document. -/
  | parseError
  /-- Without an answer. -/
  | transportError
deriving DecidableEq

/-- The name of an outcome. -/
def RequestOutcome.name : RequestOutcome → String
  | .ok => "ok"
  | .rpcError => "rpc_error"
  | .parseError => "parse_error"
  | .transportError => "transport_error"

/-- One observation. -/
inductive Sample where
  /-- The time that a request of this method took. -/
  | latency (method : String)
  /-- A request of this method ended so. -/
  | request (method : String) (outcome : RequestOutcome)
  /-- An estimation succeeded or failed. -/
  | estimation (succeeded : Bool)
  /-- The node was reachable or not. -/
  | health (reachable : Bool)
deriving DecidableEq

/-- How the observations of a series add up. -/
inductive SeriesKind where
  /-- They are counted. -/
  | counter
  /-- The last one counts. -/
  | gauge
  /-- They are spread over their values. -/
  | histogram
deriving DecidableEq

/-- The name of a kind. -/
def SeriesKind.name : SeriesKind → String
  | .counter => "counter"
  | .gauge => "gauge"
  | .histogram => "histogram"

/-- A series of observations: its kind, its name, and its labels with their values. -/
structure Series where
  (kind : SeriesKind) (name : String) (labels : List (String × String))
deriving DecidableEq

namespace Sample

/-- The series that an observation belongs to. -/
def series : Sample → Series
  | latency method => ⟨.histogram, "wallet_rpc_request_duration_seconds", [("method", method)]⟩
  | request method outcome => ⟨.counter, "wallet_rpc_requests_total", [("method", method), ("outcome", outcome.name)]⟩
  | estimation succeeded => ⟨.counter, "wallet_estimations_total", [("outcome", if succeeded then "ok" else "failed")]⟩
  | health _ => ⟨.gauge, "wallet_node_health", []⟩

/-- The value that a series has after one more observation. -/
def apply : Sample → Nat → Nat
  | health reachable, _ => if reachable then 1 else 0
  | _, value => value + 1

/-- The series of all observations with their values, in the order of their first observation. -/
def totals (samples : List Sample) : List (Series × Nat) :=
  (samples.map series).eraseDups.map fun s =>
    (s, (samples.filter fun sample => sample.series = s).foldl (fun value sample => sample.apply value) 0)

end Sample

end DynamicFeeWallet
