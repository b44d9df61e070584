import DynamicFeeWallet.Config.Settings
import DynamicFeeWallet.Node.Exchange
import DynamicFeeWallet.Url.Parser

/-!
# Endpoints

A node may be reached at several endpoints. A request goes to the first one, and to the next one whenever an endpoint
fails, is too slow, or answers with anything but success; the first success is the reply, and when there is none the
number of endpoints that were tried is told. `Endpoints.node` makes one node of a web of endpoints.
-/

namespace DynamicFeeWallet

/-- What comes back from an endpoint. -/
inductive Answer where
  /-- A status and a text. -/
  | answered (status : Nat) (text : String)
  /-- Nothing, because the request failed. -/
  | failed (reason : String)
  /-- Nothing in time. -/
  | timedOut
deriving DecidableEq

/-- The text of a success. -/
def Answer.success? : Answer → Option String
  | answered status text => if 200 ≤ status ∧ status ≤ 299 then some text else none
  | _ => none

/-- The endpoints of a node: one, and those to turn to when it fails, in their order. -/
structure Endpoints where
  (primary : Url) (others : List Url)
deriving DecidableEq

namespace Endpoints

/-- All endpoints in their order. -/
def all (e : Endpoints) : List Url := e.primary :: e.others

/-- The endpoints that settings name. The first one has to be a URL; others that are none are left out. -/
def ofSettings (s : NetworkSettings) : Except TransportError Endpoints :=
  match Url.parse s.rpcUrl with
  | .error error => .error (.badUrl s.rpcUrl error)
  | .ok primary => .ok ⟨primary, s.failoverUrls.filterMap fun text => (Url.parse text).toOption⟩

/-- Sends a request to some endpoints until one succeeds. -/
def sendTo {m : Type → Type} [Monad m] (post : Url → Request → m Answer) (request : Request) :
    List Url → m (Option String)
  | [] => return none
  | url :: rest => do
    match (← post url request).success? with
    | some text => return some text
    | none => sendTo post request rest

/-- Sends a request and gives the first success. -/
def send {m : Type → Type} [Monad m] (post : Url → Request → m Answer) (e : Endpoints) (request : Request) : m Reply := do
  match ← sendTo post request e.all with
  | some text => return .ok text
  | none => return .error (.exhausted e.all.length)

end Endpoints

/-- A request that was sent to an endpoint. -/
structure Delivery where
  (url : Url) (request : Request)

/-- How endpoints behave: what comes back for a delivery, given the deliveries before it. -/
abbrev Web := List Delivery → Delivery → Answer

/-- Sends a request to an endpoint of a web and keeps the delivery. -/
def Web.post (web : Web) (url : Url) (request : Request) : StateM (List Delivery) Answer := fun past =>
  (web past ⟨url, request⟩, past ++ [⟨url, request⟩])

namespace Endpoints

/-- The deliveries that requests lead to, one after the other. -/
def deliveries (e : Endpoints) (web : Web) (requests : List Request) : List Delivery :=
  requests.foldl (fun past request => ((e.send web.post request).run past).2) []

/-- The node that answers at the endpoints. -/
def node (e : Endpoints) (web : Web) : Node :=
  fun past request => ((e.send web.post request).run (e.deliveries web past)).1

end Endpoints

end DynamicFeeWallet
