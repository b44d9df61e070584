import DynamicFeeWallet.Node.Client

/-!
# What a reply comes to

A request is handed over, and its reply is taken in and counted. What a reply comes to depends on the reply and the
method alone (`Reply.document`, `Reply.outcome`, `Reply.result`); here each operation of the client is given by it
(`Client.run_receive`, `Client.run_send`, `Client.run_report_send`), so that plans need not be opened further up.
-/

namespace DynamicFeeWallet

/-! ## Journals -/

namespace Journal

/-- One more request. -/
def send (j : Journal) (r : Request) : Journal := { j with sent := j.sent ++ [⟨r, j.clock⟩] }

/-- More observations. -/
def count (j : Journal) (samples : List Sample) : Journal := { j with samples := j.samples ++ samples }

variable (node : Node) (j : Journal) (r : Request)

@[simp] theorem requests_send : (j.send r).requests = j.requests ++ [r] := by simp [requests, send]

@[simp] theorem samples_count (samples : List Sample) : (j.count samples).samples = j.samples ++ samples := rfl

theorem length_requests : j.requests.length = j.sent.length := by simp [requests]

/-- The reply to the newest request is the one to it after those before. -/
theorem reply_send : (j.send r).reply node j.sent.length = node j.requests r := by
  unfold reply
  rw [requests_send, ← length_requests, List.getElem?_concat_length, List.take_left]

end Journal

/-! ## Running plans and attempts -/

/-- The second part of a plan is carried out from where the first one ends. -/
theorem Exchange.run_bind {α β : Type} (e : Exchange α) (f : α → Exchange β) (node : Node) (j : Journal) :
    (e >>= f).run node j = (f (e.run node j).1).run node (e.run node j).2 := Exchange.run_andThen node e f j

/-- The second part of an attempt is made when the first one succeeds. -/
theorem Attempt.run_bind {α β : Type} (x : Attempt α) (f : α → Attempt β) (node : Node) (j : Journal) :
    (x >>= f).run.run node j =
      match x.run.run node j with
      | (.ok a, j') => (f a).run.run node j'
      | (.error error, j') => (.error error, j') := by
  rw [ExceptT.run_bind, Exchange.run_bind]
  generalize x.run.run node j = first
  obtain ⟨outcome, j'⟩ := first
  cases outcome <;> rfl

/-- A plan that cannot fail, made as an attempt, succeeds. -/
theorem Attempt.run_lift {α : Type} (e : Exchange α) (node : Node) (j : Journal) :
    (liftM e : Attempt α).run.run node j = (.ok (e.run node j).1, (e.run node j).2) :=
  Exchange.run_bind e _ node j

/-- Some seconds later. -/
def Journal.wait (j : Journal) (seconds : Nat) : Journal := { j with clock := j.clock + seconds }

/-- An attempt goes on after a pause. -/
theorem Attempt.run_sleep_bind {α : Type} (seconds : Nat) (f : Unit → Attempt α) (node : Node) (j : Journal) :
    ((liftM (Exchange.sleep seconds) : Attempt Unit) >>= f).run.run node j = (f ()).run.run node (j.wait seconds) := by
  rw [run_bind, run_lift]
  rfl

/-! ## Replies -/

namespace Reply

/-- The document of the reply to a request of this method, or why there is none. -/
def document (method : String) : Reply → Except SendError Json
  | .error error => .error (.transport error)
  | .ok text =>
    match Json.parse? text with
    | none => .error (.unparseable method)
    | some document => .ok document

/-- How the request is counted. -/
def outcome : Reply → RequestOutcome
  | .error _ => .transportError
  | .ok text =>
    match Json.parse? text with
    | none => .parseError
    | some document =>
      match Outcome.ofResponse document with
      | .success _ => .ok
      | .failure _ => .rpcError

/-- What is counted when the reply to a request of this method is taken in. -/
def samples (method : String) (reply : Reply) : List Sample := [.latency method, .request method reply.outcome]

/-- What the reply to a request of this method comes to: the result of its document, or a failure when there is no
document or the node refuses. -/
def result (method : String) (refused : Json → WalletError) (reply : Reply) : Except WalletError Json :=
  match reply.document method with
  | .error error => .error (.ofSend error)
  | .ok document =>
    match Outcome.ofResponse document with
    | .success result => .ok result
    | .failure error => .error (refused error)

/-- A request without a response document is put on the node. -/
theorem kind_ofSend (error : SendError) : (WalletError.ofSend error).kind = .protocol := by cases error <;> rfl

/-- There is a document when the reply is the text of one. -/
theorem document_eq_ok {method : String} {reply : Reply} {document : Json} :
    reply.document method = .ok document ↔ ∃ text, reply = .ok text ∧ Json.parse? text = some document := by
  unfold Reply.document
  cases reply with
  | error error => simp
  | ok text => cases hparse : Json.parse? text <;> simp [hparse]

end Reply

namespace Client

variable (node : Node) (j : Journal) (request : Request)

/-- Taking in a reply counts it and gives its document, and does nothing else. -/
theorem run_receive (ticket : Ticket) :
    (receive request ticket).run node j =
      ((j.reply node ticket).document request.method, j.count ((j.reply node ticket).samples request.method)) := by
  simp only [receive, Exchange.await, Exchange.count, Exchange.bind_eq, Exchange.andThen, Exchange.run]
  generalize j.reply node ticket = reply
  cases reply with
  | error error => simp [Exchange.run, Reply.document, Reply.samples, Reply.outcome, Journal.count]
  | ok text =>
    dsimp only
    cases hparse : Json.parse? text with
    | none => simp [Exchange.run, Reply.document, Reply.samples, Reply.outcome, Journal.count, hparse]
    | some document =>
      dsimp only
      cases houtcome : Outcome.ofResponse document <;>
        simp [Exchange.run, Reply.document, Reply.samples, Reply.outcome, Journal.count, hparse, houtcome]

/-- Sending a request hands it over and takes in its reply. -/
theorem run_send (client : Client) :
    (client.send request).run.run node j =
      (((node j.requests request).document request.method).mapError WalletError.ofSend,
        (j.send request).count ((node j.requests request).samples request.method)) := by
  have hposted : (Exchange.post request).run node j = (j.sent.length, j.send request) := rfl
  unfold send
  rw [Attempt.run_bind, Attempt.run_lift, hposted]
  dsimp only
  rw [Attempt.run_bind, Attempt.run_lift, run_receive, Journal.reply_send]
  cases (node j.requests request).document request.method <;> rfl

/-- Reports the result of a response document, or that the node refuses. -/
def report {α : Type} (response : Attempt Json) (submit : Json → α) (refused : Json → WalletError) : Attempt α := do
  match Outcome.ofResponse (← response) with
  | .success result => return submit result
  | .failure error => throw (refused error)

theorem call_eq_report (client : Client) :
    client.call request = report (client.send request) id fun error => .node (.reported error) := rfl

/-- What is reported for a request is what its reply comes to. -/
theorem run_report_send {α : Type} (client : Client) (submit : Json → α) (refused : Json → WalletError) :
    (report (client.send request) submit refused).run.run node j =
      (((node j.requests request).result request.method refused).map submit,
        (j.send request).count ((node j.requests request).samples request.method)) := by
  unfold report Reply.result
  rw [Attempt.run_bind, run_send]
  cases (node j.requests request).document request.method with
  | error error => rfl
  | ok document =>
    dsimp only [Except.mapError]
    cases Outcome.ofResponse document <;> rfl

/-- A call whose arguments are in order is asked by its request. -/
theorem ask_eq_call {call : Call} {request : Request} (h : call.request = .ok request) (client : Client) :
    client.ask call = client.call request := by
  unfold ask prepare
  rw [h]
  rfl

/-- A call whose arguments are refused is not asked. -/
theorem ask_eq_throw {call : Call} {error : ArgumentError} (h : call.request = .error error) (client : Client) :
    client.ask call = throw (.argument error) := by
  unfold ask prepare
  rw [h]
  rfl

theorem sendCall_eq_send {call : Call} {request : Request} (h : call.request = .ok request) (client : Client) :
    client.sendCall call = client.send request := by
  unfold sendCall prepare
  rw [h]
  rfl

/-- A call whose arguments are in order makes one request, and gives what its reply comes to. -/
theorem run_ask {call : Call} {request : Request} (h : call.request = .ok request) (client : Client) :
    (client.ask call).run.run node j =
      ((node j.requests request).result request.method fun error => .node (.reported error),
        (j.send request).count ((node j.requests request).samples request.method)) := by
  rw [ask_eq_call h, call_eq_report, run_report_send]
  cases (node j.requests request).result request.method fun error => .node (.reported error) <;> rfl

/-- A call whose arguments are refused sends nothing; otherwise its request is sent. -/
theorem run_report_sendCall {α : Type} (client : Client) (call : Call) (submit : Json → α)
    (refused : Json → WalletError) :
    (report (client.sendCall call) submit refused).run.run node j =
      match call.request with
      | .ok request => (report (client.send request) submit refused).run.run node j
      | .error error => (.error (.argument error), j) := by
  unfold report sendCall prepare
  cases call.request with
  | error error => rfl
  | ok request => rfl

end Client

end DynamicFeeWallet
