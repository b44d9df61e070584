import DynamicFeeWallet.Error
import DynamicFeeWallet.Node.Metrics
import DynamicFeeWallet.Request.Call

/-!
# Exchanges with a node

What the wallet does is written as an `Exchange`: a plan that hands over requests, takes in their answers, counts, and
waits, and ends in a result. A request is handed over first and its answer taken in later, by the ticket of the
request, so two tasks can take turns. `Exchange.run` carries a plan out against a node, which is a function from what
it was sent to what it answers, and keeps a journal of the requests with the time of each, and of what was counted.
-/

namespace DynamicFeeWallet

/-- The number of a request among all that were handed over. -/
abbrev Ticket := Nat

/-- What comes back for a request: a text, or the reason why there is none. -/
abbrev Reply := Except TransportError String

/-- A plan that ends in a result. -/
inductive Exchange (α : Type) where
  /-- There is a result. -/
  | done (result : α)
  /-- Hands over a request. -/
  | dispatch (request : Request) (next : Ticket → Exchange α)
  /-- Takes in the reply to a request. -/
  | collect (ticket : Ticket) (next : Reply → Exchange α)
  /-- Counts an observation. -/
  | record (sample : Sample) (next : Exchange α)
  /-- Waits. -/
  | pause (seconds : Nat) (next : Exchange α)

namespace Exchange

variable {α β : Type}

/-- One plan after another, which depends on its result. -/
def andThen : Exchange α → (α → Exchange β) → Exchange β
  | done a, f => f a
  | dispatch r next, f => dispatch r fun t => (next t).andThen f
  | collect t next, f => collect t fun reply => (next reply).andThen f
  | record s next, f => record s (next.andThen f)
  | pause n next, f => pause n (next.andThen f)

instance : Monad Exchange where
  pure := done
  bind := andThen

@[simp] theorem pure_eq (a : α) : (pure a : Exchange α) = done a := rfl

@[simp] theorem bind_eq (e : Exchange α) (f : α → Exchange β) : e >>= f = e.andThen f := rfl

theorem andThen_done (e : Exchange α) : e.andThen done = e := by
  induction e with
  | done a => rfl
  | dispatch r next ih => exact congrArg (dispatch r) (funext ih)
  | collect t next ih => exact congrArg (collect t) (funext ih)
  | record s next ih => exact congrArg (record s) ih
  | pause n next ih => exact congrArg (pause n) ih

theorem andThen_assoc {γ : Type} (e : Exchange α) (f : α → Exchange β) (g : β → Exchange γ) :
    (e.andThen f).andThen g = e.andThen fun a => (f a).andThen g := by
  induction e with
  | done a => rfl
  | dispatch r next ih => exact congrArg (dispatch r) (funext ih)
  | collect t next ih => exact congrArg (collect t) (funext ih)
  | record s next ih => exact congrArg (record s) ih
  | pause n next ih => exact congrArg (pause n) ih

instance : LawfulMonad Exchange := LawfulMonad.mk'
  Exchange
  andThen_done
  (fun _ _ => rfl)
  andThen_assoc

/-- Hands over a request. -/
def post (r : Request) : Exchange Ticket := dispatch r done

/-- Takes in the reply to a request. -/
def await (t : Ticket) : Exchange Reply := collect t done

/-- Counts an observation. -/
def count (s : Sample) : Exchange Unit := record s (done ())

/-- Waits for some seconds. -/
def sleep (seconds : Nat) : Exchange Unit := pause seconds (done ())

end Exchange

/-- How a node behaves: its reply to a request, given the requests before it. -/
abbrev Node := List Request → Request → Reply

/-- A request that was handed over, and when. -/
structure Dispatch where
  (request : Request) (time : Nat)

/-- What happened so far: the requests in their order, what was counted, and the seconds that have passed. -/
structure Journal where
  (sent : List Dispatch := []) (samples : List Sample := []) (clock : Nat := 0)

namespace Journal

/-- The requests in their order. -/
def requests (j : Journal) : List Request := j.sent.map Dispatch.request

/-- The reply to the request of a ticket, which the node decides on when it is handed over. -/
def reply (node : Node) (j : Journal) (t : Ticket) : Reply :=
  match j.requests[t]? with
  | some r => node (j.requests.take t) r
  | none => .error (.exhausted 0)

end Journal

/-- Carries out a plan against a node. -/
def Exchange.run {α : Type} (node : Node) : Exchange α → Journal → α × Journal
  | .done a, j => (a, j)
  | .dispatch r next, j => (next j.sent.length).run node { j with sent := j.sent ++ [⟨r, j.clock⟩] }
  | .collect t next, j => (next (j.reply node t)).run node j
  | .record s next, j => next.run node { j with samples := j.samples ++ [s] }
  | .pause n next, j => next.run node { j with clock := j.clock + n }

theorem Exchange.run_andThen {α β : Type} (node : Node) (e : Exchange α) (f : α → Exchange β) (j : Journal) :
    (e.andThen f).run node j = (f (e.run node j).1).run node (e.run node j).2 := by
  induction e generalizing j with
  | done a => rfl
  | dispatch r next ih => exact ih _ _
  | collect t next ih => exact ih _ _
  | record s next ih => exact ih _
  | pause n next ih => exact ih _

/-- A plan that may fail. -/
abbrev Attempt (α : Type) := ExceptT WalletError Exchange α

end DynamicFeeWallet
