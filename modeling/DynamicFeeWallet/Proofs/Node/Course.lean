import Mathlib.Logic.Relation
import DynamicFeeWallet.Proofs.Node.Reply

/-!
# One request after another

Most of what is asked of a node is asked one request after another: a request is sent, its reply is counted, and only
then comes the next one, perhaps after a pause. Such a course is put together of steps (`Journal.Step`,
`Journal.Course`), so that what one step keeps is kept all along. How the courses of parts go together is said once
(`Attempt.proceeds_bind`), with the methods that are used.
-/

namespace DynamicFeeWallet

/-! ## Courses -/

namespace Journal

/-- One step: a request of one of these methods is sent and its reply counted, or time passes. -/
inductive Step (node : Node) (P : String → Prop) (j : Journal) : Journal → Prop where
  | ask (r : Request) (h : P r.method) : Step node P j ((j.send r).count ((node j.requests r).samples r.method))
  | wait (seconds : Nat) : Step node P j { j with clock := j.clock + seconds }

/-- Any number of steps. -/
def Course (node : Node) (P : String → Prop) : Journal → Journal → Prop := Relation.ReflTransGen (Step node P)

/-- The requests of a course come after those before, and are of its methods. -/
theorem Course.requests {node : Node} {P : String → Prop} {j j' : Journal} (h : j.Course node P j') :
    ∃ more, j'.requests = j.requests ++ more ∧ ∀ r ∈ more, P r.method := by
  induction h with
  | refl => exact ⟨[], (List.append_nil _).symm, fun r hr => nomatch hr⟩
  | tail _ hstep ih =>
    obtain ⟨more, hmore, hall⟩ := ih
    cases hstep with
    | ask r hr =>
      refine ⟨more ++ [r], ?_, ?_⟩
      · rw [← List.append_assoc, ← hmore]
        exact requests_send ..
      · simpa [or_imp, forall_and] using And.intro hall hr
    | wait seconds => exact ⟨more, hmore, hall⟩

end Journal

/-- Whatever the node does, a plan takes a course with requests of these methods. -/
def Exchange.Proceeds {α : Type} (P : String → Prop) (e : Exchange α) : Prop :=
  ∀ (node : Node) (j : Journal), j.Course node P (e.run node j).2

variable {α β : Type} {P : String → Prop}

namespace Exchange

theorem proceeds_done (a : α) : (done a).Proceeds P := fun _ _ => .refl

theorem proceeds_bind {e : Exchange α} {f : α → Exchange β} (he : e.Proceeds P) (hf : ∀ a, (f a).Proceeds P) :
    (e >>= f).Proceeds P := by
  intro node j
  rw [run_bind]
  exact (he node j).trans (hf _ node _)

/-- A pause is a step of its own. -/
theorem proceeds_sleep (seconds : Nat) : (sleep seconds).Proceeds P := fun _ _ => .single (.wait seconds)

end Exchange

/-- Whatever the node does, an attempt takes a course with requests of these methods. -/
def Attempt.Proceeds (P : String → Prop) (x : Attempt α) : Prop := Exchange.Proceeds P x.run

namespace Attempt

theorem proceeds_pure (a : α) : (pure a : Attempt α).Proceeds P := Exchange.proceeds_done _

theorem proceeds_throw (error : WalletError) : (throw error : Attempt α).Proceeds P := Exchange.proceeds_done _

theorem proceeds_bind {x : Attempt α} {f : α → Attempt β} (hx : x.Proceeds P) (hf : ∀ a, (f a).Proceeds P) :
    (x >>= f).Proceeds P := by
  refine Exchange.proceeds_bind hx fun outcome => ?_
  cases outcome with
  | ok a => exact hf a
  | error error => exact Exchange.proceeds_done _

/-- A condition is checked before the rest. -/
theorem proceeds_unless {refused : Prop} [Decidable refused] {error : WalletError} {rest : Unit → Attempt α}
    (hrest : (rest ()).Proceeds P) : Proceeds P (if refused then throw error >>= rest else rest ()) := by
  split
  · exact proceeds_throw error
  · exact hrest

/-- A plan within an attempt takes the course of the plan. -/
theorem proceeds_lift {e : Exchange α} (he : e.Proceeds P) : (liftM e : Attempt α).Proceeds P :=
  Exchange.proceeds_bind he fun _ => Exchange.proceeds_done _

end Attempt

open Attempt

/-! ## Requests -/

/-- The request of a call has its method. -/
theorem Call.method_of_request_eq_ok {call : Call} {request : Request} (h : call.request = .ok request) :
    request.method = call.method := by
  unfold Call.request at h
  cases hparams : call.params with
  | error error => rw [hparams] at h; nomatch h
  | ok params => rw [hparams] at h; cases h; rfl

namespace Client

variable (client : Client)

/-- A request that is sent off is one step. -/
theorem proceeds_send {request : Request} (h : P request.method) : (client.send request).Proceeds P := by
  intro node j
  rw [run_send]
  exact .single (.ask request h)

/-- Nothing more is asked for what is made of a response document. -/
theorem proceeds_verdict (submit : Json → α) (refused : Json → WalletError) (document : Json) :
    (match Outcome.ofResponse document with
      | .success result => return submit result
      | .failure error => throw (refused error) : Attempt α).Proceeds P := by
  cases Outcome.ofResponse document with
  | success result => exact proceeds_pure _
  | failure error => exact proceeds_throw _

/-- A request for a result is one step, whatever is made of the reply. -/
theorem proceeds_call {request : Request} (h : P request.method) : (client.call request).Proceeds P :=
  proceeds_bind (client.proceeds_send h) (proceeds_verdict id _)

/-- What is done with the request of a call is done only when its arguments are in order. -/
theorem proceeds_prepare {call : Call} (h : P call.method) {f : Request → Attempt α}
    (hf : ∀ request, P request.method → (f request).Proceeds P) : (prepare call >>= f).Proceeds P := by
  unfold prepare
  cases hrequest : call.request with
  | error error => exact proceeds_throw _
  | ok request => exact hf request (Call.method_of_request_eq_ok hrequest ▸ h)

/-- A call is one step, or none when its arguments are refused. -/
theorem proceeds_sendCall {call : Call} (h : P call.method) : (client.sendCall call).Proceeds P :=
  proceeds_prepare h fun _ => client.proceeds_send

theorem proceeds_ask {call : Call} (h : P call.method) : (client.ask call).Proceeds P :=
  proceeds_prepare h fun _ => client.proceeds_call

/-- The number of the chain is asked for once. -/
theorem proceeds_fetchChainId (h : P Call.chainId.method) : client.fetchChainId.Proceeds P := by
  refine proceeds_bind (client.proceeds_ask h) fun result => ?_
  cases result.asText?.bind fun s => readChainId (dropMarks s.toList) with
  | some id => exact proceeds_pure id
  | none => exact proceeds_throw _

/-- To compare the number of the chain takes no request more. -/
theorem proceeds_verifyChainId (h : P Call.chainId.method) : client.verifyChainId.Proceeds P := by
  refine proceeds_bind (client.proceeds_fetchChainId h) fun actual => ?_
  split
  · exact proceeds_pure ()
  · exact proceeds_throw _

end Client

end DynamicFeeWallet
