import DynamicFeeWallet.Proofs.Node.Accounting
import DynamicFeeWallet.Proofs.Wallet.Requests
import DynamicFeeWallet.Proofs.Wallet.Traffic

/-!
# Conservation of what is counted

A run is any number of deeds, one after another: operations, pricings with their two requests in any turns, looks at
the health, and what an account does with its balance. Each deed is booked (`Deed.books`), with the estimations that
it asks for and the looks at the health that it takes, and so is a run by induction (`books_carryOut`). What the
series read at the end follows from the books alone.
-/

namespace DynamicFeeWallet

open Attempt

/-! ## Deeds -/

/-- One thing that is done in a run. -/
inductive Deed where
  | operation (o : Operation)
  | reprice (schedule : List Side) (w : Wallet) (t : Transaction)
  | estimateTransaction (schedule : List Side) (w : Wallet) (sk : Skeleton) (level : FeeLevel)
  | createAccount (w : Wallet) (name phrase : String)
  | send (client : Client) (request : Request)
  | isHealthy (client : Client)
  | load (client : Client) (address : Address) (name : String) (key : PrivateKey) (nonce : Option UInt64)
  | balance (account : Account)
  | addBalance (account : Account) (amount : UInt256)
  | setBalance (account : Account) (amount : UInt256)

/-- A plan without its result. -/
def Exchange.forget {α : Type} (e : Exchange α) : Exchange Unit := e >>= fun _ => pure ()

namespace Deed

/-- Does it, whatever comes of it. -/
def plan : Deed → Exchange Unit
  | operation o => o.attempt.run.forget
  | reprice schedule w t => (w.repriceWith schedule t).forget
  | estimateTransaction schedule w sk level => (w.estimateTransactionWith schedule sk level).run.forget
  | createAccount w name phrase => (ofOutcome (w.createAccount name phrase)).run.forget
  | send client request => (client.send request).run.forget
  | isHealthy client => client.isHealthy.forget
  | load client address name key nonce => (Account.load client address name key nonce).run.forget
  | balance account => account.balance.forget
  | addBalance account amount => (account.addBalance amount).forget
  | setBalance account amount => (account.setBalance amount).forget

end Deed

/-- The estimations that an operation asks for. -/
def Operation.inquiries (node : Node) (j : Journal) : Operation → List Inquiry
  | estimate client schedule object => [client.inquire node j schedule object]
  | reprice w t => [w.client.inquire node j Client.bothInFlight t.readCallObject.1]
  | estimateTransaction w sk _ => [w.client.inquire node j Client.bothInFlight sk.callObject]
  | _ => []

namespace Deed

/-- The estimations that a deed asks for. -/
def inquiries (node : Node) (j : Journal) : Deed → List Inquiry
  | operation o => o.inquiries node j
  | reprice schedule w t => [w.client.inquire node j schedule t.readCallObject.1]
  | estimateTransaction schedule w sk _ => [w.client.inquire node j schedule sk.callObject]
  | _ => []

/-- What a deed is told about the health. -/
def healths (node : Node) (j : Journal) : Deed → List Bool
  | isHealthy client => [(client.isHealthy.run node j).1]
  | _ => []

end Deed

/-- Does one thing after another. -/
def carryOut : List Deed → Exchange Unit
  | [] => pure ()
  | d :: deeds => do
    d.plan
    carryOut deeds

/-- What the deeds of a run tell, each by the journal before it. -/
def told {α : Type} (tell : Journal → Deed → List α) (node : Node) : Journal → List Deed → List α
  | _, [] => []
  | j, d :: deeds => tell j d ++ told tell node (d.plan.run node j).2 deeds

/-! ## Their books -/

variable (node : Node) (j : Journal)

/-- The journal after a plan does not depend on whether its result is kept. -/
theorem Exchange.run_forget {α : Type} (e : Exchange α) : (e.forget.run node j).2 = (e.run node j).2 := by
  rw [forget, run_bind]
  rfl

/-- To forget a result leaves the journal as it is. -/
theorem Attempt.run_forget {α : Type} (x : Attempt α) : (x.forget.run.run node j).2 = (x.run.run node j).2 := by
  rw [forget, run_bind]
  generalize x.run.run node j = first
  obtain ⟨outcome, j'⟩ := first
  cases outcome <;> rfl

/-- The books of a course hold nothing but its requests. -/
theorem Exchange.books_forget {α : Type} {e : Exchange α} (h : e.Proceeds fun _ => True) :
    Journal.Books node [] [] j (e.forget.run node j).2 := by
  rw [run_forget]
  exact .of_course (h node j)

/-- An attempt whose result is forgotten keeps the books with its requests alone. -/
theorem Attempt.books_forget {α : Type} {x : Attempt α} (h : x.Proceeds fun _ => True) :
    Journal.Books node [] [] j (x.forget.run.run node j).2 := by
  rw [run_forget]
  exact .of_course (h node j)

namespace Wallet

variable (schedule : List Side) (w : Wallet)

/-- A pricing keeps the books with one inquiry. -/
theorem books_repriceWith (t : Transaction) :
    Journal.Books node (w.client.inquire node j schedule t.readCallObject.1).counted [] j
      ((w.repriceWith schedule t).run node j).2 := by
  rw [run_repriceWith]
  exact w.client.books_estimateWith node j schedule _

/-- The pricing of a skeleton keeps the books with one inquiry. -/
theorem books_estimateTransactionWith (sk : Skeleton) (level : FeeLevel) :
    Journal.Books node (w.client.inquire node j schedule sk.callObject).counted [] j
      ((w.estimateTransactionWith schedule sk level).run.run node j).2 := by
  rw [run_estimateTransactionWith]
  exact w.client.books_estimateWith node j schedule _

end Wallet

/-- An operation is booked with the estimations that it asks for. -/
theorem Operation.books (o : Operation) :
    Journal.Books node ((o.inquiries node j).flatMap Inquiry.counted) [] j (o.attempt.run.run node j).2 := by
  -- all but three take a course
  cases o with
  | getAccount w address name key nonce =>
    exact books_forget node j (w.proceeds_getAccount address name key nonce trivial)
  | estimateTransaction w sk level =>
    rw [attempt, run_forget, Wallet.estimateTransaction_eq_estimateTransactionWith, inquiries, List.flatMap_singleton]
    exact w.books_estimateTransactionWith node j _ sk level
  | reprice w t =>
    rw [attempt, Wallet.run_repricing, Wallet.reprice_eq_repriceWith, inquiries, List.flatMap_singleton]
    exact w.books_repriceWith node j _ t
  | signTransaction w t key => exact books_forget node j (Exchange.proceeds_done _)
  | buildTransaction w sender nonce destination data value accessList =>
    exact books_forget node j (Exchange.proceeds_done _)
  | signMessage w message key => exact books_forget node j (Exchange.proceeds_done _)
  | recoverSigner w message signature => exact books_forget node j (Exchange.proceeds_done _)
  | sendTransaction w signed => exact books_forget node j (w.proceeds_sendTransaction signed trivial)
  | dropTransaction w hash => exact books_forget node j (w.proceeds_dropTransaction hash trivial)
  | transactionStatus w hash => exact books_forget node j (w.proceeds_transactionStatus hash trivial)
  | waitForConfirmation w hash timeoutSecs => exact books_forget node j (w.proceeds_waitForConfirmation hash _ trivial)
  | call client request => exact books_forget node j (client.proceeds_call trivial)
  | fetchChainId client => exact books_forget node j (client.proceeds_fetchChainId trivial)
  | verifyChainId client => exact .of_course (client.proceeds_verifyChainId (P := fun _ => True) trivial node j)
  | estimate client schedule object =>
    rw [attempt, run_forget, inquiries, List.flatMap_singleton]
    exact client.books_estimateWith node j schedule object
  | refreshNonce account => exact books_forget node j (account.proceeds_refreshNonce trivial)
  | dealErc20 account token amount => exact books_forget node j (account.client.proceeds_sendCall trivial)

/-- A deed is booked with the estimations that it asks for and the looks at the health that it takes. -/
theorem Deed.books (d : Deed) :
    Journal.Books node ((d.inquiries node j).flatMap Inquiry.counted) (d.healths node j) j (d.plan.run node j).2 := by
  cases d with
  | operation o =>
    rw [plan, Exchange.run_forget]
    exact o.books node j
  | reprice schedule w t =>
    rw [plan, Exchange.run_forget, inquiries, List.flatMap_singleton]
    exact w.books_repriceWith node j schedule t
  | estimateTransaction schedule w sk level =>
    rw [plan, Exchange.run_forget, inquiries, List.flatMap_singleton]
    exact w.books_estimateTransactionWith node j schedule sk level
  | createAccount w name phrase => exact Exchange.books_forget node j (Exchange.proceeds_done _)
  | send client request => exact Exchange.books_forget node j (client.proceeds_send trivial)
  | isHealthy client =>
    rw [plan, Exchange.run_forget]
    exact client.books_isHealthy node j
  | load client address name key nonce =>
    exact Exchange.books_forget node j (Account.proceeds_load client address name key nonce trivial)
  | balance account => exact Exchange.books_forget node j (account.proceeds_balance trivial)
  | addBalance account amount => exact Exchange.books_forget node j (account.proceeds_balanceAfter trivial trivial)
  | setBalance account amount => exact Exchange.books_forget node j (account.proceeds_balanceAfter trivial trivial)

/-- A run is booked with all estimations and all looks at the health. -/
theorem books_carryOut (deeds : List Deed) :
    Journal.Books node ((told (Deed.inquiries node) node j deeds).flatMap Inquiry.counted)
      (told (Deed.healths node) node j deeds) j
      ((carryOut deeds).run node j).2 := by
  induction deeds generalizing j with
  | nil => exact .refl j
  | cons d deeds ih =>
    rw [told, told, List.flatMap_append, carryOut, Exchange.run_bind]
    exact (d.books node j).trans (ih _)

/-! ## Main statement -/

/-- Whatever is done, in a run of any length and over any node: for each method as many requests are timed as were
sent, and as many were counted under the four outcomes together; each outcome counts the replies that have it, and
`ok` those that are the text of a document that is a success. The estimations that succeeded and those that failed
with a call object in order are counted as such, and the series of the health reads what the last look at it told,
once there was one. -/
theorem readings_of_run (deeds : List Deed) (node : Node) :
    let j := ((carryOut deeds).run node {}).2
    (∀ method,
      j.reading (.latency method) = (j.requests.countP fun r => r.method = method) ∧
        j.reading (.latency method) =
          j.reading (.request method .ok) + j.reading (.request method .rpcError) +
            j.reading (.request method .parseError) + j.reading (.request method .transportError) ∧
        ∀ outcome, j.reading (.request method outcome) =
          (node.answers j.requests).countP fun a => a.1.method = method ∧ a.2.outcome = outcome) ∧
      (∀ reply : Reply, reply.outcome = .ok ↔
        ∃ text document result, reply = .ok text ∧ Json.parse? text = some document ∧
          Outcome.ofResponse document = .success result) ∧
      j.reading (.estimation true) = (told (Deed.inquiries node) node {} deeds).countP Inquiry.succeeded ∧
      j.reading (.estimation false) = (told (Deed.inquiries node) node {} deeds).countP Inquiry.failed ∧
      ∀ reachable, Sample.reading? j.samples (Sample.health reachable).series =
        (told (Deed.healths node) node {} deeds).getLast?.map Bool.toNat := by
  intro j
  have hbooks : Journal.Books node _ _ {} j := books_carryOut node {} deeds
  have hbalanced : j.Balanced node := hbooks.balanced Journal.balanced_empty
  refine ⟨fun method => ⟨?_, ?_, ?_⟩, fun reply => Reply.outcome_eq_ok, ?_, ?_, ?_⟩
  · rw [hbalanced.reading_latency]
    exact node.countP_answers _ fun r => r.method = method
  · simp only [hbalanced.reading_latency, hbalanced.reading_request]
    exact countP_outcomes _ method
  · exact hbalanced.reading_request method
  · rw [j.reading_estimation, hbooks.estimations]
    exact Inquiry.count_true_counted _
  · rw [j.reading_estimation, hbooks.estimations]
    exact Inquiry.count_false_counted _
  · intro reachable
    rw [Sample.reading?_health]
    exact congrArg (fun looks => looks.getLast?.map Bool.toNat) hbooks.healths

end DynamicFeeWallet
