import DynamicFeeWallet.Proofs.Node.Course
import DynamicFeeWallet.Proofs.Node.Estimation
import DynamicFeeWallet.Proofs.Wallet.Steps

/-!
# The requests of an operation

The operations of an account and of the wallet ask the node one request after another, each with methods of its own;
pricing alone has two requests under way at once. How these two take turns is not for the wallet to say, so a skeleton
is priced here for every schedule (`Wallet.estimateTransactionWith`), of which the wallet's is one.
-/

namespace DynamicFeeWallet

open Attempt

variable {P : String → Prop}

/-! ## Accounts -/

namespace Account

variable (account : Account)

/-- A nonce is asked for by the count of transactions. -/
theorem proceeds_fetchNonce (client : Client) (address : Address) (h : P "eth_getTransactionCount") :
    (fetchNonce client address).Proceeds P := by
  refine proceeds_bind (client.proceeds_ask h) fun result => ?_
  cases (Quantity.ofJson? result).bind UInt256.toUInt64? with
  | some nonce => exact proceeds_pure nonce
  | none => exact proceeds_throw _

/-- To load an account asks for a nonce, if none is given. -/
theorem proceeds_load (client : Client) (address : Address) (name : String) (key : PrivateKey) (nonce : Option UInt64)
    (h : P "eth_getTransactionCount") : (load client address name key nonce).Proceeds P := by
  unfold load
  cases nonce with
  | some nonce => exact proceeds_unless (proceeds_pure _)
  | none => exact proceeds_unless (proceeds_bind (proceeds_fetchNonce client address h) fun _ => proceeds_pure _)

/-- To refresh a nonce asks for it. -/
theorem proceeds_refreshNonce (h : P "eth_getTransactionCount") : account.refreshNonce.Proceeds P :=
  proceeds_bind (proceeds_fetchNonce account.client account.address h) fun _ => proceeds_pure _

/-- A balance is asked for, and a failure is told in its place. -/
theorem proceeds_balance (h : P "eth_getBalance") : account.balance.Proceeds P := by
  have hfetch : account.fetchBalance.Proceeds P := by
    refine proceeds_bind (account.client.proceeds_ask h) fun result => ?_
    cases Quantity.ofJson? result with
    | some balance => exact proceeds_pure balance
    | none => exact proceeds_throw _
  refine Exchange.proceeds_bind hfetch fun outcome => ?_
  cases outcome with
  | ok balance => exact Exchange.proceeds_done balance
  | error error => exact Exchange.proceeds_done _

/-- After a call for a change, the balance is asked for. -/
theorem proceeds_balanceAfter {call : Call} (hcall : P call.method) (h : P "eth_getBalance") :
    (account.balanceAfter call).Proceeds P := by
  refine Exchange.proceeds_bind (account.client.proceeds_ask hcall) fun outcome => ?_
  cases outcome with
  | ok result => exact account.proceeds_balance h
  | error error => exact Exchange.proceeds_done _

end Account

/-! ## The wallet -/

namespace Wallet

variable (w : Wallet)

/-- An account of which address and key are read is loaded. -/
theorem proceeds_getAccount (address name key : String) (nonce : Option UInt64) (h : P "eth_getTransactionCount") :
    (w.getAccount address name key nonce).Proceeds P := by
  unfold getAccount
  refine proceeds_unless ?_
  cases Address.parse address with
  | error error => exact proceeds_throw _
  | ok address =>
    refine proceeds_bind (Exchange.proceeds_done _) fun key => ?_
    exact Account.proceeds_load w.client address name key nonce h

/-- A transaction is sent by one request. -/
theorem proceeds_sendTransaction (signed : String) (h : P "eth_sendRawTransaction") :
    (w.sendTransaction signed).Proceeds P :=
  proceeds_bind (w.client.proceeds_sendCall h) (Client.proceeds_verdict _ _)

theorem proceeds_dropTransaction (hash : String) (h : P "anvil_dropTransaction") :
    (w.dropTransaction hash).Proceeds P :=
  proceeds_bind (w.client.proceeds_sendCall h) (Client.proceeds_verdict _ _)

/-- A look asks for a receipt. -/
theorem proceeds_transactionStatus (hash : String) (h : P "eth_getTransactionReceipt") :
    (w.transactionStatus hash).Proceeds P :=
  proceeds_bind (w.client.proceeds_ask h) fun _ => proceeds_pure _

/-- A watch looks again and again, with pauses. -/
theorem proceeds_watch (hash : String) (deadline tick : Nat) (h : P "eth_getTransactionReceipt") :
    (w.watch hash deadline tick).Proceeds P := by
  induction tick using watch.induct w deadline with
  | case1 tick ih =>
    rw [watch.eq_def]
    refine proceeds_bind (w.proceeds_transactionStatus hash h) fun status => ?_
    cases status with
    | pending =>
      dsimp only
      split
      · rename_i htime
        exact proceeds_bind (proceeds_lift (Exchange.proceeds_sleep _)) fun _ => ih htime
      · exact proceeds_bind (proceeds_lift (Exchange.proceeds_sleep _)) fun _ => proceeds_pure _
    | confirmed blockNumber => exact proceeds_pure _
    | rejected reason => exact proceeds_pure _

/-- A wait is a watch from the start on. -/
theorem proceeds_waitForConfirmation (hash : String) (timeoutSecs : UInt64) (h : P "eth_getTransactionReceipt") :
    (w.waitForConfirmation hash timeoutSecs).Proceeds P :=
  w.proceeds_watch hash timeoutSecs.toNat 0 h

end Wallet

/-! ## Pricing in any turns -/

namespace Wallet

/-- The priced transaction of a skeleton, with the two requests in turns as a schedule says. -/
def estimateTransactionWith (schedule : List Side) (w : Wallet) (sk : Skeleton) (level : FeeLevel) :
    Attempt Transaction := do
  match ← w.repriceWith schedule (Transaction.ofSkeleton sk level) with
  | (.ok _, t) => return t
  | (.error error, _) => throw error

/-- The wallet prices with both requests in flight. -/
theorem estimateTransaction_eq_estimateTransactionWith (w : Wallet) (sk : Skeleton) (level : FeeLevel) :
    w.estimateTransaction sk level = w.estimateTransactionWith Client.bothInFlight sk level := by
  unfold estimateTransaction
  rw [reprice_eq_repriceWith]
  rfl

/-- What a pricing from a skeleton comes to, once there is an estimate or none. -/
def priced (sk : Skeleton) (level : FeeLevel) (outcome : Except WalletError Estimate) : Except WalletError Transaction :=
  match repriced (Transaction.ofSkeleton sk level).readCallObject.2 outcome with
  | (.ok _, t) => .ok t
  | (.error error, _) => .error error

/-- The pricing of a skeleton asks for an estimate of its call object, and does nothing else with the node. -/
theorem run_estimateTransactionWith (schedule : List Side) (w : Wallet) (sk : Skeleton) (level : FeeLevel)
    (node : Node) (j : Journal) :
    (w.estimateTransactionWith schedule sk level).run.run node j =
      (priced sk level ((w.client.estimateWith schedule sk.callObject).run.run node j).1,
        ((w.client.estimateWith schedule sk.callObject).run.run node j).2) := by
  have hobject : (Transaction.ofSkeleton sk level).readCallObject.1 = sk.callObject := rfl
  unfold estimateTransactionWith priced
  rw [Attempt.run_bind, Attempt.run_lift, run_repriceWith, hobject]
  generalize (w.client.estimateWith schedule sk.callObject).run.run node j = asked
  dsimp only
  generalize repriced _ asked.1 = result
  obtain ⟨outcome, t⟩ := result
  cases outcome <;> rfl

end Wallet

end DynamicFeeWallet
