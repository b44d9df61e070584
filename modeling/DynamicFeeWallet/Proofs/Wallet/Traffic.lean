import DynamicFeeWallet.Proofs.Node.Footprint
import DynamicFeeWallet.Proofs.Wallet.Polling
import DynamicFeeWallet.Proofs.Wallet.Steps

/-!
# Failures and requests

A failure with a local cause comes before anything is sent, and one put on the node comes after something was,
whatever is asked of the wallet, of a client or of an account (`Operation.truthful`). Each operation is a few lines
over the footprints of its parts; only the watch for a receipt needs an induction, since it looks again and again
(`Wallet.sends_watch`).
-/

namespace DynamicFeeWallet

open Attempt

/-! ## Accounts -/

namespace Account

/-- A nonce that cannot be read is put on the node. -/
theorem asks_fetchNonce (client : Client) (address : Address) : (fetchNonce client address).Leaves .asks := by
  refine asks_bind (client.asks_ask _) fun result => ?_
  cases (Quantity.ofJson? result).bind UInt256.toUInt64? with
  | some nonce => exact online_pure nonce
  | none => exact online_throw (by simp [WalletError.kind, localKinds])

theorem asks_refreshNonce (account : Account) : account.refreshNonce.Leaves .asks :=
  asks_bind (asks_fetchNonce account.client account.address) fun _ => online_pure _

theorem asks_dealErc20 (account : Account) (token : Address) (amount : UInt256) :
    (account.dealErc20 token amount).Leaves .asks :=
  account.client.asks_sendCall _

/-- The key is checked before a nonce is asked for. -/
theorem truthful_load (client : Client) (address : Address) (name : String) (key : PrivateKey) (nonce : Option UInt64) :
    (load client address name key nonce).Leaves .truthful := by
  unfold load
  cases nonce with
  | some nonce => exact truthful_unless List.mem_cons_self (truthful_of_offline (offline_pure _))
  | none =>
    refine truthful_unless List.mem_cons_self (truthful_of_asks ?_)
    exact asks_bind (asks_fetchNonce client address) fun _ => online_pure _

end Account

/-! ## The wallet -/

namespace Wallet

variable (w : Wallet)

/-- A key that cannot be read is put on the settings. -/
theorem onlyLocal_readKey (text : String) : OnlyLocal (readKey text) :=
  onlyLocal_mapError (fun _ => by simp [WalletError.kind, localKinds]) (PrivateKey.parse text)

/-- A message is not signed for its key, or for the signature. -/
theorem onlyLocal_signMessage (message : Bytes) (key : String) : OnlyLocal (w.signMessage message key) := by
  refine (onlyLocal_readKey key).bind fun key => ?_
  cases key.sign (messageHash message) with
  | some sig => trivial
  | none => exact (by decide : ErrorKind.sign ∈ localKinds)

/-- A signer is not told for the text of the signature, or for the signature. -/
theorem onlyLocal_recoverSigner (message : Bytes) (signature : String) :
    OnlyLocal (w.recoverSigner message signature) := by
  unfold recoverSigner
  cases Hex.decode signature with
  | error error => exact (by decide : ErrorKind.validation ∈ localKinds)
  | ok bytes =>
    refine (onlyLocal_mapError (fun _ => by simp [WalletError.kind, localKinds])
      (Signature.ofBytes bytes)).bind fun sig => ?_
    cases sig.signer? (messageHash message) with
    | some address => trivial
    | none => exact (by decide : ErrorKind.sign ∈ localKinds)

/-- What is missing to build a transaction is put on the building. -/
theorem onlyLocal_build {α ε : Type} (found : Except ε α) (cause : ε → BuildError) :
    OnlyLocal (found.mapError fun e => WalletError.build (cause e)) := by
  refine onlyLocal_mapError (fun error => ?_) found
  exact (by decide : ErrorKind.build ∈ localKinds)

/-- A transaction is not built for one of the texts that it is built from. -/
theorem onlyLocal_buildTransaction (sender : String) (nonce : UInt64) (destination data : Option String) (value : UInt256)
    (accessList : List AccessItem) : OnlyLocal (w.buildTransaction sender nonce destination data value accessList) := by
  have hdestination (text : String) :
      OnlyLocal (((Address.parse text).mapError fun e => .build (.badDestination text e)).map some) :=
    (onlyLocal_build _ _).map some
  have hdata (text : String) : OnlyLocal ((Hex.decode text).mapError fun e => .build (.badData e)) := onlyLocal_build _ _
  unfold buildTransaction
  refine OnlyLocal.bind (onlyLocal_build _ _) fun sender => ?_
  cases nonEmpty destination with
  | some text =>
    refine (hdestination text).bind fun destination => ?_
    cases nonEmpty data with
    | some text => exact (hdata text).bind fun data => trivial
    | none => trivial
  | none =>
    cases nonEmpty data with
    | some text => exact (hdata text).bind fun data => trivial
    | none => trivial

/-- A transaction is not signed for its key, for the signature, or for what it lacks. -/
theorem onlyLocal_signTransaction (t : Transaction) (key : String) : OnlyLocal (w.signTransaction t key).1 := by
  have hsign : ErrorKind.sign ∈ localKinds := by decide
  unfold signTransaction
  cases PrivateKey.parse key with
  | error error => exact hsign
  | ok key =>
    dsimp only
    cases t.sign key with
    | none => exact hsign
    | some signed =>
      dsimp only
      cases signed.encodeSigned with
      | error error => exact hsign
      | ok raw => trivial

/-- Address and key are read before the account is loaded. -/
theorem truthful_getAccount (address name key : String) (nonce : Option UInt64) :
    (w.getAccount address name key nonce).Leaves .truthful := by
  unfold getAccount
  refine truthful_unless List.mem_cons_self ?_
  cases Address.parse address with
  | error error => exact truthful_of_offline (offline_throw List.mem_cons_self)
  | ok address =>
    refine truthful_bind_of_offline (offline_ofOutcome (onlyLocal_readKey key)) fun key => ?_
    exact Account.truthful_load w.client address name key nonce

/-- What a pricing reports, without the transaction to go on with. -/
def repricing (t : Transaction) : Attempt Unit := ExceptT.mk (Prod.fst <$> w.reprice t)

/-- A pricing reports its outcome, with the same requests. -/
theorem run_repricing (t : Transaction) (node : Node) (j : Journal) :
    (w.repricing t).run.run node j = (((w.reprice t).run node j).1.1, ((w.reprice t).run node j).2) := by
  rw [repricing, ExceptT.run_mk, map_eq_pure_bind, Exchange.run_bind]
  rfl

/-- Fees that cannot be set are put on the document that was read. -/
theorem kind_of_setFees_eq_error {t : Transaction} {history : Json} {error : TransactionError}
    (h : t.setFees history = .error error) : (WalletError.transaction error).kind = .codec := by
  unfold Transaction.setFees at h
  split at h
  · cases h
    rfl
  · nomatch h

/-- A fee history that lacks something is found out after both requests were sent. -/
theorem asks_repricing (t : Transaction) : (w.repricing t).Leaves .asks := by
  refine ⟨fun node j => ?_⟩
  have hasked := (w.client.asks_estimateWith Client.bothInFlight t.readCallObject.1).run node j
  rw [run_repricing, run_reprice, Client.estimate]
  generalize (w.client.estimateWith Client.bothInFlight t.readCallObject.1).run.run node j = asked at hasked
  obtain ⟨outcome, j'⟩ := asked
  cases outcome with
  | error error => exact hasked
  | ok estimate =>
    dsimp only [repriced]
    cases hfees : t.readCallObject.2.setFees estimate.feeHistory with
    | ok priced => exact hasked
    | error error => exact Or.inr ⟨by rw [kind_of_setFees_eq_error hfees]; decide, hasked⟩

/-- A transaction is estimated by a pricing. -/
theorem asks_estimateTransaction (sk : Skeleton) (level : FeeLevel) : (w.estimateTransaction sk level).Leaves .asks := by
  refine ⟨fun node j => ?_⟩
  have hasked := (w.asks_repricing (Transaction.ofSkeleton sk level)).run node j
  rw [run_repricing] at hasked
  unfold estimateTransaction
  rw [run_bind, run_lift]
  generalize (w.reprice (Transaction.ofSkeleton sk level)).run node j = priced at hasked
  obtain ⟨⟨outcome, t⟩, j'⟩ := priced
  cases outcome with
  | ok done => exact hasked
  | error error => exact hasked

/-- That the node refuses a transaction is no local cause. -/
theorem asks_sendTransaction (signed : String) : (w.sendTransaction signed).Leaves .asks :=
  asks_bind (w.client.asks_sendCall _) (Client.online_verdict _ fun _ => rfl)

theorem asks_dropTransaction (hash : String) : (w.dropTransaction hash).Leaves .asks :=
  asks_bind (w.client.asks_sendCall _) (Client.online_verdict _ fun _ => rfl)

/-- A look for a receipt asks for it, and whatever it says is read. -/
theorem asks_transactionStatus (hash : String) : (w.transactionStatus hash).Leaves .asks :=
  asks_bind (w.client.asks_ask _) fun _ => online_pure _

variable {w} {hash : String}

/-- A look whose arguments are in order sends its request. -/
theorem sends_transactionStatus {request : Request} (h : (Call.transactionReceipt (marked hash)).request = .ok request) :
    (w.transactionStatus hash).Leaves .sends := by
  rw [transactionStatus, Client.ask_eq_call h]
  exact sends_bind (w.client.sends_call request) fun _ => online_pure _

/-- Every look sends its request when the first one does. -/
theorem sends_watch {request : Request} (h : (Call.transactionReceipt (marked hash)).request = .ok request)
    (deadline tick : Nat) : (w.watch hash deadline tick).Leaves .sends := by
  induction tick using watch.induct w deadline with
  | case1 tick ih =>
    rw [watch.eq_def]
    -- after the first look it is enough that the others are not refused
    refine sends_bind (sends_transactionStatus h) fun status => ?_
    cases status with
    | pending =>
      dsimp only
      split
      · rename_i htime
        exact online_bind (online_sleep _) fun _ => online_of_sends (ih htime)
      · exact online_bind (online_sleep _) fun _ => online_pure _
    | confirmed blockNumber => exact online_pure _
    | rejected reason => exact online_pure _

/-- The first look is refused when the arguments are not in order, and there is no other. -/
theorem watch_eq_throw {error : ArgumentError} (h : (Call.transactionReceipt (marked hash)).request = .error error)
    (deadline tick : Nat) : w.watch hash deadline tick = throw (.argument error) := by
  have hlook : w.transactionStatus hash = throw (.argument error) := by
    rw [transactionStatus, Client.ask_eq_throw h]
    rfl
  rw [watch.eq_def, hlook]
  rfl

/-- A wait is refused before its first look, or has sent something. -/
theorem asks_waitForConfirmation (timeoutSecs : UInt64) : (w.waitForConfirmation hash timeoutSecs).Leaves .asks := by
  unfold waitForConfirmation
  cases h : (Call.transactionReceipt (marked hash)).request with
  | ok request => exact asks_of_sends (sends_watch h _ _)
  | error error =>
    rw [watch_eq_throw h]
    exact ⟨fun _ _ => Or.inl ⟨List.mem_cons_self, rfl⟩⟩

end Wallet

/-! ## Operations -/

/-- What is asked of the wallet, of a client or of an account. -/
inductive Operation where
  | getAccount (w : Wallet) (address name key : String) (nonce : Option UInt64)
  | estimateTransaction (w : Wallet) (sk : Skeleton) (level : FeeLevel)
  | reprice (w : Wallet) (t : Transaction)
  | signTransaction (w : Wallet) (t : Transaction) (key : String)
  | buildTransaction (w : Wallet) (sender : String) (nonce : UInt64) (destination data : Option String) (value : UInt256)
      (accessList : List AccessItem)
  | signMessage (w : Wallet) (message : Bytes) (key : String)
  | recoverSigner (w : Wallet) (message : Bytes) (signature : String)
  | sendTransaction (w : Wallet) (signed : String)
  | dropTransaction (w : Wallet) (hash : String)
  | transactionStatus (w : Wallet) (hash : String)
  | waitForConfirmation (w : Wallet) (hash : String) (timeoutSecs : UInt64)
  | call (client : Client) (request : Request)
  | fetchChainId (client : Client)
  | verifyChainId (client : Client)
  | estimate (client : Client) (schedule : List Side) (object : Json)
  | refreshNonce (account : Account)
  | dealErc20 (account : Account) (token : Address) (amount : UInt256)

/-- An attempt without its result. -/
def Attempt.forget {α : Type} (x : Attempt α) : Attempt Unit := x >>= fun _ => pure ()

/-- Carries out an operation. Of its result it is told only whether there is one, and otherwise why not. -/
def Operation.attempt : Operation → Attempt Unit
  | getAccount w address name key nonce => (w.getAccount address name key nonce).forget
  | estimateTransaction w sk level => (w.estimateTransaction sk level).forget
  | reprice w t => w.repricing t
  | signTransaction w t key => (ofOutcome (w.signTransaction t key).1).forget
  | buildTransaction w sender nonce destination data value accessList =>
    (ofOutcome (w.buildTransaction sender nonce destination data value accessList)).forget
  | signMessage w message key => (ofOutcome (w.signMessage message key)).forget
  | recoverSigner w message signature => (ofOutcome (w.recoverSigner message signature)).forget
  | sendTransaction w signed => (w.sendTransaction signed).forget
  | dropTransaction w hash => (w.dropTransaction hash).forget
  | transactionStatus w hash => (w.transactionStatus hash).forget
  | waitForConfirmation w hash timeoutSecs => (w.waitForConfirmation hash timeoutSecs).forget
  | call client request => (client.call request).forget
  | fetchChainId client => client.fetchChainId.forget
  | verifyChainId client => client.verifyChainId
  | estimate client schedule object => (client.estimateWith schedule object).forget
  | refreshNonce account => account.refreshNonce.forget
  | dealErc20 account token amount => (account.dealErc20 token amount).forget

/-- Failures tell the same when the result is forgotten. -/
theorem truthful_forget {α : Type} {x : Attempt α} (h : x.Leaves .truthful) : x.forget.Leaves .truthful := by
  have hdone : ∀ _ : α, (pure () : Attempt Unit).Leaves fun _ outcome _ => outcome = .ok () := fun _ => ⟨fun _ _ => rfl⟩
  exact h.bind hdone (fun _ hok => hok ▸ trivial) (fun h => h)

/-- An attempt that asks tells of a failure whether anything was sent, with its result forgotten. -/
theorem truthful_forget_of_asks {α : Type} {x : Attempt α} (h : x.Leaves .asks) : x.forget.Leaves .truthful :=
  truthful_forget (truthful_of_asks h)

/-- An outcome that needs no node fails for local causes alone, with its result forgotten. -/
theorem truthful_forget_ofOutcome {α : Type} {outcome : Except WalletError α} (h : OnlyLocal outcome) :
    (ofOutcome outcome).forget.Leaves .truthful :=
  truthful_forget (truthful_of_offline (offline_ofOutcome h))

/-- Whatever the operation, its failure tells whether anything was sent. -/
theorem Operation.truthful (o : Operation) : o.attempt.Leaves .truthful := by
  cases o with
  | getAccount w address name key nonce => exact truthful_forget (w.truthful_getAccount address name key nonce)
  | estimateTransaction w sk level => exact truthful_forget_of_asks (w.asks_estimateTransaction sk level)
  | reprice w t => exact truthful_of_asks (w.asks_repricing t)
  | signTransaction w t key => exact truthful_forget_ofOutcome (w.onlyLocal_signTransaction t key)
  | buildTransaction w sender nonce destination data value accessList =>
    exact truthful_forget_ofOutcome (w.onlyLocal_buildTransaction _ _ _ _ _ _)
  | signMessage w message key => exact truthful_forget_ofOutcome (w.onlyLocal_signMessage message key)
  | recoverSigner w message signature => exact truthful_forget_ofOutcome (w.onlyLocal_recoverSigner message signature)
  | sendTransaction w signed => exact truthful_forget_of_asks (w.asks_sendTransaction signed)
  | dropTransaction w hash => exact truthful_forget_of_asks (w.asks_dropTransaction hash)
  | transactionStatus w hash => exact truthful_forget_of_asks (w.asks_transactionStatus hash)
  | waitForConfirmation w hash timeoutSecs => exact truthful_forget_of_asks (Wallet.asks_waitForConfirmation timeoutSecs)
  | call client request => exact truthful_forget_of_asks (asks_of_sends (client.sends_call request))
  | fetchChainId client => exact truthful_forget_of_asks client.asks_fetchChainId
  | verifyChainId client => exact truthful_of_asks client.asks_verifyChainId
  | estimate client schedule object => exact truthful_forget_of_asks (client.asks_estimateWith schedule object)
  | refreshNonce account => exact truthful_forget_of_asks account.asks_refreshNonce
  | dealErc20 account token amount => exact truthful_forget_of_asks (account.asks_dealErc20 token amount)

/-! ## Main statement -/

/-- Whatever is asked of the wallet, of a client or of an account, with whatever arguments and however the node
behaves: when it fails for arguments, settings, transactions or keys, nothing was sent, and when it fails for the
node, something was. -/
theorem Operation.sent_of_run_eq_error (o : Operation) (node : Node) (j j' : Journal) (error : WalletError)
    (h : o.attempt.run.run node j = (.error error, j')) :
    (error.kind ∈ [ErrorKind.validation, .build, .sign, .configuration, .unsigned] → j'.sent = j.sent) ∧
      (error.kind = .protocol → ∃ first rest, j'.sent = j.sent ++ first :: rest) := by
  have htold := o.truthful.run node j
  rw [h] at htold
  exact htold

/-- A node that knows nothing of a receipt at first and is gone when it is asked again. -/
def fadingNode : Node := fun past _ => if past.isEmpty then .ok "\x7b\x7d" else .error (.exhausted 1)

/-- A watch that fails at its second look has sent something, and one for what is no hash has not. -/
theorem Operation.sent_of_run_eq_error_watch :
    (∃ (w : Wallet) (hash : String) (j' : Journal),
      (waitForConfirmation w hash 60).attempt.run.run fadingNode {} = (.error (.transport (.exhausted 1)), j') ∧
        ∃ first rest, j'.sent = first :: rest) ∧
      ∃ (w : Wallet) (j' : Journal),
        (waitForConfirmation w "0x12" 60).attempt.run.run fadingNode {} = (.error (.argument .wrongHashLength), j') ∧
          j'.sent = [] := by
  have hhash := isHash_toHex (FixedBytes.replicate 32 0)
  have hfaded : ((waitForConfirmation ⟨⟨{}⟩⟩ (FixedBytes.replicate 32 0).toHex 60).attempt.run.run fadingNode {}).1 =
      .error (.transport (.exhausted 1)) := by
    rw [Operation.attempt, Attempt.forget, Attempt.run_bind, Wallet.waitForConfirmation,
      Wallet.run_watch_of_pending hhash rfl, if_pos (by decide), Wallet.run_watch_of_ne_pending hhash (by nofun)]
    rfl
  have hrefused : ((waitForConfirmation ⟨⟨{}⟩⟩ "0x12" 60).attempt.run.run fadingNode {}).1 =
      .error (.argument .wrongHashLength) := by
    have hrequest : (Call.transactionReceipt (marked "0x12")).request = .error .wrongHashLength := rfl
    rw [Operation.attempt, Attempt.forget, Wallet.waitForConfirmation, Wallet.watch_eq_throw hrequest]
    rfl
  refine ⟨⟨_, _, _, Prod.ext hfaded rfl, ?_⟩, ⟨_, _, Prod.ext hrefused rfl, ?_⟩⟩
  · exact (sent_of_run_eq_error _ fadingNode {} _ _ (Prod.ext hfaded rfl)).2 rfl
  · exact (sent_of_run_eq_error _ fadingNode {} _ _ (Prod.ext hrefused rfl)).1 (by decide)

end DynamicFeeWallet
