import DynamicFeeWallet.Proofs.Transaction.Action
import DynamicFeeWallet.Wallet.Basic

/-!
# The life of a transaction in the wallet

Between its building and its last signing a transaction goes through any number of steps: an `Action`, a pricing
against some node, or a signing that gives its text. What it says besides its price stays what was built, and its
nonce is the one set last (`Says.after`).
-/

namespace DynamicFeeWallet

/-! ## Pricing -/

namespace Wallet

/-- What a pricing comes to, once there is an estimate or none. -/
def repriced (t : Transaction) : Except WalletError Estimate → Except WalletError Unit × Transaction
  | .error error => (.error error, t)
  | .ok estimate =>
    match t.setFees estimate.feeHistory with
    | .error error => (.error (.transaction error), t)
    | .ok priced => (.ok (), priced.setGas estimate.gas)

/-- Prices a transaction anew, with its two requests in turns as a schedule says. -/
def repriceWith (schedule : List Side) (w : Wallet) (t : Transaction) :
    Exchange (Except WalletError Unit × Transaction) := do
  let (object, t) := t.readCallObject
  return repriced t (← (w.client.estimateWith schedule object).run)

/-- The wallet prices with both requests in flight. -/
theorem reprice_eq_repriceWith (w : Wallet) (t : Transaction) : w.reprice t = w.repriceWith Client.bothInFlight t := by
  unfold reprice repriceWith
  generalize t.readCallObject = read
  obtain ⟨object, t⟩ := read
  refine congrArg (Exchange.andThen (w.client.estimate object).run) (funext fun outcome => ?_)
  cases outcome with
  | error error => rfl
  | ok estimate =>
    dsimp only [repriced]
    cases t.setFees estimate.feeHistory <;> rfl

/-- A pricing asks for an estimate of the call object, and does nothing else with the node. -/
theorem run_repriceWith (schedule : List Side) (w : Wallet) (t : Transaction) (node : Node) (j : Journal) :
    (w.repriceWith schedule t).run node j =
      (repriced t.readCallObject.2 ((w.client.estimateWith schedule t.readCallObject.1).run.run node j).1,
        ((w.client.estimateWith schedule t.readCallObject.1).run.run node j).2) := by
  unfold repriceWith
  dsimp only
  rw [Exchange.bind_eq, Exchange.run_andThen]
  rfl

/-- So does the wallet's. -/
theorem run_reprice (w : Wallet) (t : Transaction) (node : Node) (j : Journal) :
    (w.reprice t).run node j =
      (repriced t.readCallObject.2 ((w.client.estimate t.readCallObject.1).run.run node j).1,
        ((w.client.estimate t.readCallObject.1).run.run node j).2) := by
  rw [reprice_eq_repriceWith, run_repriceWith]
  rfl

/-- A pricing changes nothing but what is remembered, or sets the fees and then the gas limit. -/
theorem reprice_snd (w : Wallet) (t : Transaction) (node : Node) (j : Journal) :
    ((w.reprice t).run node j).1.2 = t.readCallObject.2 ∨
      ∃ (estimate : Estimate) (priced : Transaction), t.readCallObject.2.setFees estimate.feeHistory = .ok priced ∧
        ((w.reprice t).run node j).1.2 = priced.setGas estimate.gas := by
  rw [run_reprice]
  generalize ((w.client.estimate t.readCallObject.1).run.run node j).1 = outcome
  cases outcome with
  | error error => exact Or.inl rfl
  | ok estimate =>
    cases hfees : t.readCallObject.2.setFees estimate.feeHistory with
    | error error => exact Or.inl (by simp only [repriced, hfees])
    | ok priced => exact Or.inr ⟨estimate, priced, hfees, by simp only [repriced, hfees]⟩

/-- There is a text when the key can be read, it gives a signature, and the signed transaction has an encoding. -/
theorem signTransaction_eq_ok {w : Wallet} {t u : Transaction} {keyText text : String} :
    w.signTransaction t keyText = (.ok text, u) ↔
      ∃ key, PrivateKey.parse keyText = .ok key ∧ t.sign key = some u ∧
        ∃ raw, u.encodeSigned = .ok raw ∧ Hex.encode raw = text := by
  constructor
  · intro h
    unfold signTransaction at h
    cases hkey : PrivateKey.parse keyText with
    | error error => rw [hkey] at h; nomatch h
    | ok key =>
      rw [hkey] at h
      cases hsign : t.sign key with
      | none => simp only [hsign] at h; nomatch h
      | some signed =>
        simp only [hsign] at h
        cases hraw : signed.encodeSigned with
        | error error => rw [hraw] at h; nomatch h
        | ok raw =>
          rw [hraw] at h
          cases h
          exact ⟨key, rfl, hsign, raw, hraw, rfl⟩
  · rintro ⟨key, hkey, hsign, raw, hraw, rfl⟩
    unfold signTransaction
    rw [hkey]
    simp only [hsign, hraw]

/-- Whether there is a text or not, the transaction to go on with is the same as before or the signed one. -/
theorem signTransaction_snd (w : Wallet) (t : Transaction) (keyText : String) :
    (w.signTransaction t keyText).2 = t ∨ ∃ key, t.sign key = some (w.signTransaction t keyText).2 := by
  unfold signTransaction
  cases PrivateKey.parse keyText with
  | error error => exact Or.inl rfl
  | ok key =>
    dsimp only
    cases hsign : t.sign key with
    | none => exact Or.inl rfl
    | some signed => exact Or.inr ⟨key, by cases h : signed.encodeSigned <;> simp only [hsign, h]⟩

end Wallet

/-! ## Steps -/

/-- One step in the life of a transaction. -/
inductive Step where
  /-- Something is done with it. -/
  | act (action : Action)
  /-- It is priced anew, against a node that answers as it likes. -/
  | reprice (w : Wallet) (node : Node) (j : Journal)
  /-- It is signed for its text, with whatever is given for a key. -/
  | signText (w : Wallet) (keyText : String)

namespace Transaction

/-- The transaction to go on with after a step. -/
def step (t : Transaction) : Step → Transaction
  | .act action => (t.act action).2
  | .reprice w node j => ((w.reprice t).run node j).1.2
  | .signText w keyText => (w.signTransaction t keyText).2

/-- The transaction to go on with after some steps. -/
def after (t : Transaction) (steps : List Step) : Transaction := steps.foldl step t

end Transaction

/-- The nonce after an action. -/
def Action.nonceAfter (nonce : UInt256) : Action → UInt256
  | .setNonce new => new
  | _ => nonce

/-- The nonce after a step. -/
def Step.nonceAfter (nonce : UInt256) : Step → UInt256
  | .act action => action.nonceAfter nonce
  | _ => nonce

/-- The nonce that was set last. -/
def lastNonce (nonce : UInt256) (steps : List Step) : UInt256 := steps.foldl Step.nonceAfter nonce

/-! ## What stays -/

/-- The payload is that of the skeleton with this nonce, priced or not. -/
structure Payload.Says (p : Payload) (sk : Skeleton) (nonce : UInt256) : Prop where
  chainId : p.chainId = sk.chainId
  nonce : p.nonce = nonce
  destination : p.destination = sk.destination
  value : p.value = sk.value
  data : p.data = sk.data
  accessList : p.accessList = sk.accessList

namespace Transaction

/-- The transaction is that of the skeleton with this nonce, priced or not. -/
def Says (t : Transaction) (sk : Skeleton) (nonce : UInt256) : Prop := t.payload.Says sk nonce

variable {t u : Transaction} {sk : Skeleton} {nonce : UInt256}

theorem says_ofSkeleton (sk : Skeleton) (level : FeeLevel) : (ofSkeleton sk level).Says sk sk.nonce :=
  ⟨rfl, rfl, rfl, rfl, rfl, rfl⟩

/-- What a transaction says is in its fields alone. -/
theorem Says.of_payload (h : t.Says sk nonce) (hp : u.payload = t.payload) : u.Says sk nonce := by
  unfold Says
  rw [hp]
  exact h

/-- What is remembered says nothing of the skeleton. -/
theorem Says.of_bare (h : t.Says sk nonce) (hbare : u.bare = t.bare) : u.Says sk nonce :=
  h.of_payload (congrArg BareTransaction.payload hbare)

theorem Says.setGas (h : t.Says sk nonce) (estimate : UInt256) : (t.setGas estimate).Says sk nonce :=
  ⟨h.chainId, h.nonce, h.destination, h.value, h.data, h.accessList⟩

/-- Fees that are set leave what is said of the skeleton. -/
theorem Says.setFees {history : Json} (h : t.Says sk nonce) (hu : t.setFees history = .ok u) : u.Says sk nonce := by
  obtain ⟨baseFee, priorityFee, -, rfl⟩ := setFees_eq_ok hu
  exact ⟨h.chainId, h.nonce, h.destination, h.value, h.data, h.accessList⟩

/-- A signature leaves what is said of the skeleton. -/
theorem Says.sign {key : PrivateKey} (h : t.Says sk nonce) (hu : t.sign key = some u) : u.Says sk nonce := by
  rw [sign_eq_signWith] at hu
  rcases signWith_eq_some hu with ⟨error, -, rfl⟩ | ⟨digest, sig, -, -, rfl⟩
  · exact h
  · cases sig.isValid
    · exact h
    · exact h

/-- An action sets the nonce, or leaves all that was built as it is. -/
theorem Says.act (h : t.Says sk nonce) (action : Action) : (t.act action).2.Says sk (action.nonceAfter nonce) := by
  cases action with
  | setNonce new => exact ⟨h.chainId, rfl, h.destination, h.value, h.data, h.accessList⟩
  | setFeeLevel level => exact ⟨h.chainId, h.nonce, h.destination, h.value, h.data, h.accessList⟩
  | setGas estimate => exact h.setGas estimate
  | setFees history =>
    rw [Transaction.act]
    cases hfees : t.setFees history with
    | error error => exact h
    | ok priced => exact h.setFees hfees
  | sign key =>
    rw [Transaction.act]
    cases hsign : t.sign key with
    | none => exact h
    | some signed => exact h.sign hsign
  | readHash => exact h.of_bare (bare_readHash t)
  | readSender => exact h.of_bare (bare_readSender t)
  | readSafeSender => exact h.of_bare (by rw [Transaction.act, readSafeSender_snd, bare_readSender])
  | readCallObject => exact h.of_bare (bare_readCallObject t)
  | describe => exact h.of_bare (by rw [Transaction.act, describe_snd, bare_readSender, bare_readHash])
  | encodeUnsigned => exact h
  | encodeSigned => exact h

/-- A pricing sets fees and gas limit, or nothing; asking for the call object may fill in what is remembered. -/
theorem Says.reprice (h : t.Says sk nonce) (w : Wallet) (node : Node) (j : Journal) :
    ((w.reprice t).run node j).1.2.Says sk nonce := by
  have hread := h.of_bare (bare_readCallObject t)
  rcases w.reprice_snd t node j with heq | ⟨estimate, priced, hfees, heq⟩
  · rw [heq]
    exact hread
  · rw [heq]
    exact (hread.setFees hfees).setGas estimate.gas

/-- No step but that of the nonce changes what is said of the skeleton. -/
theorem Says.step (h : t.Says sk nonce) (s : Step) : (t.step s).Says sk (s.nonceAfter nonce) := by
  cases s with
  | act action => exact h.act action
  | reprice w node j => exact h.reprice w node j
  | signText w keyText =>
    rcases w.signTransaction_snd t keyText with heq | ⟨key, hsign⟩
    · rw [Transaction.step, heq]
      exact h
    · exact h.sign hsign

/-- Whatever the steps, the transaction says what was built, with the nonce that was set last. -/
theorem Says.after (h : t.Says sk nonce) (steps : List Step) : (t.after steps).Says sk (lastNonce nonce steps) := by
  induction steps generalizing t nonce with
  | nil => exact h
  | cons s steps ih => exact ih (h.step s)

end Transaction

end DynamicFeeWallet
