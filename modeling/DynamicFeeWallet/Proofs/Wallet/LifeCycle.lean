import DynamicFeeWallet.Proofs.Transaction.Encoding
import DynamicFeeWallet.Proofs.Transaction.Memo
import DynamicFeeWallet.Proofs.Wallet.Steps

/-!
# The stages of a transaction

What a step can do to a transaction is said once (`BareTransaction.Turn`, `Transaction.turns_step`), and what every
turn keeps holds after any steps (`Transaction.bare_after`). Kept are that fees are set together, that what is signed
is priced, and, of what is built, that the fees are in order. By them the stage tells which encodings there are.
-/

namespace DynamicFeeWallet

/-! ## What a step can do -/

/-- One turn in the life of a transaction, whatever is remembered of it. -/
inductive BareTransaction.Turn : BareTransaction → BareTransaction → Prop where
  /-- Nothing changes. -/
  | stay (t : BareTransaction) : Turn t t
  /-- The nonce is set, and all that prices the transaction is cleared. -/
  | renumber (t : BareTransaction) (nonce : UInt256) :
    Turn t (t.change fun p => { p with nonce := nonce, gasLimit := none, maxFee := none, priorityFee := none })
  /-- The fee level is set, and the fees are cleared. -/
  | relevel (t : BareTransaction) (level : FeeLevel) :
    Turn t ({ t with feeLevel := level }.change fun p => { p with maxFee := none, priorityFee := none })
  /-- The gas limit is set. -/
  | gas (t : BareTransaction) (estimate : UInt256) :
    Turn t (t.change fun p => { p with gasLimit := some (Transaction.gasWithMargin estimate) })
  /-- The fees are set. -/
  | fees (t : BareTransaction) (baseFee priorityFee : UInt256) :
    Turn t (t.change fun p =>
      { p with priorityFee := some priorityFee, maxFee := some (Transaction.maxFeeFor baseFee priorityFee) })
  /-- A transaction that is priced is signed. -/
  | sign {t : BareTransaction} (hpriced : t.payload.isPriced = true) (sig : Signature) :
    Turn t { t with signature := some sig }

namespace Transaction

open BareTransaction (Turn)

variable {t u : Transaction}

/-- What has a digest to sign is priced. -/
theorem isPriced_of_signingHash {digest : Hash} (h : t.signingHash = .ok digest) : t.payload.isPriced = true := by
  rw [signingHash, map_eq_ok] at h
  obtain ⟨raw, hraw, -⟩ := h
  exact Payload.isPriced_iff.mpr ⟨raw, hraw⟩

/-- Signing changes nothing, or signs what is priced. -/
theorem sign_eq_some {key : PrivateKey} (h : t.sign key = some u) :
    u = t ∨ t.payload.isPriced = true ∧ ∃ sig, u = t.signed sig := by
  rw [sign_eq_signWith] at h
  rcases signWith_eq_some h with ⟨error, -, rfl⟩ | ⟨digest, sig, hdigest, -, rfl⟩
  · exact Or.inl rfl
  · cases sig.isValid
    · exact Or.inl rfl
    · exact Or.inr ⟨isPriced_of_signingHash hdigest, sig, rfl⟩

/-- To set the fees is one turn. -/
theorem turn_setFees {history : Json} (h : t.setFees history = .ok u) : Turn t.bare u.bare := by
  obtain ⟨baseFee, priorityFee, -, rfl⟩ := setFees_eq_ok h
  exact .fees t.bare baseFee priorityFee

/-- To sign is one turn, or changes nothing. -/
theorem turn_sign {key : PrivateKey} (h : t.sign key = some u) : Turn t.bare u.bare := by
  rcases sign_eq_some h with rfl | ⟨hpriced, sig, rfl⟩
  · exact .stay _
  · exact .sign hpriced sig

/-- A reading, which changes only what is remembered, is a turn that changes nothing. -/
theorem turn_of_bare_eq (h : u.bare = t.bare) : Turn t.bare u.bare := by
  rw [h]
  exact .stay _

/-- An action is one turn. -/
theorem turn_act (t : Transaction) (action : Action) : Turn t.bare (t.act action).2.bare := by
  cases action with
  | setNonce nonce => exact .renumber t.bare nonce
  | setFeeLevel level => exact .relevel t.bare level
  | setGas estimate => exact .gas t.bare estimate
  | setFees history =>
    rw [act]
    cases hfees : t.setFees history with
    | error error => exact .stay _
    | ok priced => exact turn_setFees hfees
  | sign key =>
    rw [act]
    cases hsign : t.sign key with
    | none => exact .stay _
    | some signed => exact turn_sign hsign
  | readHash => exact turn_of_bare_eq (bare_readHash t)
  | readSender => exact turn_of_bare_eq (bare_readSender t)
  | readSafeSender => exact turn_of_bare_eq (by rw [act, readSafeSender_snd, bare_readSender])
  | readCallObject => exact turn_of_bare_eq (bare_readCallObject t)
  | describe => exact turn_of_bare_eq (by rw [act, describe_snd, bare_readSender, bare_readHash])
  | encodeUnsigned => exact .stay _
  | encodeSigned => exact .stay _

/-- A step is two turns at most: a pricing sets the fees and then the gas limit. -/
theorem turns_step (t : Transaction) (s : Step) : ∃ mid, Turn t.bare mid ∧ Turn mid (t.step s).bare := by
  cases s with
  | act action => exact ⟨_, turn_act t action, .stay _⟩
  | reprice w node j =>
    have hread : t.readCallObject.2.bare = t.bare := bare_readCallObject t
    rcases w.reprice_snd t node j with heq | ⟨estimate, priced, hfees, heq⟩
    · rw [step, heq]
      exact ⟨_, .stay _, turn_of_bare_eq hread⟩
    · rw [step, heq, ← hread]
      exact ⟨_, turn_setFees hfees, .gas priced.bare estimate.gas⟩
  | signText w keyText =>
    rcases w.signTransaction_snd t keyText with heq | ⟨key, hsign⟩
    · exact ⟨_, .stay _, turn_of_bare_eq (congrArg bare heq)⟩
    · exact ⟨_, .stay _, turn_sign hsign⟩

/-- What every turn keeps holds after any steps. -/
theorem bare_after {P : BareTransaction → Prop} (hturn : ∀ {t u : BareTransaction}, Turn t u → P t → P u) (h : P t.bare)
    (steps : List Step) : P (t.after steps).bare := by
  induction steps generalizing t with
  | nil => exact h
  | cons s steps ih =>
    obtain ⟨mid, hfirst, hsecond⟩ := turns_step t s
    exact ih (hturn hsecond (hturn hfirst h))

end Transaction

/-! ## What is kept -/

/-- The most that is paid is at least the priority fee, also where the sum is past the range. -/
theorem Transaction.toNat_le_maxFeeFor (baseFee priorityFee : UInt256) :
    priorityFee.toNat ≤ (Transaction.maxFeeFor baseFee priorityFee).toNat := by
  have hlt := priorityFee.toNat_lt
  rw [Transaction.maxFeeFor, UInt256.satAdd, UInt256.toNat_saturate]
  omega

namespace BareTransaction

variable {t u : BareTransaction}

/-- The fees are set together, and what is signed is priced. -/
structure Coherent (t : BareTransaction) : Prop where
  fees : t.payload.maxFee.isSome = t.payload.priorityFee.isSome
  priced : t.signature.isSome = true → t.payload.isPriced = true

/-- When both fees are set, the most that is paid is at least the priority fee. -/
def FeesOrdered (t : BareTransaction) : Prop :=
  ∀ maxFee priorityFee, t.payload.maxFee = some maxFee → t.payload.priorityFee = some priorityFee →
    priorityFee.toNat ≤ maxFee.toNat

/-- No turn leaves a signature without prices, or one fee without the other. -/
theorem Turn.coherent (hturn : Turn t u) (h : t.Coherent) : u.Coherent := by
  cases hturn with
  | stay => exact h
  | renumber nonce => exact ⟨rfl, nofun⟩
  | relevel level => exact ⟨rfl, nofun⟩
  | gas estimate => exact ⟨h.fees, nofun⟩
  | fees baseFee priorityFee => exact ⟨rfl, nofun⟩
  | sign hpriced sig => exact ⟨h.fees, fun _ => hpriced⟩

/-- No turn puts the priority fee above the most that is paid. -/
theorem Turn.feesOrdered (hturn : Turn t u) (h : t.FeesOrdered) : u.FeesOrdered := by
  cases hturn with
  | stay => exact h
  | renumber nonce => exact nofun
  | relevel level => exact nofun
  | gas estimate => exact h
  | fees baseFee priorityFee =>
    rintro maxFee priorityFee' hmax hpriority
    cases hmax
    cases hpriority
    exact Transaction.toNat_le_maxFeeFor baseFee priorityFee
  | sign hpriced sig => exact h

end BareTransaction

/-! ## Stages and encodings -/

/-- What the encodings without and with a signature are like at a stage. -/
def Stage.Encodes : Stage → Except TransactionError Bytes → Except TransactionError Bytes → Prop
  | .unpriced, bare, complete => bare = .error .incomplete ∧ complete = .error .incomplete
  | .estimated, bare, complete => (∃ raw, bare = .ok raw) ∧ complete = .error .unsigned
  | .signed, bare, complete => (∃ raw, bare = .ok raw) ∧ ∃ raw, complete = .ok raw

/-- What is not priced has no encoding. -/
theorem Payload.encode_of_isPriced_eq_false {p : Payload} {signature : Option Signature} (h : p.isPriced = false) :
    p.encode signature = .error .incomplete := by
  unfold isPriced at h
  unfold encode
  cases hgas : p.gasLimit <;> cases hmax : p.maxFee <;> cases hpriority : p.priorityFee <;> simp_all

namespace Transaction

variable {t u : Transaction}

/-- When what is signed is priced, the stage tells which encodings there are. -/
theorem encodes_stage (h : t.signature.isSome = true → t.payload.isPriced = true) :
    t.stage.Encodes t.encodeUnsigned t.encodeSigned := by
  unfold stage isSignable encodeUnsigned encodeSigned isSignable
  cases hsig : t.signature with
  | some sig =>
    have hpriced := h (by rw [hsig]; rfl)
    simp only [Option.isSome_some, if_true, hpriced]
    exact ⟨Payload.isPriced_iff.mp hpriced, Payload.isPriced_iff.mp hpriced⟩
  | none =>
    cases hpriced : t.payload.isPriced with
    | true => exact ⟨Payload.isPriced_iff.mp hpriced, rfl⟩
    | false => exact ⟨Payload.encode_of_isPriced_eq_false hpriced, rfl⟩

/-- Nothing is signed before it is priced. -/
theorem sign_of_stage_eq_unpriced (h : t.stage = .unpriced) (key : PrivateKey) : t.sign key = some t := by
  have hpriced : t.payload.isPriced = false := by
    unfold stage isSignable at h
    cases hp : t.payload.isPriced with
    | false => rfl
    | true => cases hs : t.signature <;> simp [hp, hs] at h
  unfold sign signingHash encodeUnsigned
  rw [Payload.encode_of_isPriced_eq_false hpriced]
  rfl

/-- A signing that gives no text changes nothing: a transaction that takes a signature is priced, and then has an
encoding. -/
theorem signTransaction_eq_error {w : Wallet} {keyText : String} {error : WalletError}
    (h : w.signTransaction t keyText = (.error error, u)) : u = t := by
  unfold Wallet.signTransaction at h
  cases hkey : PrivateKey.parse keyText with
  | error error =>
    rw [hkey] at h
    exact (Prod.mk.inj h).2.symm
  | ok key =>
    rw [hkey] at h
    cases hsign : t.sign key with
    | none =>
      simp only [hsign] at h
      exact (Prod.mk.inj h).2.symm
    | some signed =>
      simp only [hsign] at h
      rcases sign_eq_some hsign with rfl | ⟨hpriced, sig, rfl⟩
      · split at h
        · exact (Prod.mk.inj h).2.symm
        · nomatch h
      · have hencodes : (t.signed sig).stage.Encodes _ (t.signed sig).encodeSigned := encodes_stage fun _ => hpriced
        obtain ⟨-, raw, hraw⟩ := hencodes
        rw [hraw] at h
        nomatch h

end Transaction

/-! ## Where transactions come from -/

/-- Where a transaction comes from. -/
inductive Transaction.Origin where
  /-- It was built. -/
  | built (sk : Skeleton) (level : FeeLevel)
  /-- It was read. -/
  | read (level : CheckLevel) (raw : Bytes)

/-- The transaction at its beginning. -/
def Transaction.Origin.start : Transaction.Origin → Except TransactionError Transaction
  | .built sk level => .ok (.ofSkeleton sk level)
  | .read level raw => Transaction.decode level raw

/-- The transaction is what some steps make of what comes from this origin. -/
def Transaction.Reached (t : Transaction) (origin : Transaction.Origin) (steps : List Step) : Prop :=
  ∃ start, origin.start = .ok start ∧ t = start.after steps

namespace Transaction

variable {t : Transaction} {origin : Origin} {steps : List Step}

/-- Verifying a signature fills in what is remembered, and no more. -/
theorem bare_verify {level : CheckLevel} {u : Transaction} (h : t.verify level = .ok u) : u.bare = t.bare := by
  have hread := bare_readSender t
  unfold verify at h
  split at h
  · cases h
    rfl
  · cases h
    rfl
  · split at h
    · cases h
      rfl
    split at h
    · nomatch h
    split at h
    · split at h
      · rename_i hsender
        cases h
        rwa [hsender] at hread
      · nomatch h
    · cases h
      rfl

/-- What is read is priced. -/
theorem isPriced_of_decode {level : CheckLevel} {raw : Bytes} (h : decode level raw = .ok t) :
    t.payload.isPriced = true := by
  obtain ⟨⟨payload, signature⟩, hread, hverify⟩ := bind_eq_ok.mp h
  have hpayload : t.payload = payload := congrArg BareTransaction.payload (bare_verify hverify)
  rw [hpayload]
  exact Payload.isPriced_iff.mpr ⟨raw, Payload.encode_of_decode hread⟩

/-- Along a life, a signature comes with prices, and the fees come together. -/
theorem Reached.coherent (h : t.Reached origin steps) : t.bare.Coherent := by
  obtain ⟨start, hstart, rfl⟩ := h
  refine bare_after (fun hturn => hturn.coherent) ?_ steps
  cases origin with
  | built sk level =>
    cases hstart
    exact ⟨rfl, nofun⟩
  | read level raw =>
    have hpriced : start.payload.isPriced = true := isPriced_of_decode hstart
    refine ⟨?_, fun _ => hpriced⟩
    rw [Payload.isPriced, Bool.and_eq_true, Bool.and_eq_true] at hpriced
    exact hpriced.1.2.trans hpriced.2.symm

/-- Along the life of a transaction that was built, the fees are in order. -/
theorem Reached.feesOrdered {sk : Skeleton} {level : FeeLevel}
    (h : t.Reached (.built sk level) steps) : t.bare.FeesOrdered := by
  obtain ⟨start, hstart, rfl⟩ := h
  cases hstart
  have hunpriced : (ofSkeleton sk level).bare.FeesOrdered := fun _ _ h => nomatch h
  exact bare_after (fun hturn => hturn.feesOrdered) hunpriced steps

end Transaction

/-! ## Main statement -/

/-- At every point in the life of a transaction, built or read: what is signed is priced, the fees are set together,
and the stage tells which encodings there are. When it was built, the most that is paid is at least the priority fee.
A transaction that is not priced stays as it is when it is signed, and so does any when the signing gives no text. -/
theorem encodes_of_reached {t : Transaction} {origin : Transaction.Origin} {steps : List Step}
    (h : t.Reached origin steps) :
    (t.signature.isSome = true → t.isSignable = true) ∧
      (t.payload.maxFee.isSome = true ↔ t.payload.priorityFee.isSome = true) ∧
      t.stage.Encodes t.encodeUnsigned t.encodeSigned ∧
      (∀ sk level, origin = .built sk level → ∀ maxFee priorityFee, t.payload.maxFee = some maxFee →
        t.payload.priorityFee = some priorityFee → priorityFee.toNat ≤ maxFee.toNat) ∧
      (∀ key, t.stage = .unpriced → t.sign key = some t) ∧
      ∀ w keyText error u, Wallet.signTransaction w t keyText = (.error error, u) → u = t := by
  have hcoherent := h.coherent
  refine ⟨hcoherent.priced, Bool.eq_iff_iff.mp hcoherent.fees, Transaction.encodes_stage hcoherent.priced, ?_, ?_, ?_⟩
  · rintro sk level rfl
    exact h.feesOrdered
  · intro key hstage
    exact Transaction.sign_of_stage_eq_unpriced hstage key
  · intro w keyText error u hfailed
    exact Transaction.signTransaction_eq_error hfailed

/-- A contract creation that nobody has priced. -/
def unpricedCreation : Skeleton where
  sender := .replicate 20 0x22
  nonce := .zero
  chainId := 1

/-- Gas, and fees with the largest base fee there is. -/
def saturatingSteps : List Step :=
  [.act (.setGas (.ofUInt64 21000)),
    .act (.setFees (.members [("result", .members [
      ("baseFeePerGas", .array [.text ("0x" ++ String.ofList (List.replicate 64 'f'))]),
      ("reward", .array [.array [.text "0x1", .text "0x2", .text "0x3"]])])]))]

/-- Fees at the end of the range are in order, and what is read with a signature stays signed when its sender is asked
for. -/
theorem encodes_of_reached_saturating :
    (∃ t : Transaction, t.Reached (.built unpricedCreation .high) saturatingSteps ∧ t.stage = .estimated ∧
      (∃ raw, t.encodeUnsigned = .ok raw) ∧ t.encodeSigned = .error .unsigned ∧
      t.payload.maxFee = some .max ∧ t.payload.priorityFee = some (.ofUInt64 3) ∧ 3 ≤ UInt256.max.toNat) ∧
    ∃ t : Transaction, t.Reached (.read .structureOnly zeroSignedBytes) [.act .readSender] ∧ t.stage = .signed ∧
      (∃ raw, t.encodeUnsigned = .ok raw) ∧ ∃ raw, t.encodeSigned = .ok raw := by
  constructor
  · have hreached : ((Transaction.ofSkeleton unpricedCreation .high).after saturatingSteps).Reached
        (.built unpricedCreation .high) saturatingSteps := ⟨_, rfl, rfl⟩
    obtain ⟨-, -, hencodes, hordered, -⟩ := encodes_of_reached hreached
    generalize ht : (Transaction.ofSkeleton unpricedCreation .high).after saturatingSteps = t at *
    have hstage : t.stage = .estimated := by rw [← ht]; decide +kernel
    have hmax : t.payload.maxFee = some .max := by rw [← ht]; decide +kernel
    have hpriority : t.payload.priorityFee = some (.ofUInt64 3) := by rw [← ht]; decide +kernel
    rw [hstage] at hencodes
    exact ⟨t, hreached, hstage, hencodes.1, hencodes.2, hmax, hpriority, hordered _ _ rfl _ _ hmax hpriority⟩
  · have hread : Transaction.decode .structureOnly zeroSignedBytes = .ok zeroSignedTransfer := by decide +kernel
    have hreached : (zeroSignedTransfer.after [.act .readSender]).Reached
        (.read .structureOnly zeroSignedBytes) [.act .readSender] :=
      ⟨_, hread, rfl⟩
    obtain ⟨-, -, hencodes, -⟩ := encodes_of_reached hreached
    generalize ht : zeroSignedTransfer.after [.act .readSender] = t at *
    have hstage : t.stage = .signed := by rw [← ht]; decide +kernel
    rw [hstage] at hencodes
    exact ⟨t, hreached, hstage, hencodes⟩

end DynamicFeeWallet
