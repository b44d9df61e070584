import DynamicFeeWallet.Transaction.Basic

/-!
# What is done with a transaction

An `Action` is one of the changes of a transaction, its signing, or one of its readings; `Transaction.act` carries it
out and gives what it answers. A reading may fill in what is remembered, and no more (`bare_readHash`,
`bare_readSender`, `bare_readCallObject`).
-/

namespace DynamicFeeWallet

/-- What is done with one transaction. -/
inductive Action where
  | setNonce (nonce : UInt256)
  | setFeeLevel (level : FeeLevel)
  | setGas (estimate : UInt256)
  | setFees (history : Json)
  | sign (key : PrivateKey)
  | readHash
  | readSender
  | readSafeSender
  | readCallObject
  | describe
  | encodeUnsigned
  | encodeSigned

/-- What an action answers. -/
inductive Action.Answer where
  /-- A change was made, or was refused. -/
  | changed (result : Except TransactionError Unit)
  /-- The key gave a signature or the transaction needed none yet; or it gave none. -/
  | signed (given : Bool)
  | hash (result : Except TransactionError Hash)
  | sender (result : Except TransactionError Address)
  | safeSender (address : Address)
  | callObject (object : Json)
  | line (text : String)
  | encoding (result : Except TransactionError Bytes)
  /-- There is no such transaction. -/
  | missing

namespace Transaction

/-- Carries out an action: the answer, and the transaction to go on with. -/
def act (t : Transaction) : Action → Action.Answer × Transaction
  | .setNonce nonce => (.changed (.ok ()), t.setNonce nonce)
  | .setFeeLevel level => (.changed (.ok ()), t.setFeeLevel level)
  | .setGas estimate => (.changed (.ok ()), t.setGas estimate)
  | .setFees history =>
    match t.setFees history with
    | .ok t' => (.changed (.ok ()), t')
    | .error error => (.changed (.error error), t)
  | .sign key =>
    match t.sign key with
    | some t' => (.signed true, t')
    | none => (.signed false, t)
  | .readHash => (.hash t.readHash.1, t.readHash.2)
  | .readSender => (.sender t.readSender.1, t.readSender.2)
  | .readSafeSender => (.safeSender t.readSafeSender.1, t.readSafeSender.2)
  | .readCallObject => (.callObject t.readCallObject.1, t.readCallObject.2)
  | .describe => (.line t.describe.1, t.describe.2)
  | .encodeUnsigned => (.encoding t.encodeUnsigned, t)
  | .encodeSigned => (.encoding t.encodeSigned, t)

end Transaction

/-! ## Signing and pricing -/

namespace Transaction

/-- Signs with whatever gives a signature for a digest. -/
def signWith (give : Hash → Option Signature) (t : Transaction) : Option Transaction :=
  match t.signingHash with
  | .error _ => some t
  | .ok digest =>
    match give digest with
    | none => none
    | some sig =>
      if sig.isValid then some { t with signature := some sig, hashMemo := none, senderMemo := none } else some t

theorem sign_eq_signWith (key : PrivateKey) (t : Transaction) : t.sign key = t.signWith key.sign := rfl

/-- The same transaction with another signature; what was remembered is dropped. -/
def signed (t : Transaction) (sig : Signature) : Transaction :=
  { t with signature := some sig, hashMemo := none, senderMemo := none }

/-- A transaction that cannot be signed yet stays as it is, and so does one whose signature came out of range. -/
theorem signWith_eq_some {give : Hash → Option Signature} {t u : Transaction} (h : t.signWith give = some u) :
    (∃ error, t.signingHash = .error error ∧ u = t) ∨
      ∃ digest sig, t.signingHash = .ok digest ∧ give digest = some sig ∧
        u = if sig.isValid then t.signed sig else t := by
  unfold signWith at h
  cases hhash : t.signingHash with
  | error error =>
    rw [hhash] at h
    exact Or.inl ⟨error, rfl, (Option.some.inj h).symm⟩
  | ok digest =>
    rw [hhash] at h
    cases hgive : give digest with
    | none =>
      simp only [hgive] at h
      nomatch h
    | some sig =>
      simp only [hgive] at h
      refine Or.inr ⟨digest, sig, rfl, hgive, ?_⟩
      cases hvalid : sig.isValid with
      | true =>
        rw [hvalid] at h
        exact (Option.some.inj h).symm
      | false =>
        rw [hvalid] at h
        exact (Option.some.inj h).symm

/-- A digest and a signature in range for it sign the transaction. -/
theorem signWith_of_isValid {give : Hash → Option Signature} {t : Transaction} {digest : Hash} {sig : Signature}
    (hdigest : t.signingHash = .ok digest) (hgiven : give digest = some sig) (hvalid : sig.isValid = true) :
    t.signWith give = some (t.signed sig) := by
  unfold signWith
  rw [hdigest]
  simp only [hgiven, hvalid, if_true, signed]

/-- Fees that are set are those of the history at the level of the transaction. -/
theorem setFees_eq_ok {history : Json} {t u : Transaction} (h : t.setFees history = .ok u) :
    ∃ baseFee priorityFee, pricesOf t.feeLevel history = .ok (baseFee, priorityFee) ∧
      u = t.change fun p =>
        { p with priorityFee := some priorityFee, maxFee := some (maxFeeFor baseFee priorityFee) } := by
  unfold setFees at h
  cases hprices : pricesOf t.feeLevel history with
  | error error =>
    rw [hprices] at h
    nomatch h
  | ok prices =>
    obtain ⟨baseFee, priorityFee⟩ := prices
    rw [hprices] at h
    exact ⟨baseFee, priorityFee, rfl, (Except.ok.inj h).symm⟩

end Transaction

/-! ## Readings -/

/-- A transaction without what is remembered of it. -/
structure BareTransaction where
  (payload : Payload) (feeLevel : FeeLevel) (declaredSender : Option Address) (signature : Option Signature)

namespace Transaction

/-- The transaction without what is remembered of it. -/
def bare (t : Transaction) : BareTransaction := ⟨t.payload, t.feeLevel, t.declaredSender, t.signature⟩

/-- To read the hash changes nothing but what is remembered. -/
@[simp] theorem bare_readHash (t : Transaction) : t.readHash.2.bare = t.bare := by
  unfold readHash
  split
  · rfl
  · split <;> rfl

/-- To read the sender changes nothing but what is remembered. -/
@[simp] theorem bare_readSender (t : Transaction) : t.readSender.2.bare = t.bare := by
  unfold readSender
  split
  · rfl
  · split <;> rfl

/-- The safe reading of the sender remembers as much as the other one. -/
theorem readSafeSender_snd (t : Transaction) : t.readSafeSender.2 = t.readSender.2 := by
  unfold readSafeSender
  split <;> simp [*]

/-- The safe reading of the sender falls back on the zero address. -/
theorem readSafeSender_fst (t : Transaction) : t.readSafeSender.1 = t.readSender.1.toOption.getD .zero := by
  unfold readSafeSender
  split <;> simp [*, Except.toOption]

/-- The call object of a payload, with a sender or without. -/
def callObjectOf (p : Payload) (sender : Option Address) : Json :=
  callObject sender p.destination p.value p.data p.nonce p.chainId p.accessList

/-- A call object reads the sender only when none is declared. -/
theorem readCallObject_snd (t : Transaction) :
    t.readCallObject.2 = if t.declaredSender.isSome then t else t.readSender.2 := by
  unfold readCallObject
  split
  · simp [*]
  · split <;> simp [*]

/-- The sender of the call object is the one declared, or else the one that is read. -/
theorem readCallObject_fst (t : Transaction) :
    t.readCallObject.1 = callObjectOf t.payload (t.declaredSender.or t.readSender.1.toOption) := by
  unfold readCallObject
  split
  · simp [*, callObjectOf]
  · split <;> simp [*, callObjectOf, Except.toOption]

/-- To read the call object changes nothing but what is remembered. -/
@[simp] theorem bare_readCallObject (t : Transaction) : t.readCallObject.2.bare = t.bare := by
  rw [readCallObject_snd]
  split
  · rfl
  · exact bare_readSender t

/-- The line about a transaction reads its hash and then its sender. -/
theorem describe_snd (t : Transaction) : t.describe.2 = t.readHash.2.readSender.2 := by
  rw [← readSafeSender_snd]
  rfl

/-- The line about a transaction of which hash and sender are known. -/
def lineOf (p : Payload) (hash : Except TransactionError Hash) (sender : Address) : String :=
  let hashText := match hash with
    | .ok hash => hash.toHex
    | .error _ => "<unsigned>"
  let destination := match p.destination with
    | some a => "\x7b" ++ a.checksum ++ "\x7d"
    | none => "\x7b[CREATE]\x7d"
  let fees := s!"{renderOptional p.gasLimit}@{renderOptional p.maxFee}({renderOptional p.priorityFee})"
  s!"{hashText}{destination}/{p.data.length}${p.value}+{fees}<-{sender.checksum} #{p.nonce}"

/-- The line tells the hash and the sender that were read for it. -/
theorem describe_fst (t : Transaction) :
    t.describe.1 = lineOf t.payload t.readHash.1 (t.readHash.2.readSender.1.toOption.getD .zero) := by
  have hpayload : t.readHash.2.readSender.2.payload = t.payload :=
    congrArg BareTransaction.payload ((bare_readSender _).trans (bare_readHash t))
  rw [← readSafeSender_fst, ← hpayload, ← readSafeSender_snd]
  rfl

end Transaction

end DynamicFeeWallet
