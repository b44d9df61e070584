import DynamicFeeWallet.Proofs.Node.Estimation
import DynamicFeeWallet.Proofs.Transaction.GasLimit
import DynamicFeeWallet.Proofs.Transaction.Pricing

/-!
# Pricing anew

A transaction is priced anew as a whole or not at all. What a pricing comes to is decided by the two replies of its
round (`Wallet.repriced_cases`). When it fails, asking for the call object may have filled in what is remembered; that
nobody can tell is due to `Transaction.Fresh`, which holds at every point in the life of a transaction
(`Transaction.Reached.fresh`).
-/

namespace DynamicFeeWallet

/-! ## What is remembered, over a life -/

namespace Transaction

variable {t u : Transaction}

theorem Fresh.sign {key : PrivateKey} (h : t.Fresh) (hu : t.sign key = some u) : u.Fresh :=
  (h.signWith_eq key.sign).2 u hu

/-- No step leaves anything out of date. -/
theorem Fresh.step (h : t.Fresh) (s : Step) : (t.step s).Fresh := by
  cases s with
  | act action => exact (h.act_eq action).2.2
  | reprice w node j =>
    rcases w.reprice_snd t node j with heq | ⟨estimate, priced, -, heq⟩
    · rw [Transaction.step, heq]
      exact h.readCallObject
    · rw [Transaction.step, heq]
      exact Fresh.of_none rfl rfl
  | signText w keyText =>
    rcases w.signTransaction_snd t keyText with heq | ⟨key, hsign⟩
    · rw [Transaction.step, heq]
      exact h
    · exact h.sign hsign

theorem Fresh.after (h : t.Fresh) (steps : List Step) : (t.after steps).Fresh := by
  induction steps generalizing t with
  | nil => exact h
  | cons s steps ih => exact ih (h.step s)

/-- At every point in the life of a transaction what is remembered is what would be computed. -/
theorem Reached.fresh {origin : Origin} {steps : List Step} (h : t.Reached origin steps) : t.Fresh := by
  obtain ⟨start, hstart, rfl⟩ := h
  cases origin with
  | built sk level =>
    cases hstart
    exact (Fresh.of_none rfl rfl).after steps
  | read level raw => exact ((decode_tracks level raw).fresh start hstart).after steps

end Transaction

/-! ## What can be told from outside -/

/-- Nothing tells the two transactions apart: their fields, fee levels, declared senders, signatures and stages are
the same, and so are hashes, senders, encodings, and the answer to every action. -/
structure Transaction.LooksLike (u t : Transaction) : Prop where
  payload : u.payload = t.payload
  feeLevel : u.feeLevel = t.feeLevel
  declaredSender : u.declaredSender = t.declaredSender
  signature : u.signature = t.signature
  stage : u.stage = t.stage
  hash : u.readHash.1 = t.readHash.1
  sender : u.readSender.1 = t.readSender.1
  encodeUnsigned : u.encodeUnsigned = t.encodeUnsigned
  encodeSigned : u.encodeSigned = t.encodeSigned
  answer : ∀ action, (u.act action).1 = (t.act action).1

/-- What is remembered cannot be told when it is what would be computed. -/
theorem Transaction.Fresh.looksLike {t u : Transaction} (ht : t.Fresh) (hu : u.Fresh)
    (h : u.bare = t.bare) : u.LooksLike t := by
  have hpayload : u.payload = t.payload := congrArg BareTransaction.payload h
  have hsignature : u.signature = t.signature := congrArg BareTransaction.signature h
  refine
    { payload := hpayload
      feeLevel := congrArg BareTransaction.feeLevel h
      declaredSender := congrArg BareTransaction.declaredSender h
      signature := hsignature
      stage := by rw [stage, stage, isSignable, isSignable, hpayload, hsignature]
      hash := ?_
      sender := ?_
      encodeUnsigned := encodeUnsigned_congr hpayload
      encodeSigned := encodeSigned_congr hpayload hsignature
      answer := fun action => ?_ }
  · rw [hu.readHash_fst, ht.readHash_fst, computeHash_congr hpayload hsignature]
  · rw [hu.readSender_fst, ht.readSender_fst, computeSender_congr hpayload hsignature]
  · rw [(hu.act_eq action).1, (ht.act_eq action).1, h]

/-! ## What a pricing comes to -/

/-- The transaction is priced by the two replies of a round: the gas limit is the gas result with its margin, the
priority fee is what the fee history quotes at the level of the transaction, and the most that is paid is twice the
base fee and the priority fee, cut at the end of the range. It is not signed, and all else stays. -/
structure Transaction.PricedBy (u t : Transaction) (gas fees : Reply) : Prop where
  prices : ∃ (estimate : Estimate) (limit baseFee priorityFee maxFee : UInt256),
    Estimate.ofReplies gas fees = .ok estimate ∧
    IsMargin estimate.gas limit ∧ estimate.feeHistory.Quotes t.feeLevel baseFee priorityFee ∧
    maxFee.toNat = min (2 * baseFee.toNat + priorityFee.toNat) (2 ^ 256 - 1) ∧
    u.payload = { t.payload with gasLimit := some limit, maxFee := some maxFee, priorityFee := some priorityFee }
  signature : u.signature = none
  feeLevel : u.feeLevel = t.feeLevel
  declaredSender : u.declaredSender = t.declaredSender

/-- A pricing prices the transaction by the estimate, or leaves it as it is. -/
theorem Wallet.repriced_cases (t : Transaction) (gas fees : Reply) :
    (∃ u, repriced t ((Estimate.ofReplies gas fees).mapError .node) = (.ok (), u) ∧ u.PricedBy t gas fees) ∨
      ∃ error, repriced t ((Estimate.ofReplies gas fees).mapError .node) = (.error error, t) := by
  cases hreplies : Estimate.ofReplies gas fees with
  | error error => exact Or.inr ⟨.node error, rfl⟩
  | ok estimate =>
    dsimp only [Except.mapError, repriced]
    rcases Transaction.pricesOf_cases t.feeLevel estimate.feeHistory with
      ⟨baseFee, priorityFee, -, hquotes⟩ | ⟨error, herror, -⟩
    · rw [Transaction.setFees_of_quotes hquotes]
      exact Or.inl ⟨_, rfl, ⟨estimate, _, baseFee, priorityFee, _, hreplies,
        Transaction.isMargin_gasWithMargin estimate.gas, hquotes,
        Transaction.toNat_maxFeeFor baseFee priorityFee, rfl⟩, rfl, rfl, rfl⟩
    · rw [Transaction.setFees, herror]
      exact Or.inr ⟨.transaction (.badFeeHistory error), rfl⟩

/-- What is remembered of a transaction makes no difference to what prices it. -/
theorem Transaction.PricedBy.of_bare {t t' u : Transaction} {gas fees : Reply} (h : u.PricedBy t' gas fees)
    (hbare : t'.bare = t.bare) :
    u.PricedBy t gas fees := by
  have hpayload : t'.payload = t.payload := congrArg BareTransaction.payload hbare
  have hlevel : t'.feeLevel = t.feeLevel := congrArg BareTransaction.feeLevel hbare
  obtain ⟨⟨estimate, limit, baseFee, priorityFee, maxFee, hreplies, hmargin, hquotes, hmax, hu⟩, hsignature,
    hfeeLevel, hdeclared⟩ := h
  rw [hlevel] at hquotes hfeeLevel
  rw [hpayload] at hu
  exact ⟨⟨estimate, limit, baseFee, priorityFee, maxFee, hreplies, hmargin, hquotes, hmax, hu⟩, hsignature, hfeeLevel,
    hdeclared.trans (congrArg BareTransaction.declaredSender hbare)⟩

/-! ## Main statement -/

/-- A pricing anew is done as a whole or not at all, at every point in the life of a transaction, built or read, and
whatever the node answers: it succeeds, and then the two replies of this round price the transaction and no signature
is left; or it fails, and then nothing tells the transaction from what it was before. -/
theorem pricedBy_or_looksLike_of_reached {t : Transaction} {origin : Transaction.Origin} {steps : List Step}
    (h : t.Reached origin steps) (w : Wallet) (node : Node) (j : Journal) :
    (∃ u j' reply, (w.reprice t).run node j = ((.ok (), u), j') ∧ Round t.readCallObject.1 node j j' reply ∧
      u.PricedBy t (reply .gas) (reply .fees)) ∨
      ∃ error u j', (w.reprice t).run node j = ((.error error, u), j') ∧ u.LooksLike t := by
  have hbare : t.readCallObject.2.bare = t.bare := Transaction.bare_readCallObject t
  have hlooks : t.readCallObject.2.LooksLike t := h.fresh.looksLike h.fresh.readCallObject hbare
  rw [Wallet.run_reprice, Client.estimate, Client.run_estimateWith]
  cases Argument.checkCall t.readCallObject.1 with
  | error error => exact Or.inr ⟨_, _, _, rfl, hlooks⟩
  | ok checked =>
    dsimp only
    rcases Wallet.repriced_cases t.readCallObject.2 _ _ with ⟨u, hrepriced, hpriced⟩ | ⟨error, hrepriced⟩
    · rw [hrepriced]
      exact Or.inl ⟨u, _, _, rfl, LegPair.round_turns _ _, hpriced.of_bare hbare⟩
    · rw [hrepriced]
      exact Or.inr ⟨error, _, _, rfl, hlooks⟩

/-- A node that answers both requests of an estimation. -/
def answeringNode : Node := fun _ request =>
  if request.method = "eth_estimateGas" then .ok "\x7b\"result\":\"0x5208\"\x7d"
  else .ok "\x7b\"result\":\x7b\"baseFeePerGas\":[\"0x64\"],\"reward\":[[\"0x5\",\"0xf\",\"0x1e\"]]\x7d\x7d"

/-- A signed transaction stays signed when the node is silent, and fees at the end of the range give way to those of
an answer. -/
theorem pricedBy_or_looksLike_of_silent_and_answering :
    (∃ error u j',
      ((Wallet.mk ⟨{}⟩).reprice zeroSignedTransfer).run (fun _ _ => .error (.exhausted 1)) {} = ((.error error, u), j') ∧
        u.LooksLike zeroSignedTransfer ∧ u.signature.isSome = true) ∧
    ∃ t u j', t.Reached (.built unpricedCreation .high) saturatingSteps ∧ t.payload.maxFee = some .max ∧
      ((Wallet.mk ⟨{}⟩).reprice t).run answeringNode {} = ((.ok (), u), j') ∧
      u.payload.gasLimit = some (.ofUInt64 25200) ∧
        u.payload.maxFee = some (.ofUInt64 230) ∧ u.payload.priorityFee = some (.ofUInt64 30) ∧ u.signature = none := by
  constructor
  · have hread : Transaction.decode .structureOnly zeroSignedBytes = .ok zeroSignedTransfer := by decide +kernel
    have hreached : zeroSignedTransfer.Reached (.read .structureOnly zeroSignedBytes) [] := ⟨_, hread, rfl⟩
    rcases pricedBy_or_looksLike_of_reached hreached ⟨⟨{}⟩⟩ (fun _ _ => .error (.exhausted 1)) {} with
      ⟨u, j', reply, -, ⟨order, -, -, hreply⟩, hpriced⟩ | ⟨error, u, j', hrun, hlooks⟩
    · obtain ⟨estimate, limit, baseFee, priorityFee, maxFee, hreplies, -⟩ := hpriced.prices
      rw [hreply .gas] at hreplies
      nomatch hreplies
    · exact ⟨error, u, j', hrun, hlooks, by rw [hlooks.signature]; rfl⟩
  · have hreached : ((Transaction.ofSkeleton unpricedCreation .high).after saturatingSteps).Reached
        (.built unpricedCreation .high) saturatingSteps := ⟨_, rfl, rfl⟩
    generalize ht : (Transaction.ofSkeleton unpricedCreation .high).after saturatingSteps = t at hreached
    have hmax : t.payload.maxFee = some .max := by rw [← ht]; decide +kernel
    have hpriced : (match ((Wallet.mk ⟨{}⟩).reprice t).run answeringNode {} with
      | ((.ok (), u), _) => u.payload.gasLimit == some (.ofUInt64 25200) && u.payload.maxFee == some (.ofUInt64 230) &&
          u.payload.priorityFee == some (.ofUInt64 30)
      | ((.error _, _), _) => false) = true := by
      rw [← ht]
      decide +kernel
    rcases pricedBy_or_looksLike_of_reached hreached ⟨⟨{}⟩⟩ answeringNode {} with
      ⟨u, j', reply, hrun, -, hpricedBy⟩ | ⟨error, u, j', hrun, -⟩
    · rw [hrun] at hpriced
      simp only [Bool.and_eq_true, beq_iff_eq] at hpriced
      obtain ⟨⟨hgas, hfee⟩, hpriority⟩ := hpriced
      exact ⟨t, u, j', hreached, hmax, hrun, hgas, hfee, hpriority, hpricedBy.signature⟩
    · rw [hrun] at hpriced
      nomatch hpriced

end DynamicFeeWallet
