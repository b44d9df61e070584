import DynamicFeeWallet.Proofs.Transaction.Action

/-!
# What is remembered is what would be computed

A transaction remembers its hash and its sender once they are computed. Here it is set beside a `BareTransaction`,
which remembers nothing and computes both anew each time: whatever is done with any number of transactions, built,
read or copied, in any order, the answers are the same. The invariant that carries it is `Transaction.Fresh`, one
event of it is `Keeping.Simulates.step_eq`.
-/

namespace DynamicFeeWallet

/-! ## Transactions that remember nothing -/

namespace BareTransaction

/-- The bare transaction of a skeleton. -/
def ofSkeleton (sk : Skeleton) (level : FeeLevel) : BareTransaction where
  payload :=
    { chainId := sk.chainId
      nonce := sk.nonce
      priorityFee := none
      maxFee := none
      gasLimit := none
      destination := sk.destination
      value := sk.value
      data := sk.data
      accessList := sk.accessList }
  feeLevel := level
  declaredSender := some sk.sender
  signature := none

/-- The same transaction, with nothing remembered yet. -/
def restart (t : BareTransaction) : Transaction := ⟨t.payload, t.feeLevel, t.declaredSender, t.signature, none, none⟩

/-- The hash, computed anew. -/
def hash (t : BareTransaction) : Except TransactionError Hash := t.restart.computeHash

/-- The sender, computed anew. -/
def sender (t : BareTransaction) : Except TransactionError Address := t.restart.computeSender

/-- Changes the fields; the signature is dropped. -/
def change (f : Payload → Payload) (t : BareTransaction) : BareTransaction :=
  { t with payload := f t.payload, signature := none }

/-- Signs with whatever gives a signature for a digest. -/
def signWith (give : Hash → Option Signature) (t : BareTransaction) : Option BareTransaction :=
  match t.restart.signingHash with
  | .error _ => some t
  | .ok digest => (give digest).map fun sig => if sig.isValid then { t with signature := some sig } else t

/-- Carries out an action: the answer, and the transaction to go on with. -/
def act (t : BareTransaction) : Action → Action.Answer × BareTransaction
  | .setNonce nonce =>
    (.changed (.ok ()), t.change fun p =>
      { p with nonce := nonce, gasLimit := none, maxFee := none, priorityFee := none })
  | .setFeeLevel level =>
    (.changed (.ok ()), { t with feeLevel := level }.change fun p => { p with maxFee := none, priorityFee := none })
  | .setGas estimate =>
    (.changed (.ok ()), t.change fun p => { p with gasLimit := some (Transaction.gasWithMargin estimate) })
  | .setFees history =>
    match Transaction.pricesOf t.feeLevel history with
    | .ok (baseFee, priorityFee) =>
      (.changed (.ok ()), t.change fun p =>
        { p with priorityFee := some priorityFee, maxFee := some (Transaction.maxFeeFor baseFee priorityFee) })
    | .error error => (.changed (.error (.badFeeHistory error)), t)
  | .sign key =>
    match t.signWith key.sign with
    | some t' => (.signed true, t')
    | none => (.signed false, t)
  | .readHash => (.hash t.hash, t)
  | .readSender => (.sender t.sender, t)
  | .readSafeSender => (.safeSender (t.sender.toOption.getD .zero), t)
  | .readCallObject => (.callObject (Transaction.callObjectOf t.payload (t.declaredSender.or t.sender.toOption)), t)
  | .describe => (.line (Transaction.lineOf t.payload t.hash (t.sender.toOption.getD .zero)), t)
  | .encodeUnsigned => (.encoding t.restart.encodeUnsigned, t)
  | .encodeSigned => (.encoding t.restart.encodeSigned, t)

/-- Verifies the signature as far as asked. -/
def verify (level : CheckLevel) (t : BareTransaction) : Except TransactionError BareTransaction :=
  match level, t.signature with
  | .structureOnly, _ => .ok t
  | _, none => .ok t
  | level, some sig =>
    if sig.isZero then .ok t
    else if !sig.isValid || !sig.isLowS then .error .badSignature
    else if level = .signer then t.sender.map fun _ => t
    else .ok t

/-- Reads an encoding and verifies it as far as asked. -/
def decode (level : CheckLevel) (raw : Bytes) : Except TransactionError BareTransaction := do
  let (payload, signature) ← Payload.decode raw
  verify level ⟨payload, .medium, none, signature⟩

end BareTransaction

/-! ## Several transactions at once -/

/-- What happens to the transactions at hand, which are numbered as they come. -/
inductive Event where
  /-- One more is built. -/
  | build (sk : Skeleton) (level : FeeLevel)
  /-- One more is read, unless it is refused. -/
  | read (level : CheckLevel) (raw : Bytes)
  /-- One is copied, with what is remembered of it. -/
  | copy (place : Nat)
  /-- Something is done with one. -/
  | act (place : Nat) (action : Action)

/-- How transactions are kept. -/
structure Keeping (σ : Type) where
  (build : Skeleton → FeeLevel → σ) (decode : CheckLevel → Bytes → Except TransactionError σ)
  (act : σ → Action → Action.Answer × σ)

/-- Transactions that remember. -/
def remembering : Keeping Transaction := ⟨Transaction.ofSkeleton, Transaction.decode, Transaction.act⟩

/-- Transactions that compute everything anew. -/
def recomputing : Keeping BareTransaction := ⟨BareTransaction.ofSkeleton, BareTransaction.decode, BareTransaction.act⟩

namespace Keeping

variable {σ τ : Type}

/-- What one event answers, and the transactions at hand after it. -/
def step (k : Keeping σ) (ts : List σ) : Event → Action.Answer × List σ
  | .build sk level => (.changed (.ok ()), ts ++ [k.build sk level])
  | .read level raw =>
    match k.decode level raw with
    | .ok t => (.changed (.ok ()), ts ++ [t])
    | .error error => (.changed (.error error), ts)
  | .copy place =>
    match ts[place]? with
    | some t => (.changed (.ok ()), ts ++ [t])
    | none => (.missing, ts)
  | .act place action =>
    match ts[place]? with
    | some t => ((k.act t action).1, ts.set place (k.act t action).2)
    | none => (.missing, ts)

/-- What the events of a run answer, and the transactions at hand after them. -/
def run (k : Keeping σ) : List σ → List Event → List Action.Answer × List σ
  | ts, [] => ([], ts)
  | ts, e :: events => ((k.step ts e).1 :: (k.run (k.step ts e).2 events).1, (k.run (k.step ts e).2 events).2)

/-- Seen through `view`, and as long as `Good` holds, the one way of keeping transactions answers as the other. -/
structure Simulates (k : Keeping σ) (l : Keeping τ) (view : σ → τ) (Good : σ → Prop) : Prop where
  build : ∀ sk level, view (k.build sk level) = l.build sk level ∧ Good (k.build sk level)
  decode : ∀ level raw, (k.decode level raw).map view = l.decode level raw ∧ ∀ t, k.decode level raw = .ok t → Good t
  act : ∀ t action, Good t →
    (k.act t action).1 = (l.act (view t) action).1 ∧
      view (k.act t action).2 = (l.act (view t) action).2 ∧ Good (k.act t action).2

variable {k : Keeping σ} {l : Keeping τ} {view : σ → τ} {Good : σ → Prop}

/-- One event. -/
theorem Simulates.step_eq (h : k.Simulates l view Good) {ts : List σ} (hts : ∀ t ∈ ts, Good t) (e : Event) :
    (k.step ts e).1 = (l.step (ts.map view) e).1 ∧ (k.step ts e).2.map view = (l.step (ts.map view) e).2 ∧
      ∀ t ∈ (k.step ts e).2, Good t := by
  cases e with
  | build sk level =>
    obtain ⟨hview, hgood⟩ := h.build sk level
    exact ⟨rfl, by simp [step, hview], List.forall_mem_append.mpr ⟨hts, List.forall_mem_singleton.mpr hgood⟩⟩
  | read level raw =>
    obtain ⟨hview, hgood⟩ := h.decode level raw
    simp only [step, ← hview]
    cases hdec : k.decode level raw with
    | error error => exact ⟨rfl, rfl, hts⟩
    | ok u =>
      exact ⟨rfl, by simp [Except.map], List.forall_mem_append.mpr ⟨hts, List.forall_mem_singleton.mpr (hgood u hdec)⟩⟩
  | copy place =>
    simp only [step, List.getElem?_map]
    cases hplace : ts[place]? with
    | none => exact ⟨rfl, rfl, hts⟩
    | some u =>
      have hgood := hts u (List.mem_of_getElem? hplace)
      exact ⟨rfl, by simp, List.forall_mem_append.mpr ⟨hts, List.forall_mem_singleton.mpr hgood⟩⟩
  | act place action =>
    simp only [step, List.getElem?_map]
    cases hplace : ts[place]? with
    | none => exact ⟨rfl, rfl, hts⟩
    | some u =>
      obtain ⟨hanswer, hview, hgood⟩ := h.act u action (hts u (List.mem_of_getElem? hplace))
      refine ⟨hanswer, by simp [List.map_set, hview], ?_⟩
      intro t ht
      rcases List.mem_or_eq_of_mem_set ht with ht | rfl
      · exact hts t ht
      · exact hgood

/-- A whole run. -/
theorem Simulates.run_eq (h : k.Simulates l view Good) (events : List Event) {ts : List σ} (hts : ∀ t ∈ ts, Good t) :
    (k.run ts events).1 = (l.run (ts.map view) events).1 ∧ (k.run ts events).2.map view = (l.run (ts.map view) events).2 ∧
      ∀ t ∈ (k.run ts events).2, Good t := by
  induction events generalizing ts with
  | nil => exact ⟨rfl, rfl, hts⟩
  | cons e events ih =>
    obtain ⟨hanswer, hview, hgood⟩ := h.step_eq hts e
    obtain ⟨ihanswers, ihview, ihgood⟩ := ih hgood
    rw [hview] at ihanswers ihview
    exact ⟨by simp only [run, hanswer, ihanswers], ihview, ihgood⟩

end Keeping

/-! ## The invariant -/

namespace Transaction

/-- Two transactions are the same when their fields and their signatures are. -/
theorem same_iff {t u : Transaction} : t.same u = true ↔ t.payload = u.payload ∧ t.signature = u.signature := by
  rw [same, Bool.and_eq_true, beq_iff_eq, beq_iff_eq]

section

variable {t u : Transaction} (hp : t.payload = u.payload) (hs : t.signature = u.signature)

include hp in
/-- The unsigned encoding is made of the fields alone. -/
theorem encodeUnsigned_congr : t.encodeUnsigned = u.encodeUnsigned := by
  rw [encodeUnsigned, encodeUnsigned, hp]

include hp in
/-- The digest to sign is made of the fields alone. -/
theorem signingHash_congr : t.signingHash = u.signingHash := by
  rw [signingHash, signingHash, encodeUnsigned_congr hp]

include hp hs

/-- The signed encoding is made of the fields and the signature. -/
theorem encodeSigned_congr : t.encodeSigned = u.encodeSigned := by
  unfold encodeSigned isSignable
  rw [hp, hs]

/-- The hash is made of the fields and the signature. -/
theorem computeHash_congr : t.computeHash = u.computeHash := by
  rw [computeHash, computeHash, encodeSigned_congr hp hs]

/-- The sender is computed from the fields and the signature. -/
theorem computeSender_congr : t.computeSender = u.computeSender := by
  unfold computeSender
  rw [signingHash_congr hp, hs]

end

theorem bare_hash (t : Transaction) : t.bare.hash = t.computeHash := computeHash_congr rfl rfl

theorem bare_sender (t : Transaction) : t.bare.sender = t.computeSender := computeSender_congr rfl rfl

/-- What is remembered is what would be computed. -/
structure Fresh (t : Transaction) : Prop where
  hash : ∀ hash, t.hashMemo = some hash → t.computeHash = .ok hash
  sender : ∀ sender, t.senderMemo = some sender → t.computeSender = .ok sender

/-- Nothing is remembered. -/
theorem Fresh.of_none {t : Transaction} (hh : t.hashMemo = none) (hs : t.senderMemo = none) : t.Fresh where
  hash hash h := by rw [hh] at h; nomatch h
  sender sender h := by rw [hs] at h; nomatch h

/-- The hash that is told is the one that would be computed. -/
theorem Fresh.readHash_fst {t : Transaction} (h : t.Fresh) : t.readHash.1 = t.computeHash := by
  unfold Transaction.readHash
  cases hmemo : t.hashMemo with
  | some hash => exact (h.hash hash hmemo).symm
  | none => cases t.computeHash <;> rfl

/-- The hash that is remembered for it is computed from the transaction. -/
theorem Fresh.readHash {t : Transaction} (h : t.Fresh) : t.readHash.2.Fresh := by
  unfold Transaction.readHash
  split
  · exact h
  · split
    · rename_i hash hcompute
      refine ⟨fun hash' he => ?_, fun sender hs => (computeSender_congr rfl rfl).trans (h.sender sender hs)⟩
      cases he
      exact (computeHash_congr rfl rfl).trans hcompute
    · exact h

/-- The sender that is told is the one that would be computed. -/
theorem Fresh.readSender_fst {t : Transaction} (h : t.Fresh) : t.readSender.1 = t.computeSender := by
  unfold Transaction.readSender
  cases hmemo : t.senderMemo with
  | some sender => exact (h.sender sender hmemo).symm
  | none => cases t.computeSender <;> rfl

/-- The sender that is remembered for it is computed from the transaction. -/
theorem Fresh.readSender {t : Transaction} (h : t.Fresh) : t.readSender.2.Fresh := by
  unfold Transaction.readSender
  split
  · exact h
  · split
    · rename_i sender hcompute
      refine ⟨fun hash hh => (computeHash_congr rfl rfl).trans (h.hash hash hh), fun sender' he => ?_⟩
      cases he
      exact (computeSender_congr rfl rfl).trans hcompute
    · exact h

/-- A call object may ask for the sender, and leaves nothing out of date. -/
theorem Fresh.readCallObject {t : Transaction} (h : t.Fresh) : t.readCallObject.2.Fresh := by
  rw [readCallObject_snd]
  split
  · exact h
  · exact h.readSender

/-- Signing drops what is remembered, or changes nothing. -/
theorem Fresh.signWith_eq {t : Transaction} (h : t.Fresh) (give : Hash → Option Signature) :
    (t.signWith give).map bare = t.bare.signWith give ∧ ∀ u, t.signWith give = some u → u.Fresh := by
  unfold signWith BareTransaction.signWith
  rw [signingHash_congr (t := t.bare.restart) (u := t) rfl]
  cases t.signingHash with
  | error error => exact ⟨rfl, fun u hu => Option.some.inj hu ▸ h⟩
  | ok digest =>
    dsimp only
    cases give digest with
    | none => exact ⟨rfl, fun u hu => nomatch hu⟩
    | some sig =>
      dsimp only [Option.map]
      cases sig.isValid with
      | true => exact ⟨rfl, fun u hu => Option.some.inj hu ▸ Fresh.of_none rfl rfl⟩
      | false => exact ⟨rfl, fun u hu => Option.some.inj hu ▸ h⟩

/-- Every action answers as it would without anything remembered, and keeps the invariant. -/
theorem Fresh.act_eq {t : Transaction} (h : t.Fresh) (action : Action) :
    (t.act action).1 = (t.bare.act action).1 ∧ (t.act action).2.bare = (t.bare.act action).2 ∧
      (t.act action).2.Fresh := by
  cases action with
  | setNonce nonce => exact ⟨rfl, rfl, Fresh.of_none rfl rfl⟩
  | setFeeLevel level => exact ⟨rfl, rfl, Fresh.of_none rfl rfl⟩
  | setGas estimate => exact ⟨rfl, rfl, Fresh.of_none rfl rfl⟩
  | setFees history =>
    have hlevel : t.bare.feeLevel = t.feeLevel := rfl
    simp only [act, BareTransaction.act, setFees, hlevel]
    cases pricesOf t.feeLevel history with
    | error error => exact ⟨rfl, rfl, h⟩
    | ok prices =>
      obtain ⟨baseFee, priorityFee⟩ := prices
      exact ⟨rfl, rfl, Fresh.of_none rfl rfl⟩
  | sign key =>
    obtain ⟨hbare, hfresh⟩ := h.signWith_eq key.sign
    rw [act, BareTransaction.act, sign_eq_signWith, ← hbare]
    cases hsign : t.signWith key.sign with
    | none => exact ⟨rfl, rfl, h⟩
    | some u => exact ⟨rfl, rfl, hfresh u hsign⟩
  | readHash =>
    refine ⟨?_, bare_readHash t, h.readHash⟩
    rw [act, BareTransaction.act, h.readHash_fst, bare_hash]
  | readSender =>
    refine ⟨?_, bare_readSender t, h.readSender⟩
    rw [act, BareTransaction.act, h.readSender_fst, bare_sender]
  | readSafeSender =>
    simp only [act, BareTransaction.act, readSafeSender_fst, readSafeSender_snd, h.readSender_fst, bare_sender]
    exact ⟨trivial, bare_readSender t, h.readSender⟩
  | readCallObject =>
    refine ⟨?_, bare_readCallObject t, h.readCallObject⟩
    rw [act, BareTransaction.act, readCallObject_fst, h.readSender_fst, bare_sender]
    rfl
  | describe =>
    have hbare : t.readHash.2.bare = t.bare := bare_readHash t
    have hpayload := congrArg BareTransaction.payload hbare
    have hsignature := congrArg BareTransaction.signature hbare
    have hsender := h.readHash.readSender_fst.trans (computeSender_congr hpayload hsignature)
    refine ⟨?_, ?_, ?_⟩
    · rw [act, BareTransaction.act, describe_fst, h.readHash_fst, hsender, bare_hash, bare_sender]
      rfl
    · rw [act, describe_snd]
      exact (bare_readSender _).trans hbare
    · rw [act, describe_snd]
      exact h.readHash.readSender
  | encodeUnsigned => exact ⟨congrArg Action.Answer.encoding (encodeUnsigned_congr rfl), rfl, h⟩
  | encodeSigned => exact ⟨congrArg Action.Answer.encoding (encodeSigned_congr rfl rfl), rfl, h⟩

/-- An outcome with the bare one that stands for it: what was read is fresh. -/
structure Tracks (outcome : Except TransactionError Transaction)
    (reference : Except TransactionError BareTransaction) : Prop where
  bare_eq : outcome.map bare = reference
  fresh : ∀ t, outcome = .ok t → t.Fresh

theorem Tracks.ok {t : Transaction} (h : t.Fresh) : Tracks (.ok t) (.ok t.bare) := ⟨rfl, fun _ hu => Except.ok.inj hu ▸ h⟩

theorem Tracks.error (error : TransactionError) : Tracks (.error error) (.error error) :=
  ⟨rfl, fun _ hu => nomatch hu⟩

/-- A choice that is made alike goes on alike. -/
theorem Tracks.ite {c : Prop} [Decidable c] {o o' : Except TransactionError Transaction}
    {r r' : Except TransactionError BareTransaction} (h : Tracks o r) (h' : Tracks o' r') :
    Tracks (if c then o else o') (if c then r else r') := by
  by_cases hc : c
  · rwa [if_pos hc, if_pos hc]
  · rwa [if_neg hc, if_neg hc]

/-- Checking the signer remembers the sender that was computed for it. -/
theorem Fresh.verifySigner {t : Transaction} (h : t.Fresh) :
    Tracks (match t.readSender with
      | (.ok _, t) => .ok t
      | (.error error, _) => .error error) (t.bare.sender.map fun _ => t.bare) := by
  have hfresh := h.readSender
  have hbare := bare_readSender t
  rw [bare_sender, ← h.readSender_fst]
  generalize t.readSender = read at hfresh hbare ⊢
  obtain ⟨sender, u⟩ := read
  cases sender with
  | error error => exact Tracks.error error
  | ok sender =>
    rw [← hbare]
    exact Tracks.ok hfresh

/-- A verification goes as that of the bare transaction, level by level. -/
theorem Fresh.verify {t : Transaction} (h : t.Fresh) (level : CheckLevel) :
    Tracks (t.verify level) (t.bare.verify level) := by
  have hsignature : t.bare.signature = t.signature := rfl
  have hsigner := h.verifySigner
  unfold Transaction.verify BareTransaction.verify
  rw [hsignature]
  cases t.signature with
  | none => cases level <;> exact Tracks.ok h
  | some sig =>
    have hchecked := Tracks.ite (c := sig.isZero) (Tracks.ok h) (Tracks.ite (c := !sig.isValid || !sig.isLowS)
      (Tracks.error .badSignature) (Tracks.ite (c := level = .signer) hsigner (Tracks.ok h)))
    cases level with
    | structureOnly => exact Tracks.ok h
    | signatureRange => exact hchecked
    | signer => exact hchecked

/-- What is read has nothing remembered, and is verified from there. -/
theorem decode_tracks (level : CheckLevel) (raw : Bytes) :
    Tracks (decode level raw) (BareTransaction.decode level raw) := by
  unfold decode BareTransaction.decode
  cases Payload.decode raw with
  | error error => exact Tracks.error error
  | ok read =>
    have hfresh : (ofPayload read.1 read.2).Fresh := Fresh.of_none rfl rfl
    exact hfresh.verify level

/-- Transactions that remember answer as those that compute everything anew. -/
theorem remembering_simulates : remembering.Simulates recomputing bare Fresh where
  build _ _ := ⟨rfl, Fresh.of_none rfl rfl⟩
  decode level raw := ⟨(decode_tracks level raw).bare_eq, (decode_tracks level raw).fresh⟩
  act _ action h := h.act_eq action

end Transaction

/-! ## Runs -/

/-- Over any run of builds, readings, copies and actions, the answers are those of transactions that compute
everything anew, the transactions at hand are theirs, and nothing that is remembered is out of date. Two transactions
at hand that are the same, after the same run or after different ones, have the same encodings, the same digest to
sign, the same hash and the same sender. -/
theorem answers_eq_of_run (events : List Event) :
    (remembering.run [] events).1 = (recomputing.run [] events).1 ∧
      (remembering.run [] events).2.map Transaction.bare = (recomputing.run [] events).2 ∧
      (∀ t ∈ (remembering.run [] events).2, t.Fresh) ∧
      ∀ others, ∀ t ∈ (remembering.run [] events).2, ∀ u ∈ (remembering.run [] others).2, t.same u = true →
        t.encodeUnsigned = u.encodeUnsigned ∧ t.encodeSigned = u.encodeSigned ∧ t.signingHash = u.signingHash ∧
          t.readHash.1 = u.readHash.1 ∧ t.readSender.1 = u.readSender.1 := by
  have hrun (es : List Event) := Transaction.remembering_simulates.run_eq es (List.forall_mem_nil _)
  obtain ⟨hanswers, hbare, hfresh⟩ := hrun events
  refine ⟨hanswers, hbare, hfresh, ?_⟩
  intro others t ht u hu hsame
  obtain ⟨hp, hs⟩ := Transaction.same_iff.mp hsame
  have hfresht := hfresh t ht
  have hfreshu := (hrun others).2.2 u hu
  refine ⟨Transaction.encodeUnsigned_congr hp, Transaction.encodeSigned_congr hp hs,
    Transaction.signingHash_congr hp, ?_, ?_⟩
  · rw [hfresht.readHash_fst, hfreshu.readHash_fst, Transaction.computeHash_congr hp hs]
  · rw [hfresht.readSender_fst, hfreshu.readSender_fst, Transaction.computeSender_congr hp hs]

/-- A transfer of one unit, with a signature of two zeros. -/
def zeroSignedTransfer : Transaction :=
  .ofPayload ⟨1, .zero, some .zero, some .zero, some .zero, some .zero, .ofUInt64 1, [], []⟩ (some ⟨.zero, .zero, false⟩)

/-- The encoding of `zeroSignedTransfer`. -/
def zeroSignedBytes : Bytes :=
  [2, 224, 1, 128, 128, 128, 128, 148] ++ List.replicate 20 0 ++ [1, 128, 192, 128, 128, 128]

/-- Read and left alone, or read and asked for its sender: the sender is remembered once only, and the answers are the
same. -/
theorem answers_eq_of_run_zeroSigned :
    ∃ t ∈ (remembering.run [] [.read .structureOnly zeroSignedBytes]).2,
      ∃ u ∈ (remembering.run [] [.read .structureOnly zeroSignedBytes, .act 0 .readSender]).2,
        t.same u = true ∧ t.senderMemo ≠ u.senderMemo ∧ t.readHash.1 = u.readHash.1 ∧
          t.readSender.1 = u.readSender.1 := by
  have hleft : zeroSignedTransfer ∈ (remembering.run [] [.read .structureOnly zeroSignedBytes]).2 := by decide +kernel
  have hasked : { zeroSignedTransfer with senderMemo := some .allOnes } ∈
      (remembering.run [] [.read .structureOnly zeroSignedBytes, .act 0 .readSender]).2 := by decide +kernel
  have hsame : zeroSignedTransfer.same { zeroSignedTransfer with senderMemo := some .allOnes } = true := by decide +kernel
  obtain ⟨-, -, -, hagree⟩ := answers_eq_of_run [.read .structureOnly zeroSignedBytes]
  obtain ⟨-, -, -, hhash, hsender⟩ := hagree _ _ hleft _ hasked hsame
  exact ⟨_, hleft, _, hasked, hsame, by decide, hhash, hsender⟩

end DynamicFeeWallet
