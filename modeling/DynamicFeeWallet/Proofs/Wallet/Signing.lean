import DynamicFeeWallet.Proofs.Curve.Signature
import DynamicFeeWallet.Proofs.Text.Hex
import DynamicFeeWallet.Proofs.Transaction.Encoding
import DynamicFeeWallet.Proofs.Transaction.Memo
import DynamicFeeWallet.Proofs.Wallet.Steps

/-!
# What is signed is what was built

The text that the wallet gives for a transaction is read back as that transaction, whatever was done between building
and signing: the text is that of an encoding (`Hex.decode_encode`), the encoding that of the payload and the signature
(`decode_signer`), and the payload that of the skeleton (`Says.after`). Of the signer it is asked only that its
signature leads back to the address of the key.
-/

namespace DynamicFeeWallet

namespace Transaction

variable {t : Transaction} {sig : Signature} {digest : Hash} {address : Address} {raw : Bytes}

/-- A signed encoding is one of the payload with the signature. -/
theorem encodeSigned_eq_ok (h : t.encodeSigned = .ok raw) :
    ∃ sig, t.signature = some sig ∧ t.payload.isPriced = true ∧ t.payload.encode (some sig) = .ok raw := by
  unfold encodeSigned at h
  split at h
  · rename_i hpriced
    cases hsig : t.signature with
    | none => rw [hsig] at h; nomatch h
    | some sig =>
      rw [hsig] at h
      exact ⟨sig, rfl, hpriced, h⟩
  · nomatch h

/-- What can be signed has a digest to sign. -/
theorem exists_signingHash (h : t.payload.isPriced = true) : ∃ digest, t.signingHash = .ok digest := by
  obtain ⟨raw, hraw⟩ := Payload.isPriced_iff.mp h
  exact ⟨keccak256 raw, by rw [signingHash, encodeUnsigned, hraw]; rfl⟩

/-- A transaction that was signed and has an encoding carries the signature that was given for it, and nothing is
remembered of it. -/
theorem sign_of_encodeSigned {key : PrivateKey} {u : Transaction} (hsign : t.sign key = some u)
    (hraw : u.encodeSigned = .ok raw) :
    ∃ digest sig, t.signingHash = .ok digest ∧ key.sign digest = some sig ∧ u = t.signed sig := by
  rw [sign_eq_signWith] at hsign
  rcases signWith_eq_some hsign with ⟨error, herror, rfl⟩ | ⟨digest, sig, hdigest, hgiven, hu⟩
  · obtain ⟨-, -, hpriced, -⟩ := encodeSigned_eq_ok hraw
    obtain ⟨digest, hdigest⟩ := exists_signingHash hpriced
    rw [hdigest] at herror
    nomatch herror
  · rw [if_pos (PrivateKey.isValid_of_sign hgiven)] at hu
    exact ⟨digest, sig, hdigest, hgiven, hu⟩

/-- The sender is the signer of the digest. -/
theorem computeSender_eq_ok (hsig : t.signature = some sig) (hvalid : sig.isValid = true)
    (hdigest : t.signingHash = .ok digest) (hsigner : sig.signer? digest = some address) :
    t.computeSender = .ok address := by
  unfold computeSender
  rw [hsig, hdigest]
  simp only [Signature.isZero_eq_false hvalid, Bool.false_eq_true, if_false, bind, Except.bind]
  rw [hsigner]
  rfl

/-- A signature in range with a low `s` whose signer is found passes the strictest check, and the signer is remembered. -/
theorem verify_signer (hsig : t.signature = some sig) (hvalid : sig.isValid = true) (hlow : sig.isLowS = true)
    (hmemo : t.senderMemo = none) (hsender : t.computeSender = .ok address) :
    t.verify .signer = .ok { t with senderMemo := some address } := by
  have hread : t.readSender = (.ok address, { t with senderMemo := some address }) := by
    unfold readSender
    rw [hmemo, hsender]
  unfold verify
  simp only [hsig, Signature.isZero_eq_false hvalid, hvalid, hlow, hread, Bool.not_true, Bool.or_false,
    Bool.false_eq_true, if_false, if_true]

/-- The strictest reading of a signed encoding gives back payload and signature. -/
theorem decode_signer (hraw : t.encodeSigned = .ok raw) (hlen : raw.length < 2 ^ 64) (hsig : t.signature = some sig)
    (hvalid : sig.isValid = true) (hlow : sig.isLowS = true) (hdigest : t.signingHash = .ok digest)
    (hsigner : sig.signer? digest = some address) :
    ∃ u, decode .signer raw = .ok u ∧ u.payload = t.payload ∧ u.signature = t.signature := by
  obtain ⟨sig', hsig', -, henc⟩ := encodeSigned_eq_ok hraw
  cases hsig'.symm.trans hsig
  have hread := Payload.decode_of_encode henc hlen
  have hdigest' : (ofPayload t.payload (some sig)).signingHash = .ok digest := (signingHash_congr rfl).trans hdigest
  have hsender := computeSender_eq_ok rfl hvalid hdigest' hsigner
  refine ⟨{ ofPayload t.payload (some sig) with senderMemo := some address }, ?_, rfl, hsig.symm⟩
  rw [decode, hread]
  exact verify_signer rfl hvalid hlow rfl hsender

end Transaction

/-! ## Main statement -/

/-- The text that is given for a transaction, after any steps, is read back under the strictest check as the same
transaction: it says what was built, with the nonce that was set last, its sender is the owner of the key, its hash is
that of the bytes of the text, as is the hash of the transaction that was signed, and it is written as these bytes
again. The text is no longer than lengths can be told. -/
theorem decodeHex_signTransaction (w : Wallet) (sk : Skeleton) (level : FeeLevel)
    (steps : List Step) {keyText text : String} {key : PrivateKey} {t : Transaction}
    (hkey : PrivateKey.parse keyText = .ok key)
    (hsign : w.signTransaction ((Transaction.ofSkeleton sk level).after steps) keyText = (.ok text, t))
    (hlen : text.length < 2 ^ 64)
    (hsigner : ∀ digest sig,
      ((Transaction.ofSkeleton sk level).after steps).signingHash = .ok digest →
      key.sign digest = some sig → sig.signer? digest = some key.address) :
    ∃ raw u, Hex.decode text = .ok raw ∧ Hex.encode raw = text ∧
      Transaction.decodeHex .signer text = .ok u ∧ u.same t = true ∧
      u.Says sk (lastNonce sk.nonce steps) ∧ u.readSender.1 = .ok key.address ∧ u.readHash.1 = .ok (keccak256 raw) ∧
      t.readHash.1 = .ok (keccak256 raw) ∧ u.encodeSigned = .ok raw := by
  have hsays := (Transaction.says_ofSkeleton sk level).after steps
  generalize (Transaction.ofSkeleton sk level).after steps = before at hsign hsigner hsays
  obtain ⟨key', hkey', hsigned, raw, hraw, rfl⟩ := Wallet.signTransaction_eq_ok.mp hsign
  cases hkey'.symm.trans hkey
  obtain ⟨digest, sig, hdigest, hgiven, rfl⟩ := Transaction.sign_of_encodeSigned hsigned hraw
  have hvalid := PrivateKey.isValid_of_sign hgiven
  have hlow := PrivateKey.isLowS_of_sign hgiven
  have haddress := hsigner digest sig hdigest hgiven
  have hbytes : raw.length < 2 ^ 64 := by
    rw [Hex.length_encode] at hlen
    omega
  -- the digest is that of the payload, which signing keeps
  have hdigest' : (before.signed sig).signingHash = .ok digest := (Transaction.signingHash_congr rfl).trans hdigest
  obtain ⟨u, hread, hp, hs⟩ := Transaction.decode_signer hraw hbytes rfl hvalid hlow hdigest' haddress
  have hfresh := (Transaction.decode_tracks .signer raw).fresh u hread
  have hdecode := Hex.decode_encode raw
  have hhash : (before.signed sig).computeHash = .ok (keccak256 raw) := by
    rw [Transaction.computeHash, hraw]
    rfl
  refine ⟨raw, u, hdecode, rfl, ?_, Transaction.same_iff.mpr ⟨hp, hs⟩, ?_, ?_, ?_, ?_, ?_⟩
  · rw [Transaction.decodeHex, hdecode]
    exact hread
  · exact hsays.of_payload hp
  · rw [hfresh.readSender_fst, Transaction.computeSender_congr hp hs]
    exact Transaction.computeSender_eq_ok rfl hvalid hdigest' haddress
  · rw [hfresh.readHash_fst, Transaction.computeHash_congr hp hs, hhash]
  · rw [(Transaction.Fresh.of_none rfl rfl).readHash_fst, hhash]
  · rw [Transaction.encodeSigned_congr hp hs, hraw]

/-- A transfer of one unit that nobody has priced. -/
def unpricedTransfer : Skeleton where
  sender := .replicate 20 0x22
  destination := some (.replicate 20 0x11)
  value := .ofUInt64 1
  nonce := .zero
  chainId := 1

/-- A new nonce, fees, gas, and a look at the hash. -/
def pricingSteps : List Step :=
  [.act (.setNonce (.ofUInt64 7)),
    .act (.setFees (.members [("result", .members [("baseFeePerGas", .array [.text "0x7"]),
      ("reward", .array [.array [.text "0x1", .text "0x2", .text "0x3"]])])])),
    .act (.setGas (.ofUInt64 21000)), .act .readHash]

/-- The key whose public point is the generator. -/
def smallestKey : PrivateKey := ⟨1, by decide, by decide⟩

/-- The text of `smallestKey`. -/
def smallestKeyText : String := "0x0000000000000000000000000000000000000000000000000000000000000001"

/-- What `smallestKey` gives for the digest of the priced transfer. -/
def transferSignature : Signature where
  r := .saturate 0x4d7a6008811151f50b985beb60e88b52beb6eab1482d7adb7f8deaa9190419a1
  s := .saturate 0x6093fa34de4b1e1cebffb4b1ab2b4aa8bbd8e6e2abd930d3fd8bb17a96704c0e
  yParity := false

/-- The text of the signed transfer. -/
def transferText : String :=
  "0x02f862010702108262709411111111111111111111111111111111111111110180c080" ++
    "a04d7a6008811151f50b985beb60e88b52beb6eab1482d7adb7f8deaa9190419a1" ++
    "a06093fa34de4b1e1cebffb4b1ab2b4aa8bbd8e6e2abd930d3fd8bb17a96704c0e"

/-- The digest of the priced transfer. -/
def transferDigest : Hash := .ofNat 32 0x6cb94596bb08e1a2b8884cd451276064a2fb74d52132d2e58d75880bd4a1600e

/-- The transfer after the steps, ready to be signed. -/
def pricedTransfer : Transaction := (Transaction.ofSkeleton unpricedTransfer .medium).after pricingSteps

theorem decodeHex_transferText :
    ∃ t u, (Wallet.mk ⟨{}⟩).signTransaction pricedTransfer smallestKeyText = (.ok transferText, t) ∧
      Transaction.decodeHex .signer transferText = .ok u ∧ u.same t = true ∧ u.Says unpricedTransfer (.ofUInt64 7) ∧
      u.readSender.1 = .ok smallestKey.address := by
  have hkey : PrivateKey.parse smallestKeyText = .ok smallestKey := by decide +kernel
  have hdigest : pricedTransfer.signingHash = .ok transferDigest := by decide +kernel
  have hgiven : smallestKey.sign transferDigest = some transferSignature := by decide +kernel
  have hvalid : transferSignature.isValid = true := by decide +kernel
  have htext : (pricedTransfer.signed transferSignature).encodeSigned.map Hex.encode = .ok transferText := by
    decide +kernel
  have hlen : transferText.length < 2 ^ 64 := by decide +kernel
  -- recovery and the key lead to the same point, so its address need not be worked out
  have hself : Secp256k1.generator.multiple? smallestKey.secret = some Secp256k1.generator := by decide +kernel
  have hpoint : transferSignature.lowered.publicPoint? transferDigest = some Secp256k1.generator := by decide +kernel
  have haddress : transferSignature.signer? transferDigest = some smallestKey.address := by
    rw [Signature.signer?, if_pos hvalid, hpoint, PrivateKey.address, hself]
    rfl
  have hsigner : ∀ digest sig, pricedTransfer.signingHash = .ok digest → smallestKey.sign digest = some sig →
      sig.signer? digest = some smallestKey.address := by
    intro digest sig hd hs
    cases hd.symm.trans hdigest
    cases hs.symm.trans hgiven
    exact haddress
  obtain ⟨raw, hraw, hhex⟩ := map_eq_ok.mp htext
  have hsign : pricedTransfer.sign smallestKey = some (pricedTransfer.signed transferSignature) :=
    (Transaction.sign_eq_signWith _ _).trans (Transaction.signWith_of_isValid hdigest hgiven hvalid)
  have hsigned : (Wallet.mk ⟨{}⟩).signTransaction pricedTransfer smallestKeyText =
      (.ok transferText, pricedTransfer.signed transferSignature) :=
    Wallet.signTransaction_eq_ok.mpr ⟨smallestKey, hkey, hsign, raw, hraw, hhex⟩
  obtain ⟨-, u, -, -, hdecode, hsame, hsays, hsender, -⟩ :=
    decodeHex_signTransaction ⟨⟨{}⟩⟩ unpricedTransfer .medium pricingSteps hkey hsigned hlen hsigner
  exact ⟨_, u, hsigned, hdecode, hsame, hsays, hsender⟩

end DynamicFeeWallet
