import DynamicFeeWallet.Proofs.Curve.Signature
import DynamicFeeWallet.Proofs.Transaction.Encoding
import DynamicFeeWallet.Proofs.Transaction.Memo

/-!
# A signature and its twin

A signature in range has a twin that names the same signer, so a signed transaction has a second encoding with the
same sender. Both are read as long as no signature is checked; as soon as its range is, one of them is refused, the
one whose `s` is past half the order (`decode_twin`).
-/

namespace DynamicFeeWallet

open Secp256k1

namespace Transaction

variable {p : Payload} {sig : Signature} {raw : Bytes}

/-- Every signed encoding is read when no signature is checked. -/
theorem decode_structureOnly (henc : p.encode (some sig) = .ok raw) (hlen : raw.length < 2 ^ 64) :
    decode .structureOnly raw = .ok (ofPayload p (some sig)) := by
  rw [decode, Payload.decode_of_encode henc hlen]
  rfl

/-- When ranges are checked, the encoding with a signature in range is read only if its `s` is low. -/
theorem decode_signatureRange (henc : p.encode (some sig) = .ok raw) (hlen : raw.length < 2 ^ 64)
    (hvalid : sig.isValid = true) :
    decode .signatureRange raw = if sig.isLowS then .ok (ofPayload p (some sig)) else .error .badSignature := by
  have hverify : (ofPayload p (some sig)).verify .signatureRange =
      if sig.isLowS then .ok (ofPayload p (some sig)) else .error .badSignature := by
    unfold verify ofPayload
    simp only [Signature.isZero_eq_false hvalid, hvalid, Bool.false_eq_true, if_false, Bool.not_true, Bool.false_or]
    cases sig.isLowS <;> rfl
  rw [decode, Payload.decode_of_encode henc hlen]
  exact hverify

/-- The sender is found by the digest, which the signature is no part of, and by the signer that twins share. -/
theorem computeSender_twin (p : Payload) (hvalid : sig.isValid = true) :
    (ofPayload p (some sig.twin)).computeSender = (ofPayload p (some sig)).computeSender := by
  have hdigest : (ofPayload p (some sig.twin)).signingHash = (ofPayload p (some sig)).signingHash := signingHash_congr rfl
  unfold computeSender
  rw [hdigest]
  simp only [ofPayload, Signature.isZero_eq_false hvalid, Signature.isZero_eq_false (Signature.isValid_twin hvalid),
    Signature.signer?_twin hvalid]

theorem readSender_twin (p : Payload) (hvalid : sig.isValid = true) :
    (ofPayload p (some sig.twin)).readSender.1 = (ofPayload p (some sig)).readSender.1 := by
  have hfresh (signature : Option Signature) : (ofPayload p signature).Fresh := Fresh.of_none rfl rfl
  rw [(hfresh _).readSender_fst, (hfresh _).readSender_fst, computeSender_twin p hvalid]

end Transaction

/-! ## Main statement -/

/-- For every priced payload and every signature with `r` and `s` in `[1, order)`, the encodings with the signature
and with its twin, where `s` is taken from the order and the parity flipped, are both read when no signature is
checked, and tell the same sender or fail to in the same way. When ranges are checked, the one with `s` up to half the
order is read, and the other is refused for its signature. The encodings are no longer than lengths can be told. -/
theorem decode_twin (p : Payload) (sig : Signature) (hpriced : p.isPriced = true)
    (hr : 0 < sig.r.toNat ∧ sig.r.toNat < order) (hs : 0 < sig.s.toNat ∧ sig.s.toNat < order) :
    (sig.twin.r = sig.r ∧ sig.twin.s.toNat = order - sig.s.toNat ∧ sig.twin.yParity = !sig.yParity) ∧
      ∃ raw raw', p.encode (some sig) = .ok raw ∧ p.encode (some sig.twin) = .ok raw' ∧
        (raw.length < 2 ^ 64 → raw'.length < 2 ^ 64 →
          ∃ t t', Transaction.decode .structureOnly raw = .ok t ∧ Transaction.decode .structureOnly raw' = .ok t' ∧
            (t.payload = p ∧ t.signature = some sig) ∧ (t'.payload = p ∧ t'.signature = some sig.twin) ∧
            t'.readSender.1 = t.readSender.1 ∧
            (sig.s.toNat ≤ order / 2 →
              Transaction.decode .signatureRange raw = .ok t ∧
                Transaction.decode .signatureRange raw' = .error .badSignature) ∧
            (order / 2 < sig.s.toNat →
              Transaction.decode .signatureRange raw = .error .badSignature ∧
                Transaction.decode .signatureRange raw' = .ok t')) := by
  have hvalid : sig.isValid = true := Signature.isValid_iff.mpr ⟨hr.1, hs.1, hr.2, hs.2⟩
  have hvalid' := Signature.isValid_twin hvalid
  have hlow' := Signature.isLowS_twin hvalid
  have hhalf : order / 2 = halfOrder := by decide
  obtain ⟨raw, henc⟩ : ∃ raw, p.encode (some sig) = .ok raw := Payload.isPriced_iff.mp hpriced
  obtain ⟨raw', henc'⟩ : ∃ raw', p.encode (some sig.twin) = .ok raw' := Payload.isPriced_iff.mp hpriced
  refine ⟨⟨rfl, Signature.toNat_s_twin hvalid, rfl⟩, raw, raw', henc, henc', fun hlen hlen' => ?_⟩
  have hrange := Transaction.decode_signatureRange henc hlen hvalid
  have hrange' := Transaction.decode_signatureRange henc' hlen' hvalid'
  refine ⟨_, _, Transaction.decode_structureOnly henc hlen,
    Transaction.decode_structureOnly henc' hlen', ⟨rfl, rfl⟩, ⟨rfl, rfl⟩, Transaction.readSender_twin p hvalid, ?_, ?_⟩
  · intro hle
    have hlow : sig.isLowS = true := Signature.isLowS_iff.mpr (hhalf ▸ hle)
    rw [hlow] at hrange hlow'
    rw [hlow'] at hrange'
    exact ⟨hrange, hrange'⟩
  · intro hlt
    have hhigh : sig.isLowS = false := by
      rw [← Bool.not_eq_true, Signature.isLowS_iff]
      omega
    rw [hhigh] at hrange hlow'
    rw [hlow'] at hrange'
    exact ⟨hrange, hrange'⟩

/-- The signature with the largest low `s`. -/
def lastLowSignature : Signature := ⟨.ofUInt64 1, .saturate halfOrder, false⟩

/-- The last low `s` and the first high one stand on either side of the check. -/
theorem decode_twin_lastLow :
    lastLowSignature.twin.s.toNat = halfOrder + 1 ∧
      ∃ raw raw' t t', Payload.longListed.encode (some lastLowSignature) = .ok raw ∧
        Payload.longListed.encode (some lastLowSignature.twin) = .ok raw' ∧
        Transaction.decode .structureOnly raw = .ok t ∧ Transaction.decode .structureOnly raw' = .ok t' ∧
        t'.readSender.1 = t.readSender.1 ∧ Transaction.decode .signatureRange raw = .ok t ∧
        Transaction.decode .signatureRange raw' = .error .badSignature := by
  have hpriced : Payload.longListed.isPriced = true := rfl
  have hr : 0 < lastLowSignature.r.toNat ∧ lastLowSignature.r.toNat < order := by decide +kernel
  have hs : 0 < lastLowSignature.s.toNat ∧ lastLowSignature.s.toNat < order := by decide +kernel
  have hle : lastLowSignature.s.toNat ≤ order / 2 := by decide +kernel
  obtain ⟨⟨-, htwin, -⟩, raw, raw', henc, henc', hread⟩ := decode_twin Payload.longListed lastLowSignature hpriced hr hs
  have hlen : (Payload.longListed.encode (some lastLowSignature)).map List.length = .ok 138 := by decide +kernel
  have hlen' : (Payload.longListed.encode (some lastLowSignature.twin)).map List.length = .ok 138 := by decide +kernel
  rw [henc] at hlen
  rw [henc'] at hlen'
  have hlt : raw.length < 2 ^ 64 := by
    rw [Except.ok.inj hlen]
    decide
  have hlt' : raw'.length < 2 ^ 64 := by
    rw [Except.ok.inj hlen']
    decide
  obtain ⟨t, t', hstructure, hstructure', -, -, hsender, hlow, -⟩ := hread hlt hlt'
  obtain ⟨hrange, hrange'⟩ := hlow hle
  exact ⟨htwin, raw, raw', t, t', henc, henc', hstructure, hstructure', hsender, hrange, hrange'⟩

end DynamicFeeWallet
