import DynamicFeeWallet.Curve.Signature

/-!
# What a key gives

A signature that a key gives is in range and has a low `s` (`isValid_of_sign`, `isLowS_of_sign`): of the two forms of
a signature the lower one is given. The other form is its twin, which names the same signer
(`Signature.signer?_twin`).
-/

namespace DynamicFeeWallet

open Secp256k1

theorem order_lt_size : order < UInt256.size := by decide

/-- A number below the order is within the range of amounts. -/
theorem UInt256.toNat_saturate_of_lt_order {n : Nat} (h : n < order) : (UInt256.saturate n).toNat = n := by
  have horder := order_lt_size
  rw [UInt256.toNat_saturate]
  exact Nat.min_eq_left (by omega)

namespace Signature

/-- A signature is in range when both its numbers are positive and below the order. -/
theorem isValid_iff {sig : Signature} :
    sig.isValid = true ↔ 0 < sig.r.toNat ∧ 0 < sig.s.toNat ∧ sig.r.toNat < order ∧ sig.s.toNat < order := by
  simp only [isValid, Bool.and_eq_true, decide_eq_true_iff, and_assoc]

/-- A low `s` is at most half the order. -/
theorem isLowS_iff {sig : Signature} : sig.isLowS = true ↔ sig.s.toNat ≤ halfOrder := by
  rw [isLowS, decide_eq_true_iff]

/-- A signature in range is not that of two zeros. -/
theorem isZero_eq_false {sig : Signature} (h : sig.isValid = true) : sig.isZero = false := by
  obtain ⟨hr, -⟩ := isValid_iff.mp h
  rw [isZero, Bool.and_eq_false_iff, beq_eq_false_iff_ne]
  exact Or.inl (Nat.ne_of_gt hr)

/-- The lower form of a signature in range is in range, and is low. -/
theorem isValid_lowered {sig : Signature} (h : sig.isValid = true) :
    sig.lowered.isValid = true ∧ sig.lowered.isLowS = true := by
  unfold lowered
  split
  · rename_i hlow
    exact ⟨h, hlow⟩
  · rename_i hlow
    obtain ⟨hr, hs, hr', hs'⟩ := isValid_iff.mp h
    rw [isLowS_iff] at hlow
    have horder := order_eq
    have hs'' : (UInt256.saturate (order - sig.s.toNat)).toNat = order - sig.s.toNat :=
      UInt256.toNat_saturate_of_lt_order (by omega)
    refine ⟨isValid_iff.mpr ⟨hr, ?_, hr', ?_⟩, isLowS_iff.mpr ?_⟩
    · rw [hs'']; omega
    · rw [hs'']; omega
    · rw [hs'']; omega

/-! ## Twins -/

/-- The other signature with the same `r`: its `s` is taken from the order, and its parity is flipped. -/
def twin (sig : Signature) : Signature :=
  { sig with s := UInt256.saturate (order - sig.s.toNat), yParity := !sig.yParity }

variable {sig : Signature}

/-- The `s` of the twin and that of the signature make up the order. -/
theorem toNat_s_twin (h : sig.isValid = true) : sig.twin.s.toNat = order - sig.s.toNat := by
  obtain ⟨-, hs, -, hs'⟩ := isValid_iff.mp h
  exact UInt256.toNat_saturate_of_lt_order (by omega)

/-- The twin of a signature in range is in range. -/
theorem isValid_twin (h : sig.isValid = true) : sig.twin.isValid = true := by
  obtain ⟨hr, hs, hr', hs'⟩ := isValid_iff.mp h
  have htwin := toNat_s_twin h
  exact isValid_iff.mpr ⟨hr, by omega, hr', by omega⟩

/-- The twin of the twin is the signature itself. -/
theorem twin_twin (h : sig.isValid = true) : sig.twin.twin = sig := by
  obtain ⟨-, -, -, hs'⟩ := isValid_iff.mp h
  have hback : sig.twin.twin.s = sig.s := by
    apply UInt256.ext
    rw [toNat_s_twin (isValid_twin h), toNat_s_twin h]
    omega
  have hparity : sig.twin.twin.yParity = sig.yParity := Bool.not_not _
  calc sig.twin.twin = ⟨sig.r, sig.twin.twin.s, sig.twin.twin.yParity⟩ := rfl
    _ = sig := by rw [hback, hparity]

/-- Of the two the one has a low `s` and the other has not, since the order is odd. -/
theorem isLowS_twin (h : sig.isValid = true) : sig.twin.isLowS = !sig.isLowS := by
  obtain ⟨-, -, -, hs'⟩ := isValid_iff.mp h
  have horder := order_eq
  have htwin := toNat_s_twin h
  cases hlow : sig.isLowS with
  | true =>
    have hle := isLowS_iff.mp hlow
    rw [Bool.not_true, ← Bool.not_eq_true, isLowS_iff]
    omega
  | false =>
    rw [← Bool.not_eq_true, isLowS_iff] at hlow
    rw [Bool.not_false, isLowS_iff]
    omega

/-- Both have the same lower form. -/
theorem lowered_twin (h : sig.isValid = true) : sig.twin.lowered = sig.lowered := by
  have hlowered (sig : Signature) : sig.lowered = if sig.isLowS then sig else sig.twin := rfl
  rw [hlowered, hlowered, isLowS_twin h, twin_twin h]
  cases sig.isLowS <;> rfl

/-- Both name the same signer. -/
theorem signer?_twin (h : sig.isValid = true) (digest : Hash) : sig.twin.signer? digest = sig.signer? digest := by
  rw [signer?, signer?, if_pos (isValid_twin h), if_pos h, lowered_twin h]

end Signature

namespace PrivateKey

/-- What a key gives is the lower form of a signature in range. -/
theorem sign_eq_some {key : PrivateKey} {digest : Hash} {sig : Signature} (h : key.sign digest = some sig) :
    ∃ whole : Signature, whole.isValid = true ∧ sig = whole.lowered := by
  unfold sign at h
  obtain ⟨k, -, h⟩ := Option.bind_eq_some_iff.mp h
  obtain ⟨point, -, h⟩ := Option.bind_eq_some_iff.mp h
  have hpos : 0 < order := by decide
  have hr := Nat.mod_lt point.x hpos
  have hs := Nat.mod_lt (inverseMod order k * ((digest.toNat + point.x % order * key.secret) % order)) hpos
  generalize point.x % order = r at h hr hs
  dsimp only at h
  generalize inverseMod order k * ((digest.toNat + r * key.secret) % order) % order = s at h hs
  split at h
  · nomatch h
  · rename_i hne
    rw [not_or] at hne
    refine ⟨_, Signature.isValid_iff.mpr ?_, (Option.some.inj h).symm⟩
    rw [UInt256.toNat_saturate_of_lt_order hr, UInt256.toNat_saturate_of_lt_order hs]
    exact ⟨Nat.pos_of_ne_zero hne.1, Nat.pos_of_ne_zero hne.2, hr, hs⟩

/-- What a key gives is in range. -/
theorem isValid_of_sign {key : PrivateKey} {digest : Hash} {sig : Signature} (h : key.sign digest = some sig) :
    sig.isValid = true := by
  obtain ⟨whole, hwhole, rfl⟩ := sign_eq_some h
  exact (Signature.isValid_lowered hwhole).1

/-- What a key gives has a low `s`. -/
theorem isLowS_of_sign {key : PrivateKey} {digest : Hash} {sig : Signature} (h : key.sign digest = some sig) :
    sig.isLowS = true := by
  obtain ⟨whole, hwhole, rfl⟩ := sign_eq_some h
  exact (Signature.isValid_lowered hwhole).2

end PrivateKey

end DynamicFeeWallet
