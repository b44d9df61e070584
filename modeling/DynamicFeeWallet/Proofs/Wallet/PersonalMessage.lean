import DynamicFeeWallet.Proofs.BigEndian
import DynamicFeeWallet.Proofs.Wallet.Signing

/-!
# Personal messages

A signature is written in 65 bytes and read from them as it is (`Signature.ofBytes_toBytes`), whatever zeros its
numbers begin with and whatever its parity is. So the signer of a message is found from the text of the signature,
with its mark or without (`recoverSigner_signMessage`), as long as it is found from the signature.
-/

namespace DynamicFeeWallet

/-! ## The text of a signature -/

/-- The digits of bytes are read as the bytes without a mark, too. -/
theorem Hex.decode_digits (bytes : Bytes) : decode (String.ofList (digits bytes)) = .ok bytes := by
  rw [decode_eq_ok, String.toList_ofList, unmarked_of_isDigit (isDigit_of_mem_digits bytes)]
  rfl

theorem UInt256.saturate_toNat (a : UInt256) : saturate a.toNat = a := by
  apply UInt256.ext
  have hlt := a.toNat_lt
  rw [toNat_saturate]
  omega

/-- The 32 bytes of an amount write the amount. -/
theorem UInt256.toNat_toHash (a : UInt256) : Bytes.toNat a.toHash.toBytes = a.toNat := by
  have hsize : (256 : Nat) ^ 32 = size := by decide
  rw [toHash, FixedBytes.ofNat, Bytes.toNat_ofNat, hsize, Nat.mod_eq_of_lt a.toNat_lt]

namespace Signature

variable (sig : Signature)

theorem length_toBytes : sig.toBytes.length = 65 := by
  simp only [toBytes, List.length_append, FixedBytes.length_toBytes, List.length_singleton]

/-- The bytes of a signature are read as the signature. -/
theorem ofBytes_toBytes : ofBytes sig.toBytes = .ok sig := by
  have hr := sig.r.toHash.length_toBytes
  have hs := sig.s.toHash.length_toBytes
  have hfirst : sig.toBytes.take 32 = sig.r.toHash.toBytes := by
    rw [toBytes, List.append_assoc, List.take_left' hr]
  have hsecond : (sig.toBytes.drop 32).take 32 = sig.s.toHash.toBytes := by
    rw [toBytes, List.append_assoc, List.drop_left' hr, List.take_left' hs]
  have hlast : sig.toBytes.drop 64 = [if sig.yParity then 28 else 27] := by
    rw [toBytes, List.drop_left' (by rw [List.length_append, hr, hs])]
  unfold ofBytes
  rw [hlast, hfirst, hsecond]
  simp only [UInt256.toNat_toHash, UInt256.saturate_toNat]
  obtain ⟨r, s, yParity⟩ := sig
  cases yParity <;> rfl

/-- The text of a signature ends in its parity, above 27. -/
theorem drop_digits_toBytes : (Hex.digits sig.toBytes).drop 128 = if sig.yParity then ['1', 'c'] else ['1', 'b'] := by
  have hlength : (Hex.digits (sig.r.toHash.toBytes ++ sig.s.toHash.toBytes)).length = 128 := by
    simp only [Hex.length_digits, List.length_append, FixedBytes.length_toBytes]
  rw [toBytes, Hex.digits, List.flatMap_append, ← Hex.digits, List.drop_left' hlength]
  cases sig.yParity <;> rfl

end Signature

/-! ## Signing and finding the signer -/

/-- The signer of a signature in range is the owner of a key whose public point is found from the signature. -/
theorem Signature.signer?_eq_address {sig : Signature} {digest : Hash} {key : PrivateKey} {point : Secp256k1.Point}
    (hvalid : sig.isValid = true) (hfound : sig.lowered.publicPoint? digest = some point)
    (hpublic : Secp256k1.generator.multiple? key.secret = some point) : sig.signer? digest = some key.address := by
  rw [signer?, if_pos hvalid, hfound, PrivateKey.address, hpublic]
  rfl

namespace Wallet

variable (w : Wallet) {message : Bytes} {keyText text : String} {key : PrivateKey} {sig : Signature} {address : Address}

/-- A message is signed by a key that can be read and gives a signature for its digest. -/
theorem signMessage_eq_ok (hkey : PrivateKey.parse keyText = .ok key)
    (hsign : key.sign (messageHash message) = some sig) :
    w.signMessage message keyText = .ok (Hex.encode sig.toBytes) := by
  unfold signMessage
  refine bind_eq_ok.mpr ⟨key, mapError_eq_ok.mpr hkey, ?_⟩
  -- to reduce the match would be to work out the signature, so it is rewritten and nothing is tried on it before
  rewrite [hsign]
  rfl

/-- The signer is found from a text of the bytes of the signature. -/
theorem recoverSigner_eq_ok (htext : Hex.decode text = .ok sig.toBytes)
    (hsigner : sig.signer? (messageHash message) = some address) :
    w.recoverSigner message text = .ok address := by
  rewrite [recoverSigner, htext]
  refine bind_eq_ok.mpr ⟨sig, mapError_eq_ok.mpr sig.ofBytes_toBytes, ?_⟩
  rewrite [hsigner]
  rfl

end Wallet

/-! ## Main statement -/

/-- A key that can be read gives the text of a signature for any message: 130 small digits after the mark, the last
two of them `1b` or `1c`. From this text, and from its digits alone, the owner of the key is found to have signed the
message. Of the key it is asked only that its signature for the digest of the message leads back to its address. -/
theorem recoverSigner_signMessage (w : Wallet) (message : Bytes) {keyText : String} {key : PrivateKey} {sig : Signature}
    (hkey : PrivateKey.parse keyText = .ok key) (hsign : key.sign (messageHash message) = some sig)
    (hsigner : sig.signer? (messageHash message) = some key.address) :
    ∃ digits : List Char, w.signMessage message keyText = .ok (String.ofList ('0' :: 'x' :: digits)) ∧
      digits.length = 130 ∧ (∀ c ∈ digits, c ∈ Hex.smallDigits) ∧
      (digits.drop 128 = ['1', 'b'] ∨ digits.drop 128 = ['1', 'c']) ∧
      w.recoverSigner message (String.ofList ('0' :: 'x' :: digits)) = .ok key.address ∧
      w.recoverSigner message (String.ofList digits) = .ok key.address := by
  refine ⟨Hex.digits sig.toBytes, w.signMessage_eq_ok hkey hsign, ?_, Hex.mem_smallDigits_of_mem_digits, ?_, ?_, ?_⟩
  · rw [Hex.length_digits, sig.length_toBytes]
  · rw [sig.drop_digits_toBytes]
    cases sig.yParity with
    | false => exact Or.inl rfl
    | true => exact Or.inr rfl
  · exact w.recoverSigner_eq_ok (Hex.decode_encode sig.toBytes) hsigner
  · exact w.recoverSigner_eq_ok (Hex.decode_digits sig.toBytes) hsigner

/-- A message for which `smallestKey` gives a signature whose `r` begins with a zero byte, and whose parity is odd. -/
def paddedMessage : Bytes := Bytes.ofText "334"

/-- The digest that is signed for it. -/
def paddedDigest : Hash := .ofNat 32 0xf2e74ad7cc6049df766ecfc4ed567d3f0ec93684bd4d24489493d5ac36ed1b5b

/-- The signature. -/
def paddedSignature : Signature where
  r := .saturate 0x57f565dc9b646e75f0838b258f5b66fcdedfb7f0b5c03ee92bcf314ba06bfe
  s := .saturate 0x11dd66e3be1d7c3a0d6f837a474be635866fbcaaedab1b4258567c65ea86287f
  yParity := true

theorem recoverSigner_signMessage_padded :
    PrivateKey.parse smallestKeyText = .ok smallestKey ∧
      smallestKey.sign (messageHash paddedMessage) = some paddedSignature ∧
      ∃ digits : List Char, (Wallet.mk ⟨{}⟩).signMessage paddedMessage smallestKeyText =
        .ok (String.ofList ('0' :: 'x' :: digits)) ∧
        digits.length = 130 ∧
        (Wallet.mk ⟨{}⟩).recoverSigner paddedMessage (String.ofList digits) = .ok smallestKey.address := by
  have hkey : PrivateKey.parse smallestKeyText = .ok smallestKey := by decide +kernel
  have hdigest : messageHash paddedMessage = paddedDigest := by decide +kernel
  have hgiven : smallestKey.sign paddedDigest = some paddedSignature := by decide +kernel
  have hvalid : paddedSignature.isValid = true := by decide +kernel
  have hpublic : Secp256k1.generator.multiple? smallestKey.secret = some Secp256k1.generator := by decide +kernel
  have hfound : paddedSignature.lowered.publicPoint? paddedDigest = some Secp256k1.generator := by decide +kernel
  have hsigner := Signature.signer?_eq_address hvalid hfound hpublic
  rw [← hdigest] at hgiven hsigner
  obtain ⟨digits, hsigned, hlength, -, -, -, hplain⟩ :=
    recoverSigner_signMessage ⟨⟨{}⟩⟩ paddedMessage hkey hgiven hsigner
  exact ⟨hkey, hgiven, digits, hsigned, hlength, hplain⟩

end DynamicFeeWallet
