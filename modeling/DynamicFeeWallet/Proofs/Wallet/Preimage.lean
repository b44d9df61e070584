import DynamicFeeWallet.Proofs.Text.Ascii
import DynamicFeeWallet.Proofs.Transaction.Encoding
import DynamicFeeWallet.Wallet.Basic

/-!
# What digests are taken of

The wallet takes digests of personal messages, of transactions that are to be signed, and of signed transactions. The
bytes that are hashed for two of these things, of one sort or of two, are never the same (`preimage_separates`). A
message is told by the length of its bytes alone, because the number of bytes and the number of its digits grow
together; a transaction is what its encoding is read as; and the first byte tells the one from the other. So what two
things have in common is a collision of the digest, or nothing.
-/

namespace DynamicFeeWallet

/-! ## Messages -/

/-- The heading, the digits of the length, and the message. -/
theorem length_messagePreimage (message : Bytes) :
    (messagePreimage message).length =
      (Bytes.ofText "\x19Ethereum Signed Message:\n").length +
        (Nat.toDigits 10 message.length).length + message.length := by
  rw [messagePreimage, List.length_append, List.length_append, Text.length_ofText_toString]

/-- The length of what is hashed tells the length of the message, although nothing stands between the digits and the
message. -/
theorem length_eq_of_length_messagePreimage_eq {m m' : Bytes}
    (h : (messagePreimage m).length = (messagePreimage m').length) :
    m.length = m'.length := by
  rw [length_messagePreimage, length_messagePreimage] at h
  rcases Nat.lt_trichotomy m.length m'.length with hlt | heq | hlt
  · have hdigits := Text.length_toDigits_le (Nat.le_of_lt hlt)
    omega
  · exact heq
  · have hdigits := Text.length_toDigits_le (Nat.le_of_lt hlt)
    omega

/-- What is hashed for a message tells the message. -/
theorem eq_of_messagePreimage_eq {m m' : Bytes} (h : messagePreimage m = messagePreimage m') : m = m' := by
  have hlength := length_eq_of_length_messagePreimage_eq (congrArg List.length h)
  rw [messagePreimage, messagePreimage, hlength] at h
  exact List.append_cancel_left h

/-! ## Transactions -/

/-- What is hashed for a message is no encoding: it begins otherwise. -/
theorem Payload.encode_ne_messagePreimage (p : Payload) (signature : Option Signature) (message : Bytes) :
    p.encode signature ≠ .ok (messagePreimage message) := by
  intro h
  obtain ⟨priorityFee, maxFee, gasLimit, -, -, -, hraw⟩ := encode_eq_ok.mp h
  have hfirst : (messagePreimage message).head? = some 0x19 := rfl
  rw [hraw] at hfirst
  nomatch hfirst

/-- An encoding tells the fields and the signature, and whether there is one. -/
theorem Payload.eq_of_encode_eq {p q : Payload} {signature signature' : Option Signature} {raw : Bytes}
    (hlen : raw.length < 2 ^ 64) (hp : p.encode signature = .ok raw) (hq : q.encode signature' = .ok raw) :
    p = q ∧ signature = signature' := by
  have hread := decode_of_encode hp hlen
  rw [decode_of_encode hq hlen] at hread
  cases hread
  exact ⟨rfl, rfl⟩

/-! ## Digests -/

/-- What the wallet takes a digest of. -/
inductive Subject where
  /-- A personal message. -/
  | message (bytes : Bytes)
  /-- The fields of a transaction that is to be signed. -/
  | unsigned (p : Payload)
  /-- The fields of a signed transaction, and its signature. -/
  | signed (p : Payload) (sig : Signature)

namespace Subject

/-- The bytes that are hashed. -/
def preimage : Subject → Except TransactionError Bytes
  | message bytes => .ok (messagePreimage bytes)
  | unsigned p => p.encode none
  | signed p sig => p.encode (some sig)

/-- The digest. -/
def digest (x : Subject) : Except TransactionError Hash := x.preimage.map keccak256

/-- The digest that is signed for a message. -/
theorem digest_message (bytes : Bytes) : (message bytes).digest = .ok (messageHash bytes) := rfl

/-- The digest that is signed for a transaction. -/
theorem digest_unsigned (t : Transaction) : (unsigned t.payload).digest = t.signingHash := rfl

/-- The hash of a signed transaction. -/
theorem digest_signed {t : Transaction} {sig : Signature} (hsig : t.signature = some sig)
    (hpriced : t.isSignable = true) :
    (signed t.payload sig).digest = t.computeHash := by
  rw [Transaction.computeHash, Transaction.encodeSigned, if_pos hpriced, hsig]
  rfl

/-- The bytes that are hashed tell what they are hashed for. -/
theorem eq_of_preimage_eq {x y : Subject} {raw : Bytes} (hlen : raw.length < 2 ^ 64) (hx : x.preimage = .ok raw)
    (hy : y.preimage = .ok raw) : x = y := by
  cases x with
  | message m =>
    cases hx
    cases y with
    | message m' => rw [eq_of_messagePreimage_eq (Except.ok.inj hy)]
    | unsigned q => exact absurd hy (q.encode_ne_messagePreimage none m)
    | signed q sig => exact absurd hy (q.encode_ne_messagePreimage (some sig) m)
  | unsigned p =>
    cases y with
    | message m =>
      cases hy
      exact absurd hx (p.encode_ne_messagePreimage none m)
    | unsigned q => rw [(Payload.eq_of_encode_eq hlen hx hy).1]
    | signed q sig => nomatch (Payload.eq_of_encode_eq hlen hx hy).2
  | signed p sig =>
    cases y with
    | message m =>
      cases hy
      exact absurd hx (p.encode_ne_messagePreimage (some sig) m)
    | unsigned q => nomatch (Payload.eq_of_encode_eq hlen hx hy).2
    | signed q sig' =>
      obtain ⟨rfl, hsig⟩ := Payload.eq_of_encode_eq hlen hx hy
      rw [Option.some.inj hsig]

end Subject

/-- Two different byte strings have the same digest. -/
def Collide (a b : Bytes) : Prop := a ≠ b ∧ keccak256 a = keccak256 b

/-- Different things with the same digest show a collision. -/
theorem Subject.collide_of_digest_eq {x y : Subject} {digest : Hash} (hne : x ≠ y)
    (hlen : ∀ raw, x.preimage = .ok raw → raw.length < 2 ^ 64) (hx : x.digest = .ok digest) (hy : y.digest = .ok digest) :
    ∃ a b, x.preimage = .ok a ∧ y.preimage = .ok b ∧ Collide a b := by
  obtain ⟨a, ha, rfl⟩ := map_eq_ok.mp hx
  obtain ⟨b, hb, hsame⟩ := map_eq_ok.mp hy
  refine ⟨a, b, ha, hb, ?_, hsame.symm⟩
  rintro rfl
  exact hne (eq_of_preimage_eq (hlen a ha) ha hb)

/-! ## Main statement -/

/-- What is hashed for two things is never the same. For two messages it is the same only if they are; for a message
it is no encoding of a transaction, unsigned or signed; and two encodings, each unsigned or signed, are the same only
if the fields and the signatures are, so none with a signature is one without. Things that differ have the same digest
only where the digest has a collision. Encodings are no longer than lengths can be told. -/
theorem preimage_separates :
    (∀ m m', messagePreimage m = messagePreimage m' → m = m') ∧
      (∀ (p : Payload) signature message, p.encode signature ≠ .ok (messagePreimage message)) ∧
      (∀ (p q : Payload) signature signature' raw, raw.length < 2 ^ 64 → p.encode signature = .ok raw →
        q.encode signature' = .ok raw → p = q ∧ signature = signature') ∧
      ∀ (x y : Subject) digest, x ≠ y → (∀ raw, x.preimage = .ok raw → raw.length < 2 ^ 64) → x.digest = .ok digest →
        y.digest = .ok digest → ∃ a b, x.preimage = .ok a ∧ y.preimage = .ok b ∧ Collide a b := by
  refine ⟨?_, ?_, ?_, ?_⟩
  · intro m m' h
    exact eq_of_messagePreimage_eq h
  · intro p signature message
    exact p.encode_ne_messagePreimage signature message
  · intro p q signature signature' raw hlen hp hq
    exact Payload.eq_of_encode_eq hlen hp hq
  · intro x y digest hne hlen hx hy
    exact Subject.collide_of_digest_eq hne hlen hx hy

/-- What is hashed for the message `0` is the beginning of what is hashed for a message of ten bytes, and yet not the
same; and the encoding of a signed transaction is that of no other, and none without its signature. -/
theorem preimage_separates_digits_and_encodings :
    messagePreimage [0x30] <+: messagePreimage (List.replicate 10 0x30) ∧
      messagePreimage [0x30] ≠ messagePreimage (List.replicate 10 0x30) ∧
      Payload.longListed.encode (some Payload.unitSignature) = .ok Payload.longListedBytes ∧
      Payload.longListed.encode none ≠ .ok Payload.longListedBytes ∧
      ∀ (q : Payload) sig, q.encode (some sig) = .ok Payload.longListedBytes →
        q = Payload.longListed ∧ sig = Payload.unitSignature := by
  obtain ⟨hmessage, -, hencode, -⟩ := preimage_separates
  have hlen : Payload.longListedBytes.length < 2 ^ 64 := by decide +kernel
  have hsigned : Payload.longListed.encode (some Payload.unitSignature) = .ok Payload.longListedBytes := by decide +kernel
  refine ⟨by decide +kernel, ?_, hsigned, ?_, ?_⟩
  · intro h
    nomatch hmessage _ _ h
  · intro hunsigned
    nomatch (hencode _ _ _ _ _ hlen hsigned hunsigned).2
  · intro q sig hq
    obtain ⟨hp, hs⟩ := hencode _ _ _ _ _ hlen hq hsigned
    exact ⟨hp, Option.some.inj hs⟩

end DynamicFeeWallet
