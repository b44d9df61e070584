import DynamicFeeWallet.Proofs.Wallet.AccountRun

/-!
# What a refused key tells

Why a text is no private key depends on its shape alone: on how many bytes it has and on the first one that is no
digit (`PrivateKey.parse_eq_error`). What the wallet says of a refused key is said of its shape, so the digits of the
key never come out; and of a key that controls another address only the address is said.
-/

namespace DynamicFeeWallet

namespace PrivateKey

/-- What may be told of the text of a key, past its marks. -/
structure Shape where
  /-- The number of bytes is odd. -/
  odd : Bool
  /-- There are as many bytes as a key has digits. -/
  full : Bool
  /-- The first byte that is no digit, with its place. -/
  fault : Option (UInt8 × Nat)
deriving DecidableEq

/-- The bytes of a text that are read as the digits of a key. -/
def keyDigits (text : String) : Bytes := Hex.body (unmarked text)

/-- The shape of a text. -/
def shape (text : String) : Shape where
  odd := (keyDigits text).length % 2 == 1
  full := (keyDigits text).length == 64
  fault := Hex.firstNonDigit? 0 (keyDigits text)

/-- What is said of a key of this shape that is refused: a key of the right number of digits can only be out of range. -/
def Shape.error (s : Shape) : KeyError :=
  if s.odd then .notHex .oddLength
  else if !s.full then .notHex .wrongLength
  else s.fault.elim .outOfRange fun (b, position) => .notHex (.badDigit b position)

/-- The error that a shape has is that of the digits, or that of the range. -/
theorem error_shape (text : String) :
    (shape text).error = (Hex.refusal? 32 (keyDigits text)).elim .outOfRange .notHex := by
  unfold Shape.error shape Hex.refusal?
  simp only [beq_iff_eq, Bool.not_eq_true', beq_eq_false_iff_ne]
  split
  · rfl
  split
  · rfl
  cases Hex.firstNonDigit? 0 (keyDigits text) <;> rfl

/-- A text is refused for its shape. -/
theorem parse_eq_error {text : String} {error : KeyError} (h : parse text = .error error) :
    error = (shape text).error := by
  rw [error_shape]
  unfold parse at h
  rcases Hex.decodeFixed_cases 32 (unmarked text) with ⟨hnone, bytes, hread⟩ | ⟨reason, hsome, hread⟩
  · rw [hread] at h
    rw [keyDigits, hnone]
    dsimp only at h
    split at h
    · nomatch h
    · exact (Except.error.inj h).symm
  · rw [hread] at h
    rw [keyDigits, hsome]
    exact (Except.error.inj h).symm

end PrivateKey

namespace Wallet

variable (w : Wallet) {key : String} {error : KeyError}

/-- A key that is refused is put on the settings. -/
theorem readKey_of_refused (h : PrivateKey.parse key = .error error) : readKey key = .error (.setup (.badKey error)) := by
  rw [readKey, h]
  rfl

/-- No message is signed with a key that is refused. -/
theorem signMessage_of_refused (message : Bytes) (h : PrivateKey.parse key = .error error) :
    w.signMessage message key = .error (.setup (.badKey error)) := by
  rw [signMessage, readKey_of_refused h]
  rfl

/-- No transaction is signed with a key that is refused, and it stays as it is. -/
theorem signTransaction_of_refused (t : Transaction) (h : PrivateKey.parse key = .error error) :
    w.signTransaction t key = (.error (.sign (.badKey error)), t) := by
  rw [signTransaction, h]

/-- Without a key there is no account, and nothing is sent; the address is looked at first. -/
theorem run_getAccount_of_refused (address name : String) (nonce : Option UInt64) (node : Node) (j : Journal)
    (h : PrivateKey.parse key = .error error) :
    (w.getAccount address name key nonce).run.run node j =
      (.error (if Address.isAddress address then .setup (.badKey error) else .argument .notAddress), j) := by
  cases haddress : Address.isAddress address with
  | false =>
    rw [w.getAccount_of_not_isAddress name key nonce haddress]
    rfl
  | true =>
    obtain ⟨-, -, a, hparse, -⟩ := Address.exists_parse_of_isAddress haddress
    rw [w.getAccount_of_isAddress name key nonce haddress hparse, readKey_of_refused h]
    rfl

/-- What is said of an account when the key controls another address. -/
def refusedAddress (text : String) : WalletError :=
  match Address.parse text with
  | .ok a => if Address.isAddress text then .keyMismatch a else .argument .notAddress
  | .error _ => .argument .notAddress

/-- A key of another address is refused for the address, before anything is sent. -/
theorem run_getAccount_of_ne {address : String} {k : PrivateKey} (name : String) (nonce : Option UInt64)
    (node : Node) (j : Journal) (h : PrivateKey.parse key = .ok k)
    (hne : ∀ a, Address.parse address = .ok a → k.address ≠ a) :
    (w.getAccount address name key nonce).run.run node j = (.error (refusedAddress address), j) := by
  unfold refusedAddress
  cases haddress : Address.isAddress address with
  | false =>
    rw [w.getAccount_of_not_isAddress name key nonce haddress]
    cases Address.parse address <;> rfl
  | true =>
    obtain ⟨-, -, a, hparse, -⟩ := Address.exists_parse_of_isAddress haddress
    rw [w.getAccount_of_isAddress name key nonce haddress hparse, readKey, h, hparse, Attempt.run_bind]
    exact Account.run_load_of_ne j (hne a hparse)

end Wallet

/-! ## Main statement -/

/-- Two texts are refused as keys in the same words, wherever they are given with the same other arguments, and
nothing is sent. -/
structure RefusedAlike (a b : String) : Prop where
  parse : ∃ error, PrivateKey.parse a = .error error ∧ PrivateKey.parse b = .error error
  readKey : ∃ error, Wallet.readKey a = .error error ∧ Wallet.readKey b = .error error
  getAccount : ∀ (w : Wallet) (address name : String) (nonce : Option UInt64) (node : Node) (j : Journal), ∃ error,
    (w.getAccount address name a nonce).run.run node j = (.error error, j) ∧
      (w.getAccount address name b nonce).run.run node j = (.error error, j)
  signMessage : ∀ (w : Wallet) (message : Bytes), ∃ error,
    w.signMessage message a = .error error ∧ w.signMessage message b = .error error
  signTransaction : ∀ (w : Wallet) (t : Transaction), ∃ error,
    w.signTransaction t a = (.error error, t) ∧ w.signTransaction t b = (.error error, t)

/-- Refused keys of one shape are refused alike. -/
theorem refusedAlike_of_shape_eq {a b : String} {e e' : KeyError} (ha : PrivateKey.parse a = .error e)
    (hb : PrivateKey.parse b = .error e') (hshape : PrivateKey.shape a = PrivateKey.shape b) : RefusedAlike a b := by
  -- both errors are that of the shape
  have he : e' = e := by rw [PrivateKey.parse_eq_error ha, PrivateKey.parse_eq_error hb, hshape]
  subst he
  refine ⟨⟨_, ha, hb⟩, ⟨_, Wallet.readKey_of_refused ha, Wallet.readKey_of_refused hb⟩, ?_, ?_, ?_⟩
  · intro w address name nonce node j
    exact ⟨_, w.run_getAccount_of_refused address name nonce node j ha,
      w.run_getAccount_of_refused address name nonce node j hb⟩
  · intro w message
    exact ⟨_, w.signMessage_of_refused message ha, w.signMessage_of_refused message hb⟩
  · intro w t
    exact ⟨_, w.signTransaction_of_refused t ha, w.signTransaction_of_refused t hb⟩

/-- What is said of a refused key is the same for all refused keys of one shape, so it does not depend on their
digits; and what is said of a key that does not control an address is the same for all such keys. -/
theorem refused_keys_alike :
    (∀ (a b : String) (e e' : KeyError), PrivateKey.parse a = .error e → PrivateKey.parse b = .error e' →
      PrivateKey.shape a = PrivateKey.shape b → RefusedAlike a b) ∧
    ∀ (w : Wallet) (address name a b : String) (k k' : PrivateKey) (nonce : Option UInt64) (node : Node) (j : Journal),
      PrivateKey.parse a = .ok k → PrivateKey.parse b = .ok k' →
        (∀ x, Address.parse address = .ok x → k.address ≠ x ∧ k'.address ≠ x) →
        ∃ error, (w.getAccount address name a nonce).run.run node j = (.error error, j) ∧
          (w.getAccount address name b nonce).run.run node j = (.error error, j) := by
  constructor
  · intro a b e e' ha hb hshape
    exact refusedAlike_of_shape_eq ha hb hshape
  · intro w address name a b k k' nonce node j ha hb hne
    have hfirst : ∀ x, Address.parse address = .ok x → k.address ≠ x := fun x hx => (hne x hx).1
    have hsecond : ∀ x, Address.parse address = .ok x → k'.address ≠ x := fun x hx => (hne x hx).2
    exact ⟨_, w.run_getAccount_of_ne name nonce node j ha hfirst, w.run_getAccount_of_ne name nonce node j hb hsecond⟩

/-- A text of 63 digits `digit` and a letter that is none. -/
def brokenKeyText (digit : Char) : String := String.ofList (List.replicate 63 digit ++ ['g'])

/-- The text of the key after `smallestKey`. -/
def nextKeyText : String := "0000000000000000000000000000000000000000000000000000000000000002"

/-- A node that does not answer. -/
def silentNode : Node := fun _ _ => .error (.exhausted 0)

/-- Some address belongs to neither of two owners. -/
theorem exists_ne_of_two (p q : Address) : ∃ x : Address, p ≠ x ∧ q ≠ x := by
  by_contra! hall
  have h01 : (FixedBytes.replicate 20 0 : Address) ≠ .replicate 20 1 := by decide
  have h02 : (FixedBytes.replicate 20 0 : Address) ≠ .replicate 20 2 := by decide
  have h12 : (FixedBytes.replicate 20 1 : Address) ≠ .replicate 20 2 := by decide
  by_cases hp : p = .replicate 20 0
  · exact h12 ((hall _ (hp ▸ h01)).symm.trans (hall _ (hp ▸ h02)))
  · have hq := hall _ hp
    have hp1 : p = .replicate 20 1 := by_contra fun h => h01 (hq.symm.trans (hall _ h))
    have hp2 : p = .replicate 20 2 := by_contra fun h => h02 (hq.symm.trans (hall _ h))
    exact h12 (hp1.symm.trans hp2)

/-- Keys with the same letter out of place are refused alike, and so are two keys for the account of neither. -/
theorem refused_keys_alike_broken :
    RefusedAlike (brokenKeyText '0') (brokenKeyText 'a') ∧
      ∃ (x : Address) (error : WalletError),
        ((Wallet.mk ⟨{}⟩).getAccount x.checksum "" smallestKeyText none).run.run silentNode {} = (.error error, {}) ∧
        ((Wallet.mk ⟨{}⟩).getAccount x.checksum "" nextKeyText none).run.run silentNode {} = (.error error, {}) := by
  have hfirst : PrivateKey.parse (brokenKeyText '0') = .error (.notHex (.badDigit 103 63)) := by decide +kernel
  have hsecond : PrivateKey.parse (brokenKeyText 'a') = .error (.notHex (.badDigit 103 63)) := by decide +kernel
  have hshape : PrivateKey.shape (brokenKeyText '0') = PrivateKey.shape (brokenKeyText 'a') := by decide +kernel
  have hsmallest : PrivateKey.parse smallestKeyText = .ok smallestKey := by decide +kernel
  have hnext : PrivateKey.parse nextKeyText = .ok ⟨2, by decide, by decide⟩ := by decide +kernel
  obtain ⟨hrefused, haddress⟩ := refused_keys_alike
  obtain ⟨x, hne⟩ := exists_ne_of_two smallestKey.address (PrivateKey.mk 2 (by decide) (by decide)).address
  have howner : ∀ y, Address.parse x.checksum = .ok y →
      smallestKey.address ≠ y ∧ (PrivateKey.mk 2 (by decide) (by decide)).address ≠ y := by
    intro y hy
    cases x.parse_checksum.1.symm.trans hy
    exact hne
  exact ⟨hrefused _ _ _ _ hfirst hsecond hshape, x, haddress _ _ _ _ _ _ _ _ _ _ hsmallest hnext howner⟩

end DynamicFeeWallet
