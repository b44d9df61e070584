import DynamicFeeWallet.Proofs.Address
import DynamicFeeWallet.Wallet.Basic

/-!
# Texts that name an account

The check of addresses, the reader of addresses and the checksum agree on every text (`isAddress_agrees`): what passes
the check can be read, so that an account is refused for its address by the check alone
(`Wallet.getAccount_of_isAddress`), and the checksummed text of an address passes and is read as the address.
-/

namespace DynamicFeeWallet

namespace Wallet

variable (w : Wallet) {text : String} {a : Address} (name key : String) (nonce : Option UInt64)

/-- An account is not looked for under a text that does not pass the check. -/
theorem getAccount_of_not_isAddress (h : Address.isAddress text = false) :
    w.getAccount text name key nonce = throw (.argument .notAddress) := by
  unfold getAccount
  rw [h]
  rfl

/-- A text that passes the check is not refused any more: the account is that of the address that is read. -/
theorem getAccount_of_isAddress (h : Address.isAddress text = true) (hparse : Address.parse text = .ok a) :
    w.getAccount text name key nonce = (do
      let key ← ExceptT.mk (pure (readKey key))
      Account.load w.client a name key nonce) := by
  unfold getAccount
  rw [h, hparse]
  rfl

end Wallet

/-! ## Main statement -/

/-- A text that passes the check of addresses is read as an address, and an account is looked for under this address;
under any other text none is. The texts that pass are forty digits, after a mark or not, whose letters are of one case
or are those of the checksum of the address that is read. The checksummed text of an address is one of them, and is
read as the address. -/
theorem isAddress_agrees :
    (∀ (text : String), Address.isAddress text = true → ∃ a, Address.parse text = .ok a ∧
      ∀ (w : Wallet) (name key : String) (nonce : Option UInt64), w.getAccount text name key nonce = (do
        let key ← ExceptT.mk (pure (Wallet.readKey key))
        Account.load w.client a name key nonce)) ∧
    (∀ (text : String), Address.isAddress text = false → ∀ (w : Wallet) (name key : String) (nonce : Option UInt64),
      w.getAccount text name key nonce = throw (.argument .notAddress)) ∧
    (∀ (text : String), Address.isAddress text = true ↔
      ∃ digits, Hex.Presents digits text.toList ∧ digits.length = 40 ∧ (∀ c ∈ digits, Hex.isDigit c = true) ∧
        (Address.OneCase digits ∨ ∃ a, Address.parse text = .ok a ∧ digits = a.checksumDigits)) ∧
    ∀ a : Address, Address.isAddress a.checksum = true ∧ Address.parse a.checksum = .ok a := by
  refine ⟨fun text h => ?_, fun text h w name key nonce => ?_, fun text => Address.isAddress_iff, fun a => ?_⟩
  · obtain ⟨-, -, a, hparse, -⟩ := Address.exists_parse_of_isAddress h
    exact ⟨a, hparse, fun w name key nonce => w.getAccount_of_isAddress name key nonce h hparse⟩
  · exact w.getAccount_of_not_isAddress name key nonce h
  · exact ⟨a.isAddress_checksum, a.parse_checksum.1⟩

/-- Capitals alone pass after a capital mark, and are read; so is a checksummed text. One digit less names no account. -/
theorem isAddress_agrees_capitals :
    (∃ a, Address.parse ("0X" ++ String.ofList (List.replicate 40 'F')) = .ok a) ∧
      (∃ a, Address.parse Address.allOnes.checksum = .ok a) ∧
      (Wallet.mk ⟨{}⟩).getAccount ("0X" ++ String.ofList (List.replicate 39 'F')) "" "" none =
        throw (.argument .notAddress) := by
  obtain ⟨hread, hrefused, hpasses, hchecksum⟩ := isAddress_agrees
  have hdigits : ∀ c ∈ List.replicate 40 'F', Hex.isDigit c = true ∧ Address.isLowerLetter c = false := by
    intro c hc
    rw [List.eq_of_mem_replicate hc]
    decide
  have hcapitals : Address.isAddress ("0X" ++ String.ofList (List.replicate 40 'F')) = true :=
    (hpasses _).mpr ⟨List.replicate 40 'F', .capital, List.length_replicate, fun c hc => (hdigits c hc).1,
      Or.inl (Or.inl fun c hc => (hdigits c hc).2)⟩
  have hshort : Address.isAddress ("0X" ++ String.ofList (List.replicate 39 'F')) = false := by decide +kernel
  obtain ⟨a, hparse, -⟩ := hread _ hcapitals
  obtain ⟨b, hparse', -⟩ := hread _ (hchecksum .allOnes).1
  exact ⟨⟨a, hparse⟩, ⟨b, hparse'⟩, hrefused _ hshort _ _ _ _⟩

end DynamicFeeWallet
