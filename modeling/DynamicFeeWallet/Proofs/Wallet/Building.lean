import DynamicFeeWallet.Proofs.Address
import DynamicFeeWallet.Proofs.Rlp.Reader
import DynamicFeeWallet.Wallet.Basic

/-!
# What is built of texts

A transaction is built of texts exactly when they spell its addresses and its data (`Wallet.buildTransaction_eq_ok`).
Digits of any case spell an address, and the case is not looked at: the check of addresses, which accounts and the
arguments of requests have to pass, would refuse letters that mix cases otherwise than the checksum does, and these
are built into a transaction (`isAddress_of_buildTransaction_false`).
-/

namespace DynamicFeeWallet

namespace Wallet

/-! ## What the texts say -/

/-- What stands for a destination: no text for none, and a text for the address that its digits spell. -/
inductive Destines : Option String → Option Address → Prop where
  | creation : Destines none none
  | address {text : String} {a : Address} (h : Hex.Spells (Hex.unmarked text.toList) a.toBytes) :
    Destines (some text) (some a)

theorem Destines.exists_address {text : String} {destination : Option Address} (h : Destines (some text) destination) :
    ∃ a, destination = some a ∧ Hex.Spells (Hex.unmarked text.toList) a.toBytes := by
  cases h with
  | address h => exact ⟨_, rfl, h⟩

/-- What stands for data: no text for none, and a text for the bytes that its digits spell. -/
inductive Carries : Option String → Bytes → Prop where
  | nothing : Carries none []
  | bytes {text : String} {data : Bytes} (h : Hex.Spells (Hex.unmarked text.toList) data) : Carries (some text) data

/-- The skeleton is what the texts and numbers say. -/
structure Builds (w : Wallet) (sender : String) (nonce : UInt64) (destination data : Option String) (value : UInt256)
    (accessList : List AccessItem) (sk : Skeleton) : Prop where
  /-- The sender is written. -/
  sender : Hex.Spells (Hex.unmarked sender.toList) sk.sender.toBytes
  /-- The destination is written, if there is one. -/
  destination : Destines (nonEmpty destination) sk.destination
  /-- The data is written, if there is any. -/
  data : Carries (nonEmpty data) sk.data
  value : sk.value = value
  nonce : sk.nonce = .ofUInt64 nonce
  /-- The network is that of the client. -/
  chainId : sk.chainId = w.client.settings.chainId
  accessList : sk.accessList = accessList

/-! ## How they are read -/

/-- The destination that a text names, if there is a text. -/
def readDestination : Option String → Except WalletError (Option Address)
  | some text => ((Address.parse text).mapError fun e => .build (.badDestination text e)).map some
  | none => .ok none

/-- The data that a text writes, if there is a text. -/
def readData : Option String → Except WalletError Bytes
  | some text => (Hex.decode text).mapError fun e => .build (.badData e)
  | none => .ok []

theorem readDestination_eq_ok {text : Option String} {destination : Option Address} :
    readDestination text = .ok destination ↔ Destines text destination := by
  cases text with
  | none =>
    constructor
    · intro h
      cases h
      exact .creation
    · rintro ⟨⟩
      rfl
  | some text =>
    simp only [readDestination, map_eq_ok, mapError_eq_ok, Address.parse_eq_ok]
    constructor
    · rintro ⟨a, h, rfl⟩
      exact .address h
    · rintro ⟨⟩
      exact ⟨_, ‹_›, rfl⟩

theorem readData_eq_ok {text : Option String} {data : Bytes} : readData text = .ok data ↔ Carries text data := by
  cases text with
  | none =>
    constructor
    · intro h
      cases h
      exact .nothing
    · rintro ⟨⟩
      rfl
  | some text =>
    simp only [readData, mapError_eq_ok, Hex.decode_eq_ok]
    constructor
    · intro h
      exact .bytes h
    · rintro ⟨⟩
      assumption

variable {w : Wallet} {sender : String} {nonce : UInt64} {destination data : Option String} {value : UInt256}
  {accessList : List AccessItem} {sk : Skeleton}

/-- The texts are read one after the other, and the numbers are taken as they are. -/
theorem buildTransaction_eq (w : Wallet) (sender : String) (nonce : UInt64)
    (destination data : Option String) (value : UInt256) (accessList : List AccessItem) :
    w.buildTransaction sender nonce destination data value accessList =
      ((Address.parse sender).mapError fun e => WalletError.build (.badSender sender e)) >>= fun sender =>
        readDestination (nonEmpty destination) >>= fun destination =>
          readData (nonEmpty data) >>= fun data =>
            .ok
              { sender, destination, value, data, nonce := .ofUInt64 nonce,
                chainId := w.client.settings.chainId, accessList } := by
  unfold buildTransaction
  cases nonEmpty destination <;> cases nonEmpty data <;> rfl

/-- A skeleton is built exactly of the texts that write it. -/
theorem buildTransaction_eq_ok :
    w.buildTransaction sender nonce destination data value accessList = .ok sk ↔
      w.Builds sender nonce destination data value accessList sk := by
  simp only [buildTransaction_eq, bind_eq_ok, mapError_eq_ok, Address.parse_eq_ok, readDestination_eq_ok, readData_eq_ok]
  constructor
  · rintro ⟨a, hsender, d, hdestination, bytes, hdata, h⟩
    cases h
    exact ⟨hsender, hdestination, hdata, rfl, rfl, rfl, rfl⟩
  · rintro ⟨hsender, hdestination, hdata, rfl, hnonce, hchain, rfl⟩
    refine ⟨sk.sender, hsender, sk.destination, hdestination, sk.data, hdata, ?_⟩
    rw [← hnonce, ← hchain]

end Wallet

/-! ## Main statements -/

/-- A transaction is built of the texts exactly when they spell its sender, its destination, unless there is none, and
its data, and then the texts of the addresses pass the check of addresses just when their letters are of one case, or
in the case of the checksum. -/
theorem buildTransaction_spells (w : Wallet) (sender : String) (nonce : UInt64)
    (destination data : Option String) (value : UInt256) (accessList : List AccessItem) (sk : Skeleton) :
    (w.buildTransaction sender nonce destination data value accessList = .ok sk ↔
        w.Builds sender nonce destination data value accessList sk) ∧
      (w.buildTransaction sender nonce destination data value accessList = .ok sk →
        (Address.isAddress sender = true ↔ Address.CaseHolds (Hex.unmarked sender.toList) sk.sender) ∧
          ∀ text, Wallet.nonEmpty destination = some text →
            ∃ a, sk.destination = some a ∧
              (Address.isAddress text = true ↔ Address.CaseHolds (Hex.unmarked text.toList) a)) := by
  refine ⟨Wallet.buildTransaction_eq_ok, fun h => ?_⟩
  obtain ⟨hsender, hdestination, -⟩ := Wallet.buildTransaction_eq_ok.mp h
  refine ⟨Address.isAddress_of_spells hsender, ?_⟩
  intro text htext
  rw [htext] at hdestination
  obtain ⟨a, ha, hspells⟩ := hdestination.exists_address
  exact ⟨a, ha, Address.isAddress_of_spells hspells⟩

/-- A sender without letters and a checksummed destination are built into a transaction, and pass the check. -/
theorem buildTransaction_spells_zero :
    (∃ sk, (Wallet.mk ⟨{}⟩).buildTransaction (FixedBytes.toHex Address.zero) 7
      (some Address.allOnes.checksum) (some "") .zero [] =
        .ok sk) ∧
      Address.isAddress (FixedBytes.toHex Address.zero) = true ∧ Address.isAddress Address.allOnes.checksum = true := by
  have htext : Wallet.nonEmpty (some Address.allOnes.checksum) = some Address.allOnes.checksum := by
    simp [Wallet.nonEmpty, Address.checksum, String.isEmpty]
  have hnamed : Wallet.Destines (Wallet.nonEmpty (some Address.allOnes.checksum)) (some .allOnes) := by
    rw [htext]
    exact .address (Address.parse_eq_ok.mp Address.allOnes.parse_checksum.1)
  have hdigits : Hex.unmarked (FixedBytes.toHex Address.zero).toList = List.replicate 40 '0' := rfl
  obtain ⟨hiff, hcheck⟩ :=
    buildTransaction_spells ⟨⟨{}⟩⟩ (FixedBytes.toHex Address.zero) 7 (some Address.allOnes.checksum) (some "") .zero []
      { sender := .zero, destination := some .allOnes, nonce := .ofUInt64 7, chainId := 1 }
  have hbuilt := hiff.mpr ⟨rfl, hnamed, .nothing, rfl, rfl, rfl, rfl⟩
  obtain ⟨hsender, hdestination⟩ := hcheck hbuilt
  obtain ⟨a, ha, haddress⟩ := hdestination _ htext
  refine ⟨⟨_, hbuilt⟩, hsender.mpr fun hmixed => ?_, haddress.mpr fun _ => ?_⟩
  · obtain ⟨⟨c, hc, hlower⟩, -⟩ := hmixed
    rw [hdigits] at hc
    rw [List.eq_of_mem_replicate hc] at hlower
    exact absurd hlower (by decide)
  · cases ha
    exact Address.allOnes.unmarked_checksum

/-- The checksummed text of an address, but for the case of its last letter. -/
def mistyped : String := "0x5aAeb6053F3E94C9b9A09f33669435E7Ef1BeAeD"

theorem isAddress_mistyped : Address.isAddress mistyped = false := by decide +kernel

/-- It is built into a transaction as a sender and as a destination. -/
theorem exists_buildTransaction_mistyped :
    ∃ sk, (Wallet.mk ⟨{}⟩).buildTransaction mistyped 0 (some mistyped) none .zero [] = .ok sk := ⟨_, rfl⟩

/-- What is built of addresses need not have passed the check: neither the text of the sender nor that of the
destination. -/
theorem isAddress_of_buildTransaction_false :
    (¬∀ (w : Wallet) (sender : String) (nonce : UInt64) (destination data : Option String) (value : UInt256)
      (accessList : List AccessItem) (sk : Skeleton),
      w.buildTransaction sender nonce destination data value accessList = .ok sk → Address.isAddress sender = true) ∧
    ¬∀ (w : Wallet) (sender : String) (nonce : UInt64) (destination data : Option String) (value : UInt256)
      (accessList : List AccessItem) (sk : Skeleton) (text : String),
      w.buildTransaction sender nonce destination data value accessList = .ok sk →
        Wallet.nonEmpty destination = some text →
        Address.isAddress text = true := by
  obtain ⟨sk, hbuilt⟩ := exists_buildTransaction_mistyped
  constructor
  · intro hchecked
    nomatch (hchecked _ _ _ _ _ _ _ _ hbuilt).symm.trans isAddress_mistyped
  · intro hchecked
    nomatch (hchecked _ _ _ _ _ _ _ _ _ hbuilt rfl).symm.trans isAddress_mistyped

end DynamicFeeWallet
