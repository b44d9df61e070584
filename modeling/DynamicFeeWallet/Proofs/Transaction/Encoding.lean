import DynamicFeeWallet.Proofs.Rlp.Reader
import DynamicFeeWallet.Transaction.Encoding

/-!
# One encoding for each transaction

`Payload.encode` and `Payload.decode` undo each other. Every priced payload, with a signature or without, is read back
from its encoding (`decode_of_encode`), and whatever is read has been written so (`encode_of_decode`): the pass that
counts the items and the pass that reads them agree with the writer on where each item ends, and no byte is left
unread.
-/

namespace DynamicFeeWallet

open Rlp

namespace AccessItem

/-- The keys of an item as a list. -/
def encodeKeys (keys : List Hash) : Bytes := list (keys.flatMap fun key => string key.toBytes)

/-- Storage keys are read back. -/
theorem readKeys_inverts : Inverts (readListOf (readFixed 32)) encodeKeys :=
  readListOf_inverts (readFixed_inverts 32) fun key => item_ne_nil false key.toBytes

theorem encode_eq (it : AccessItem) :
    it.encode = item true (string it.address.toBytes ++ encodeKeys it.storageKeys) := rfl

/-- Items of an access list. The parts are read past the header of the item, and the comparison of lengths afterwards
makes up for it. -/
theorem decode_inverts : Inverts decode encode where
  read_write it rest hlen := by
    rw [encode_eq] at hlen ⊢
    have hpayload := length_le_length_item true (string it.address.toBytes ++ encodeKeys it.storageKeys)
    have hheader := readHeader_item true (Nat.lt_of_le_of_lt hpayload hlen) rest
    rw [List.length_append] at hpayload
    have haddress := (readFixed_inverts 20).read_write it.address (encodeKeys it.storageKeys ++ rest) (by omega)
    have hkeys := readKeys_inverts.read_write it.storageKeys rest (by omega)
    have hconsumed : (string it.address.toBytes ++ (encodeKeys it.storageKeys ++ rest)).length - rest.length =
        (string it.address.toBytes ++ encodeKeys it.storageKeys).length := by
      rw [← List.append_assoc, List.length_append]
      exact Nat.add_sub_cancel _ _
    rw [List.append_assoc] at hheader
    simp only [decode, hheader, haddress, hkeys, hconsumed, bind, Except.bind, pure, Except.pure, if_true]
  eq_write {input it rest} hr := by
    unfold decode at hr
    obtain ⟨⟨h, start⟩, hheader, hr⟩ := bind_eq_ok.mp hr
    dsimp only at hr
    split at hr
    · rename_i hlist
      obtain ⟨⟨address, rest1⟩, haddress, hr⟩ := bind_eq_ok.mp hr
      obtain ⟨⟨keys, rest2⟩, hkeys, hr⟩ := bind_eq_ok.mp hr
      dsimp only at hkeys hr
      split at hr
      · rename_i hlength
        cases hr
        obtain ⟨-, -, hin⟩ := readHeader_eq_ok hheader
        have hstart : start = (string address.toBytes ++ encodeKeys keys) ++ rest := by
          rw [(readFixed_inverts 20).eq_write haddress, readKeys_inverts.eq_write hkeys, List.append_assoc]
        -- what was consumed is what the header announced
        have hn : h.length = (string address.toBytes ++ encodeKeys keys).length := by
          rw [← hlength, hstart, List.length_append]
          exact Nat.add_sub_cancel _ _
        rw [hin, hlist, hn, hstart, List.take_left, List.drop_left]
        rfl
      · nomatch hr
    · nomatch hr

theorem encode_ne_nil (it : AccessItem) : it.encode ≠ [] := item_ne_nil true _

end AccessItem

namespace Payload

/-- A part that is an item on its own. -/
theorem item_inverts {α : Type} {read : Rlp.Reader α} {write : α → Bytes} (h : Inverts read write) :
    Inverts (item read) write where
  read_write a rest hlen := by
    rw [item, h.read_write a rest hlen]
    rfl
  eq_write {input a rest} hr := by
    unfold item at hr
    cases hread : read input with
    | error e => rw [hread] at hr; nomatch hr
    | ok x =>
      rw [hread] at hr
      cases hr
      exact h.eq_write hread

/-- The destination that a string names. -/
def destinationOf (bytes : Bytes) : Except FormatError (Option Address) :=
  match bytes with
  | [] => .ok none
  | bytes =>
    match FixedBytes.ofBytes? 20 bytes with
    | some address => .ok (some address)
    | none => .error (.destinationLength bytes.length)

/-- An address is never empty, so no creation is taken for a call, nor a call for a creation. -/
theorem destinationOf_eq_ok (bytes : Bytes) (destination : Option Address) :
    destinationOf bytes = .ok destination ↔ bytes = destination.elim [] FixedBytes.toBytes := by
  cases bytes with
  | nil =>
    cases destination with
    | none => simp [destinationOf]
    | some a =>
      have hlen := a.length_toBytes
      constructor
      · intro h
        nomatch h
      · intro h
        have hnil : a.toBytes = [] := h.symm
        rw [hnil] at hlen
        nomatch hlen
  | cons b bytes =>
    simp only [destinationOf]
    cases destination with
    | none => cases FixedBytes.ofBytes? 20 (b :: bytes) <;> simp
    | some a =>
      rw [Option.elim_some, eq_comm (a := b :: bytes), ← FixedBytes.ofBytes?_eq_some_iff]
      cases FixedBytes.ofBytes? 20 (b :: bytes) <;> simp

/-- Destinations are read back, those of a creation as nothing. -/
theorem readDestination_inverts :
    Inverts readDestination fun destination => string (destination.elim [] FixedBytes.toBytes) := by
  refine (item_inverts readString_inverts).refine destinationOf
    (fun d => d.elim [] FixedBytes.toBytes) ?_ destinationOf_eq_ok
  intro input
  refine bind_congr fun (bytes, rest) => ?_
  cases bytes with
  | nil => rfl
  | cons b bytes =>
    simp only [destinationOf]
    cases FixedBytes.ofBytes? 20 (b :: bytes) <;> rfl

/-- A parity that is let through is that of an even or an odd coordinate. -/
theorem toNat_parity {parity : UInt8} (h : ¬1 < parity) : (parity == 1).toNat = parity.toNat := by
  have hle : parity.toNat ≤ 1 := UInt8.le_iff_toNat_le.mp (UInt8.not_lt.mp h)
  rcases Nat.le_one_iff_eq_zero_or_eq_one.mp hle with h0 | h1
  · cases UInt8.toNat_inj.mp (show parity.toNat = (0 : UInt8).toNat from h0)
    rfl
  · cases UInt8.toNat_inj.mp (show parity.toNat = (1 : UInt8).toNat from h1)
    rfl

/-- Signatures are read back. -/
theorem readSignature_inverts : Inverts readSignature fun sig => encodeSignature (some sig) where
  read_write sig rest hlen := by
    rw [encodeSignature, List.length_append, List.length_append] at hlen
    have hnumber : (UInt8.ofNat sig.yParity.toNat).toNat = sig.yParity.toNat := by cases sig.yParity <;> rfl
    have hlow : ¬1 < UInt8.ofNat sig.yParity.toNat := by cases sig.yParity <;> decide
    have hvalue : (UInt8.ofNat sig.yParity.toNat == 1) = sig.yParity := by cases sig.yParity <;> rfl
    have hparity := (item_inverts readUInt8_inverts).read_write (UInt8.ofNat sig.yParity.toNat)
      (number 32 sig.r.toNat ++ (number 32 sig.s.toNat ++ rest)) (by rw [hnumber]; omega)
    have hr := (item_inverts readUInt256_inverts).read_write sig.r (number 32 sig.s.toNat ++ rest) (by omega)
    have hs := (item_inverts readUInt256_inverts).read_write sig.s rest (by omega)
    rw [hnumber] at hparity
    simp only [readSignature, encodeSignature, List.append_assoc, hparity, bind, Except.bind, if_neg hlow, hr, hs, hvalue]
    rfl
  eq_write {input sig rest} hread := by
    unfold readSignature at hread
    obtain ⟨⟨parity, input1⟩, hparity, hread⟩ := bind_eq_ok.mp hread
    dsimp only at hread
    split at hread
    · nomatch hread
    rename_i hlow
    obtain ⟨⟨r, input2⟩, hr, hread⟩ := bind_eq_ok.mp hread
    obtain ⟨⟨s, input3⟩, hs, hread⟩ := bind_eq_ok.mp hread
    dsimp only at hs
    cases hread
    rw [(item_inverts readUInt8_inverts).eq_write hparity, (item_inverts readUInt256_inverts).eq_write hr,
      (item_inverts readUInt256_inverts).eq_write hs, encodeSignature, toNat_parity hlow]
    simp only [List.append_assoc]

/-! ## The nine items -/

/-- The items of a transaction, one by one; those of the signature come last. -/
def itemList (p : Payload) (priorityFee maxFee gasLimit : UInt256) (signature : Option Signature) : List Bytes :=
  [number 8 p.chainId.toNat, number 32 p.nonce.toNat, number 32 priorityFee.toNat, number 32 maxFee.toNat,
    number 32 gasLimit.toNat, string p.destinationBytes, number 32 p.value.toNat, string p.data,
    list (p.accessList.flatMap AccessItem.encode)] ++
  signature.elim [] fun sig => [number 1 sig.yParity.toNat, number 32 sig.r.toNat, number 32 sig.s.toNat]

/-- The items, one after another, make up the body. -/
theorem flatten_itemList (p : Payload) (priorityFee maxFee gasLimit : UInt256) (signature : Option Signature) :
    (p.itemList priorityFee maxFee gasLimit signature).flatten = p.encodeItems priorityFee maxFee gasLimit signature := by
  cases signature <;> simp [itemList, encodeItems, encodeSignature]

/-- There are three items more when there is a signature. -/
theorem length_itemList (p : Payload) (priorityFee maxFee gasLimit : UInt256) (signature : Option Signature) :
    (p.itemList priorityFee maxFee gasLimit signature).length =
      if signature.isSome then signedItems else unsignedItems := by
  cases signature <;> rfl

/-- Each of them is an item. -/
theorem isItem_of_mem_itemList {p : Payload} {priorityFee maxFee gasLimit : UInt256} {signature : Option Signature} :
    ∀ w ∈ p.itemList priorityFee maxFee gasLimit signature, IsItem w := by
  cases signature <;> simp [itemList, isItem_number, isItem_string, isItem_list]

/-- The items of a signature follow those of the transaction. -/
theorem encodeItems_eq (p : Payload) (priorityFee maxFee gasLimit : UInt256) (signature : Option Signature) :
    p.encodeItems priorityFee maxFee gasLimit signature =
      p.encodeItems priorityFee maxFee gasLimit none ++ encodeSignature signature := by
  simp [encodeItems, encodeSignature]

/-- Access lists are read back. -/
theorem readAccessList_inverts :
    Inverts (item (readListOf AccessItem.decode)) fun items => list (items.flatMap AccessItem.encode) :=
  item_inverts (readListOf_inverts AccessItem.decode_inverts AccessItem.encode_ne_nil)

/-- The items of a priced transaction are read back. -/
theorem readFields_encodeItems {p : Payload} {priorityFee maxFee gasLimit : UInt256}
    (hp : p.priorityFee = some priorityFee) (hm : p.maxFee = some maxFee) (hg : p.gasLimit = some gasLimit) (rest : Bytes)
    (hlen : (p.encodeItems priorityFee maxFee gasLimit none).length < 2 ^ 64) :
    readFields (p.encodeItems priorityFee maxFee gasLimit none ++ rest) = .ok (p, rest) := by
  simp only [encodeItems, encodeSignature, List.append_nil, List.length_append] at hlen
  simp only [encodeItems, encodeSignature, List.append_nil, List.append_assoc]
  have hamount := item_inverts readUInt256_inverts
  simp only [readFields, bind, Except.bind]
  rw [(item_inverts readUInt64_inverts).read_write p.chainId _ (by omega)]
  dsimp only
  rw [hamount.read_write p.nonce _ (by omega)]
  dsimp only
  rw [hamount.read_write priorityFee _ (by omega)]
  dsimp only
  rw [hamount.read_write maxFee _ (by omega)]
  dsimp only
  rw [hamount.read_write gasLimit _ (by omega)]
  dsimp only
  rw [destinationBytes, readDestination_inverts.read_write p.destination _ (by rw [destinationBytes] at hlen; omega)]
  dsimp only
  rw [hamount.read_write p.value _ (by omega)]
  dsimp only
  rw [(item_inverts readString_inverts).read_write p.data _ (by omega)]
  dsimp only
  rw [readAccessList_inverts.read_write p.accessList _ (by omega)]
  cases p
  cases hp
  cases hm
  cases hg
  rfl

/-- A transaction that is read is priced, and its items were written. -/
theorem readFields_eq_ok {input rest : Bytes} {p : Payload} (hread : readFields input = .ok (p, rest)) :
    ∃ priorityFee maxFee gasLimit, p.priorityFee = some priorityFee ∧ p.maxFee = some maxFee ∧
      p.gasLimit = some gasLimit ∧
      input = p.encodeItems priorityFee maxFee gasLimit none ++ rest := by
  have hamount := item_inverts readUInt256_inverts
  unfold readFields at hread
  obtain ⟨⟨chainId, input1⟩, h1, hread⟩ := bind_eq_ok.mp hread
  obtain ⟨⟨nonce, input2⟩, h2, hread⟩ := bind_eq_ok.mp hread
  obtain ⟨⟨priorityFee, input3⟩, h3, hread⟩ := bind_eq_ok.mp hread
  obtain ⟨⟨maxFee, input4⟩, h4, hread⟩ := bind_eq_ok.mp hread
  obtain ⟨⟨gasLimit, input5⟩, h5, hread⟩ := bind_eq_ok.mp hread
  obtain ⟨⟨destination, input6⟩, h6, hread⟩ := bind_eq_ok.mp hread
  obtain ⟨⟨value, input7⟩, h7, hread⟩ := bind_eq_ok.mp hread
  obtain ⟨⟨data, input8⟩, h8, hread⟩ := bind_eq_ok.mp hread
  obtain ⟨⟨accessList, input9⟩, h9, hread⟩ := bind_eq_ok.mp hread
  cases hread
  refine ⟨priorityFee, maxFee, gasLimit, rfl, rfl, rfl, ?_⟩
  rw [(item_inverts readUInt64_inverts).eq_write h1, hamount.eq_write h2, hamount.eq_write h3, hamount.eq_write h4,
    hamount.eq_write h5, readDestination_inverts.eq_write h6, hamount.eq_write h7,
    (item_inverts readString_inverts).eq_write h8, readAccessList_inverts.eq_write h9]
  simp only [encodeItems, destinationBytes, encodeSignature, List.append_nil, List.append_assoc]

/-! ## The whole encoding -/

/-- A list that makes up all of the input is read. -/
theorem readBody_list {body : Bytes} (hlen : body.length < 2 ^ 64) : readBody (list body) = .ok body := by
  have hheader := readHeader_item true hlen []
  rw [List.append_nil, List.append_nil, item_true] at hheader
  simp only [readBody, item, hheader, Except.mapError, bind, Except.bind]
  simp [pure, Except.pure]

/-- Nothing else is: no byte follows the list. -/
theorem readBody_eq_ok {input body : Bytes} (hread : readBody input = .ok body) :
    body.length < 2 ^ 64 ∧ input = list body := by
  unfold readBody at hread
  obtain ⟨⟨h, start⟩, hheader, hread⟩ := bind_eq_ok.mp hread
  dsimp only at hread
  split at hread
  · nomatch hread
  rename_i hlist
  split at hread
  · nomatch hread
  rename_i hlength
  cases hread
  have hheader' : readHeader input = .ok (h, body) := by
    unfold item at hheader
    cases hr : readHeader input with
    | error e => rw [hr] at hheader; nomatch hheader
    | ok x => rw [hr] at hheader; cases hheader; rfl
  obtain ⟨-, hlt, hin⟩ := readHeader_eq_ok hheader'
  have hall : h.length = body.length := (Decidable.not_not.mp hlength).symm
  have hkind : h.isList = true := by simpa using hlist
  rw [hall, hkind, List.take_length, List.drop_length, List.append_nil, item_true] at hin
  exact ⟨hall ▸ hlt, hin⟩

/-- The count of the items that were written, with nothing or more items behind them. -/
theorem countItems_encodeItems (p : Payload) (priorityFee maxFee gasLimit : UInt256)
    (signature : Option Signature) (rest : Bytes)
    (hlen : (p.encodeItems priorityFee maxFee gasLimit signature).length < 2 ^ 64) :
    ∃ fuel, countItems (p.encodeItems priorityFee maxFee gasLimit signature ++ rest).length
        (p.encodeItems priorityFee maxFee gasLimit signature ++ rest) =
      (countItems fuel rest).map (· + if signature.isSome then signedItems else unsignedItems) := by
  have hitems := @isItem_of_mem_itemList p priorityFee maxFee gasLimit signature
  have hfuel := length_le_length_flatten hitems
  rw [← flatten_itemList] at hlen ⊢
  obtain ⟨extra, hextra⟩ := Nat.exists_eq_add_of_le hfuel
  refine ⟨extra + rest.length, ?_⟩
  rw [← length_itemList p priorityFee maxFee gasLimit signature, ← countItems_append hitems hlen,
    List.length_append, hextra, Nat.add_assoc]

/-- An encoding is there when the transaction is priced, and is made of its items. -/
theorem encode_eq_ok {p : Payload} {signature : Option Signature} {raw : Bytes} :
    p.encode signature = .ok raw ↔
      ∃ priorityFee maxFee gasLimit, p.priorityFee = some priorityFee ∧ p.maxFee = some maxFee ∧
        p.gasLimit = some gasLimit ∧
        raw = typeByte :: list (p.encodeItems priorityFee maxFee gasLimit signature) := by
  unfold encode
  cases p.priorityFee <;> cases p.maxFee <;> cases p.gasLimit <;> simp [eq_comm]

/-- A payload can be encoded exactly when it is priced. -/
theorem isPriced_iff {p : Payload} {signature : Option Signature} :
    p.isPriced = true ↔ ∃ raw, p.encode signature = .ok raw := by
  unfold encode isPriced
  cases p.priorityFee <;> cases p.maxFee <;> cases p.gasLimit <;> simp

theorem decode_eq_ok {raw : Bytes} {x : Payload × Option Signature} : decode raw = .ok x ↔ decodeBytes raw = .ok x := by
  unfold decode
  cases decodeBytes raw <;> simp [Except.mapError]

/-- When the count is that of the items that were read, nothing is left behind them. -/
theorem rest_eq_nil {p : Payload} {priorityFee maxFee gasLimit : UInt256}
    {signature : Option Signature} {body rest : Bytes}
    (hbody : p.encodeItems priorityFee maxFee gasLimit signature ++ rest = body) (hlen : body.length < 2 ^ 64)
    (hcount : countItems body.length body = .ok (if signature.isSome then signedItems else unsignedItems)) :
    rest = [] := by
  subst hbody
  rw [List.length_append] at hlen
  obtain ⟨fuel, hsum⟩ := countItems_encodeItems p priorityFee maxFee gasLimit signature rest (by omega)
  rw [hcount] at hsum
  obtain ⟨n, hn, hzero⟩ := map_eq_ok.mp hsum.symm
  obtain rfl : n = 0 := by omega
  exact countItems_eq_zero hn

/-- What is encoded is decoded again, if a header can tell its length. -/
theorem decode_of_encode {p : Payload} {signature : Option Signature} {raw : Bytes} (henc : p.encode signature = .ok raw)
    (hlen : raw.length < 2 ^ 64) : decode raw = .ok (p, signature) := by
  obtain ⟨priorityFee, maxFee, gasLimit, hp, hm, hg, rfl⟩ := encode_eq_ok.mp henc
  have hsplit := encodeItems_eq p priorityFee maxFee gasLimit signature
  have hsum := congrArg List.length hsplit
  have hbody : (p.encodeItems priorityFee maxFee gasLimit signature).length < 2 ^ 64 :=
    Nat.lt_of_le_of_lt (length_le_length_item true _) (Nat.lt_of_succ_lt hlen)
  rw [List.length_append] at hsum
  obtain ⟨fuel, hcount⟩ := countItems_encodeItems p priorityFee maxFee gasLimit signature [] hbody
  have hnone : countItems fuel [] = .ok 0 := by cases fuel <;> rfl
  have hfields := readFields_encodeItems hp hm hg (encodeSignature signature) (by omega)
  rw [List.append_nil, hnone] at hcount
  rw [← hsplit] at hfields
  rw [decode_eq_ok]
  simp only [decodeBytes, readBody_list hbody, hcount, hfields, bind, Except.bind, Except.map, Except.mapError]
  cases signature with
  | none => simp [unsignedItems, signedItems, pure, Except.pure]
  | some sig =>
    have hsig := readSignature_inverts.read_write sig [] (by omega)
    rw [List.append_nil] at hsig
    simp [unsignedItems, signedItems, pure, Except.pure, hsig]

/-- What is decoded was encoded so. -/
theorem encode_of_decode {p : Payload} {signature : Option Signature} {raw : Bytes}
    (hdec : decode raw = .ok (p, signature)) :
    p.encode signature = .ok raw := by
  rw [decode_eq_ok] at hdec
  cases raw with
  | nil => nomatch hdec
  | cons type input =>
    unfold decodeBytes at hdec
    dsimp only at hdec
    split at hdec
    · nomatch hdec
    rename_i htype
    obtain ⟨body, hbody, hcounted⟩ := bind_eq_ok.mp hdec
    obtain ⟨count, hcount, hread⟩ := bind_eq_ok.mp hcounted
    obtain ⟨hlen, rfl⟩ := readBody_eq_ok hbody
    have hcount' : countItems body.length body = .ok count := by
      cases h : countItems body.length body with
      | error e => rw [h] at hcount; nomatch hcount
      | ok n => rw [h] at hcount; cases hcount; rfl
    split at hread
    · nomatch hread
    rename_i hrange
    obtain ⟨⟨p', rest⟩, hfields, hlast⟩ := bind_eq_ok.mp hread
    obtain ⟨priorityFee, maxFee, gasLimit, hp, hm, hg, hin⟩ := readFields_eq_ok hfields
    obtain rfl : type = typeByte := Decidable.not_not.mp htype
    dsimp only at hlast
    split at hlast
    · -- twelve items: those of the signature follow
      rename_i hsigned
      obtain ⟨⟨sig, rest'⟩, hsig, hpair⟩ := bind_eq_ok.mp hlast
      cases hpair
      have hrest := readSignature_inverts.eq_write hsig
      have hall : p.encodeItems priorityFee maxFee gasLimit (some sig) ++ rest' = body := by
        rw [hin, hrest, ← List.append_assoc, ← encodeItems_eq]
      rw [hsigned] at hcount'
      rw [rest_eq_nil hall hlen hcount', List.append_nil] at hall
      exact encode_eq_ok.mpr ⟨priorityFee, maxFee, gasLimit, hp, hm, hg, by rw [hall]⟩
    · -- nine items: nothing follows
      rename_i hsigned
      cases hlast
      have hunsigned : count = unsignedItems := by
        by_cases h : count = unsignedItems
        · exact h
        · exact absurd ⟨h, hsigned⟩ hrange
      rw [hunsigned] at hcount'
      rw [rest_eq_nil hin.symm hlen hcount', List.append_nil] at hin
      exact encode_eq_ok.mpr ⟨priorityFee, maxFee, gasLimit, hp, hm, hg, by rw [hin]⟩

/-! ## Main statements -/

/-- Every priced payload has an encoding, with a signature or without, and the payload and the signature are read back
from it. -/
theorem decode_encode_of_isPriced (p : Payload) (signature : Option Signature) (hp : p.isPriced = true) :
    ∃ raw, p.encode signature = .ok raw ∧ (raw.length < 2 ^ 64 → decode raw = .ok (p, signature)) := by
  obtain ⟨raw, henc⟩ := isPriced_iff.mp hp
  exact ⟨raw, henc, decode_of_encode henc⟩

/-- A creation whose access list has 56 bytes, the shortest payload with a long header. -/
def longListed : Payload where
  chainId := 1
  nonce := UInt256.zero
  priorityFee := some (.ofUInt64 127)
  maxFee := some (.ofUInt64 128)
  gasLimit := some UInt256.max
  destination := none
  value := .ofUInt64 255
  data := [0x7f]
  accessList := [⟨.replicate 20 0x11, [.replicate 32 0]⟩]

/-- A signature out of range, with the odd parity. -/
def unitSignature : Signature := ⟨.ofUInt64 1, .max, true⟩

/-- The encoding of `longListed` with `unitSignature`. -/
def longListedBytes : Bytes :=
  [0x02, 0xf8, 0x87, 0x01, 0x80, 0x7f, 0x81, 0x80, 0xa0] ++ List.replicate 32 0xff ++ [0x80, 0x81, 0xff, 0x7f] ++
    [0xf8, 0x38, 0xf7, 0x94] ++ List.replicate 20 0x11 ++ [0xe1, 0xa0] ++ List.replicate 32 0 ++
    [0x01, 0x01, 0xa0] ++ List.replicate 32 0xff

/-- A transaction with an access list of 56 bytes, the shortest one with a long header, is read back. -/
theorem decode_encode_longListed :
    longListed.isPriced = true ∧
      ∃ raw, longListed.encode (some unitSignature) = .ok raw ∧ raw.length < 2 ^ 64 ∧
        decode raw = .ok (longListed, some unitSignature) := by
  have hp : longListed.isPriced = true := rfl
  obtain ⟨raw, henc, hdec⟩ := decode_encode_of_isPriced longListed (some unitSignature) hp
  have hbytes : longListed.encode (some unitSignature) = .ok longListedBytes := by decide +kernel
  have hraw : raw = longListedBytes := Except.ok.inj (henc.symm.trans hbytes)
  have hlen : raw.length < 2 ^ 64 := by
    rw [hraw]
    decide +kernel
  exact ⟨hp, raw, henc, hlen, hdec hlen⟩

/-- Whatever is read is, byte for byte, the encoding of what is read, so no other bytes are read as the same. -/
theorem encode_eq_of_decode_eq (raw : Bytes) (p : Payload) (signature : Option Signature)
    (hdec : decode raw = .ok (p, signature)) :
    p.encode signature = .ok raw ∧ ∀ raw', decode raw' = .ok (p, signature) → raw' = raw := by
  have henc := encode_of_decode hdec
  refine ⟨henc, fun raw' hdec' => ?_⟩
  have henc' := encode_of_decode hdec'
  rw [henc] at henc'
  exact (Except.ok.inj henc').symm

/-- What is read of such an encoding is encoded to the same bytes, and no others are read as it. -/
theorem encode_longListedBytes :
    decode longListedBytes = .ok (longListed, some unitSignature) ∧
      longListed.encode (some unitSignature) = .ok longListedBytes ∧
      ∀ raw', decode raw' = .ok (longListed, some unitSignature) → raw' = longListedBytes := by
  have hdec : decode longListedBytes = .ok (longListed, some unitSignature) := by decide +kernel
  exact ⟨hdec, encode_eq_of_decode_eq longListedBytes longListed (some unitSignature) hdec⟩

end Payload

end DynamicFeeWallet
