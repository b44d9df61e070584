import DynamicFeeWallet.Proofs.Rlp.Checked
import DynamicFeeWallet.Proofs.Text.Hex
import DynamicFeeWallet.Proofs.Transaction.Encoding
import DynamicFeeWallet.Transaction.Basic

/-!
# Reading any bytes at all

Whatever bytes are given, `Payload.decode` comes to an end with a transaction or with a reason: the same reading with
every slice, every difference, every copy and every loop checked (`Payload.checkedDecode`) is never stopped, and comes
to the same. A failure names the bytes in lower-case hexadecimal, and a text that is not hexadecimal is named as it
is.
-/

namespace DynamicFeeWallet

open Rlp Checked

namespace AccessItem

/-- An item of an access list. What its parts take up is a difference of what is left. -/
def checkedDecode (input : Bytes) : Checked DecodeError (AccessItem × Bytes) := do
  let (h, start) ← checkedHeader input
  if h.isList then
    let (address, rest) ← checkedString (fixedOf 20) start
    let (keys, rest) ← checkedListOf (checkedString (fixedOf 32)) rest
    let consumed ← difference start.length rest.length
    if consumed = h.length then return (⟨address, keys⟩, rest) else throw (.listLength consumed h.length)
  else throw .unexpectedString

/-- An item of an access list is read without a stop: its parts take up no more than there is. -/
theorem checkedDecode_eq (input : Bytes) : checkedDecode input = sound (decode input) := by
  refine bind_eq (checkedHeader_eq input) fun (h, start) hheader => ?_
  dsimp only
  split
  · refine bind_eq (checkedString_eq (readFixed_eq_bind 20) start) fun (address, rest) haddress => ?_
    have hkeys := checkedListOf_eq (checkedString_eq (readFixed_eq_bind 32)) (readFixed_inverts 32)
      (fun key => item_ne_nil false key.toBytes) rest
    refine bind_eq hkeys fun (keys, rest') hread => ?_
    dsimp only at hread ⊢
    have hle : rest'.length ≤ start.length := by
      rw [(readFixed_inverts 20).eq_write haddress, readKeys_inverts.eq_write hread,
        List.length_append, List.length_append]
      omega
    rw [difference_of_le hle, sound_ok_bind]
    split <;> rfl
  · rfl

end AccessItem

namespace Payload

/-- Reading a part of a transaction. -/
abbrev CheckedReader (α : Type) := Bytes → Checked FormatError (α × Bytes)

/-- An item that is read on its own. -/
def checkedItem {α : Type} (read : Bytes → Checked DecodeError (α × Bytes)) : CheckedReader α := fun input =>
  mapError .badItem (read input)

/-- The destination; only what has the length of an address is copied into one. -/
def checkedDestination : CheckedReader (Option Address) := fun input => do
  let (bytes, rest) ← checkedItem (checkedPayload false) input
  match bytes with
  | [] => return (none, rest)
  | bytes => if bytes.length = 20 then return (some (← copy 20 bytes), rest) else throw (.destinationLength bytes.length)

/-- The nine items of a transaction. -/
def checkedFields : CheckedReader Payload := fun input => do
  let amount := checkedItem (checkedString amountOf)
  let (chainId, input) ← checkedItem (checkedString fun bytes => (numberOf 8 bytes).map UInt64.ofNat) input
  let (nonce, input) ← amount input
  let (priorityFee, input) ← amount input
  let (maxFee, input) ← amount input
  let (gasLimit, input) ← amount input
  let (destination, input) ← checkedDestination input
  let (value, input) ← amount input
  let (data, input) ← checkedItem (checkedPayload false) input
  let (accessList, input) ← checkedItem (checkedListOf AccessItem.checkedDecode) input
  return (⟨chainId, nonce, some priorityFee, some maxFee, some gasLimit, destination, value, data, accessList⟩, input)

/-- The three items of a signature. -/
def checkedSignature : CheckedReader Signature := fun input => do
  let (parity, input) ← checkedItem (checkedString fun bytes => (numberOf 1 bytes).map UInt8.ofNat) input
  if 1 < parity then throw (.badParity parity)
  let (r, input) ← checkedItem (checkedString amountOf) input
  let (s, input) ← checkedItem (checkedString amountOf) input
  return (⟨r, s, parity == 1⟩, input)

/-- The payload of the list that makes up all of the input; what follows the list is a difference. -/
def checkedBody (input : Bytes) : Checked FormatError Bytes := do
  let (h, body) ← checkedItem checkedHeader input
  if !h.isList then throw .notList
  else if body.length ≠ h.length then do throw (.trailing (← difference body.length h.length))
  else return body

/-- An encoding; its items are counted before they are read. -/
def checkedBytes : Bytes → Checked FormatError (Payload × Option Signature)
  | [] => throw .empty
  | type :: rest => do
    if type ≠ typeByte then throw (.unknownType type)
    let body ← checkedBody rest
    let count ← mapError .badItem (checkedCount body.length body)
    if count ≠ unsignedItems ∧ count ≠ signedItems then throw (.itemCount count)
    let (payload, rest) ← checkedFields body
    if count = signedItems then
      let (signature, _) ← checkedSignature rest
      return (payload, some signature)
    else return (payload, none)

/-- An encoding; a failure names it. -/
def checkedDecode (raw : Bytes) : Checked TransactionError (Payload × Option Signature) :=
  mapError (fun error => .badFormat error (Hex.encode raw)) (checkedBytes raw)

/-! ## Nothing is stopped -/

/-- What is read without a stop is so as an item of its own. -/
theorem checkedItem_eq {α : Type} {read : Rlp.Reader α} {checked : Bytes → Checked DecodeError (α × Bytes)}
    (h : ∀ input, checked input = sound (read input)) (input : Bytes) :
    checkedItem checked input = sound (item read input) := by
  rw [checkedItem, h]
  rfl

theorem checkedAmount_eq (input : Bytes) : checkedItem (checkedString amountOf) input = sound (item readUInt256 input) :=
  checkedItem_eq (checkedString_eq readUInt256_eq_bind) input

/-- A destination is copied only from as many bytes as an address has. -/
theorem checkedDestination_eq (input : Bytes) : checkedDestination input = sound (readDestination input) := by
  refine bind_eq (checkedItem_eq (checkedPayload_eq false) input) fun (bytes, rest) _ => ?_
  cases bytes with
  | nil => rfl
  | cons b bytes =>
    dsimp only [FixedBytes.ofBytes?]
    split
    · rename_i hlength
      rw [copy_of_length_eq hlength]
      rfl
    · rfl

/-- The nine items are read without a stop, one after another. -/
theorem checkedFields_eq (input : Bytes) : checkedFields input = sound (readFields input) := by
  have haccess (input : Bytes) :=
    checkedListOf_eq AccessItem.checkedDecode_eq AccessItem.decode_inverts AccessItem.encode_ne_nil input
  refine bind_eq (checkedItem_eq (checkedString_eq readUInt64_eq_bind) input) fun (chainId, input) _ => ?_
  refine bind_eq (checkedAmount_eq input) fun (nonce, input) _ => ?_
  refine bind_eq (checkedAmount_eq input) fun (priorityFee, input) _ => ?_
  refine bind_eq (checkedAmount_eq input) fun (maxFee, input) _ => ?_
  refine bind_eq (checkedAmount_eq input) fun (gasLimit, input) _ => ?_
  refine bind_eq (checkedDestination_eq input) fun (destination, input) _ => ?_
  refine bind_eq (checkedAmount_eq input) fun (value, input) _ => ?_
  refine bind_eq (checkedItem_eq (checkedPayload_eq false) input) fun (data, input) _ => ?_
  exact bind_eq (checkedItem_eq haccess input) fun _ _ => rfl

/-- The items of a signature are read without a stop. -/
theorem checkedSignature_eq (input : Bytes) : checkedSignature input = sound (readSignature input) := by
  refine bind_eq (checkedItem_eq (checkedString_eq readUInt8_eq_bind) input) fun (parity, input) _ => ?_
  dsimp only
  split
  · rfl
  refine bind_eq (checkedAmount_eq input) fun (r, input) _ => ?_
  exact bind_eq (checkedAmount_eq input) fun _ _ => rfl

/-- The bytes after a list are counted only once the list is known to be there. -/
theorem checkedBody_eq (input : Bytes) : checkedBody input = sound (readBody input) := by
  refine bind_eq (checkedItem_eq checkedHeader_eq input) fun (h, body) hr => ?_
  have hle : h.length ≤ body.length := (readHeader_progress (mapError_eq_ok.mp hr)).1
  dsimp only
  split
  · rfl
  split
  · rw [difference_of_le hle]
    rfl
  · rfl

/-- An encoding is read without a stop, and its items are counted without one. -/
theorem checkedBytes_eq (raw : Bytes) : checkedBytes raw = sound (decodeBytes raw) := by
  cases raw with
  | nil => rfl
  | cons type rest =>
    unfold checkedBytes decodeBytes
    dsimp only
    split
    · rfl
    refine bind_eq (checkedBody_eq rest) fun body _ => ?_
    have hcount : mapError FormatError.badItem (checkedCount body.length body) =
        sound ((countItems body.length body).mapError .badItem) := by
      rw [checkedCount_eq le_rfl, mapError_sound]
    refine bind_eq hcount fun count _ => ?_
    split
    · rfl
    refine bind_eq (checkedFields_eq body) fun (payload, rest) _ => ?_
    dsimp only
    split
    · exact bind_eq (checkedSignature_eq rest) fun _ _ => rfl
    · rfl

/-! ## What is said -/

/-- Bytes that are no transaction are named in lower case, after the mark. -/
theorem decode_eq_ok_or_badFormat (raw : Bytes) :
    (∃ x, decode raw = .ok x) ∨
      ∃ reason digits, decode raw = .error (.badFormat reason (String.ofList ('0' :: 'x' :: digits))) ∧
      Hex.Spells digits raw ∧ ∀ c ∈ digits, c ∈ Hex.smallDigits := by
  unfold decode
  cases decodeBytes raw with
  | ok x => exact .inl ⟨x, rfl⟩
  | error reason => exact .inr ⟨reason, Hex.digits raw, rfl, rfl, Hex.mem_smallDigits_of_mem_digits⟩

/-- A text is read as the bytes that it spells, or else it is named. -/
theorem decodeHex_cases (level : CheckLevel) (text : String) :
    (∃ raw, Hex.Spells (Hex.unmarked text.toList) raw ∧ Transaction.decodeHex level text = Transaction.decode level raw) ∨
      (∀ raw, ¬Hex.Spells (Hex.unmarked text.toList) raw) ∧
        ∃ error, Transaction.decodeHex level text = .error (.badFormat (.notHex error) text) := by
  unfold Transaction.decodeHex
  cases hread : Hex.decode text with
  | ok raw => exact .inl ⟨raw, Hex.decode_eq_ok.mp hread, rfl⟩
  | error error =>
    refine .inr ⟨fun raw hspells => ?_, error, rfl⟩
    rw [Hex.decode_eq_ok.mpr hspells] at hread
    nomatch hread

/-- Reading comes to an end with a transaction or a reason, whatever the bytes are. No slice, difference, copy or loop
of it goes wrong: each round of the count takes off what a header announces, which is there, and leaves less. A
failure names its bytes in lower-case hexadecimal, and a text that spells no bytes fails with itself. -/
theorem decode_total (raw : Bytes) :
    checkedDecode raw = sound (decode raw) ∧
      (∀ (fuel : Nat) (input : Bytes), input ≠ [] →
        (∃ error, readHeader input = .error error ∧ countItems (fuel + 1) input = .error error) ∨
          ∃ h rest, readHeader input = .ok (h, rest) ∧ h.length ≤ rest.length ∧
            (rest.drop h.length).length < input.length ∧
            countItems (fuel + 1) input = (countItems fuel (rest.drop h.length)).map (· + 1)) ∧
      ((∃ x, decode raw = .ok x) ∨ ∃ reason digits,
        decode raw = .error (.badFormat reason (String.ofList ('0' :: 'x' :: digits))) ∧
          Hex.Spells digits raw ∧ ∀ c ∈ digits, c ∈ Hex.smallDigits) ∧
      ∀ (level : CheckLevel) (text : String),
        (∃ raw, Hex.Spells (Hex.unmarked text.toList) raw ∧
          Transaction.decodeHex level text = Transaction.decode level raw) ∨
          (∀ raw, ¬Hex.Spells (Hex.unmarked text.toList) raw) ∧
            ∃ error, Transaction.decodeHex level text = .error (.badFormat (.notHex error) text) := by
  refine ⟨?_, fun fuel _ hne => countItems_step fuel hne, decode_eq_ok_or_badFormat raw, decodeHex_cases⟩
  rw [checkedDecode, checkedBytes_eq, mapError_sound]
  rfl

/-- A byte that stands for itself where a list has to be is named; and the same byte, as the only item, is counted. -/
theorem decode_total_notList :
    decode [0x02, 0x01] = .error (.badFormat .notList "0x0201") ∧
      checkedDecode [0x02, 0x01] = sound (.error (.badFormat .notList "0x0201")) ∧
      ∃ h rest, readHeader [0x01] = .ok (h, rest) ∧ h.length ≤ rest.length ∧ (rest.drop h.length).length < 1 := by
  have hdecode : decode [0x02, 0x01] = .error (.badFormat .notList "0x0201") := by decide +kernel
  obtain ⟨hsound, hstep, -, -⟩ := decode_total [0x02, 0x01]
  refine ⟨hdecode, hdecode ▸ hsound, ?_⟩
  rcases hstep 0 [0x01] (List.cons_ne_nil _ _) with ⟨error, hread, -⟩ | ⟨h, rest, hread, hle, hless, -⟩
  · nomatch hread
  · exact ⟨h, rest, hread, hle, hless⟩

end Payload

end DynamicFeeWallet
