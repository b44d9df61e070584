import DynamicFeeWallet.Proofs.Rlp.Item

/-!
# Readers and writers

`Inverts read write` says that a reader takes back exactly what a writer writes: it reads every written value,
whatever follows (`read_write`), and it reads nothing else (`eq_write`). The readers of strings, numbers, fixed bytes
and lists invert their writers, so each value has one encoding. Only what is shorter than `2 ^ 64` bytes can be read
back, since no header tells more.
-/

namespace DynamicFeeWallet

/-- Two steps that may fail succeed together when the first one does and the second one does after it. -/
theorem bind_eq_ok {ε α β : Type} {x : Except ε α} {f : α → Except ε β} {b : β} :
    (x >>= f) = .ok b ↔ ∃ a, x = .ok a ∧ f a = .ok b := by
  cases x with
  | error e => simp [bind, Except.bind]
  | ok a => simp [bind, Except.bind]

/-- What is made of a result is there when the result is. -/
theorem map_eq_ok {ε α β : Type} {x : Except ε α} {f : α → β} {b : β} : x.map f = .ok b ↔ ∃ a, x = .ok a ∧ f a = b := by
  cases x with
  | error e => simp [Except.map]
  | ok a => simp [Except.map]

/-- Another word for an error makes no result. -/
theorem mapError_eq_ok {ε ε' α : Type} {x : Except ε α} {f : ε → ε'} {a : α} : x.mapError f = .ok a ↔ x = .ok a := by
  cases x with
  | error e => simp [Except.mapError]
  | ok a => simp [Except.mapError]

namespace Rlp

/-- A reader takes back exactly what a writer writes, and leaves what follows. -/
structure Inverts {ε α : Type} (read : Bytes → Except ε (α × Bytes)) (write : α → Bytes) : Prop where
  /-- What is written is read back, whatever follows it. -/
  read_write : ∀ (a : α) (rest : Bytes), (write a).length < 2 ^ 64 → read (write a ++ rest) = .ok (a, rest)
  /-- What is read was written. -/
  eq_write : ∀ {input : Bytes} {a : α} {rest : Bytes}, read input = .ok (a, rest) → input = write a ++ rest

variable {ε α β : Type}

/-- A reader that goes on to check what it read inverts the writer of what passes. -/
theorem Inverts.refine {read : Bytes → Except ε (α × Bytes)} {write : α → Bytes} (h : Inverts read write)
    {read' : Bytes → Except ε (β × Bytes)} (check : α → Except ε β) (f : β → α)
    (hread : ∀ input, read' input = read input >>= fun x => (check x.1).map (·, x.2))
    (hcheck : ∀ a b, check a = .ok b ↔ a = f b) : Inverts read' fun b => write (f b) where
  read_write b rest hlen := by
    rw [hread, h.read_write (f b) rest hlen]
    show (check (f b)).map (·, rest) = .ok (b, rest)
    rw [(hcheck (f b) b).mpr rfl]
    rfl
  eq_write {input b rest} hr := by
    rw [hread] at hr
    obtain ⟨⟨a, rest'⟩, hra, hc⟩ := bind_eq_ok.mp hr
    obtain ⟨b', hb', he⟩ := map_eq_ok.mp hc
    cases he
    rw [h.eq_write hra, (hcheck a b).mp hb']

/-! ## Strings and numbers -/

/-- Payloads of either kind. -/
theorem readPayload_inverts (isList : Bool) : Inverts (readPayload isList) (item isList) where
  read_write payload rest hlen := by
    have hle := length_le_length_item isList payload
    have hlt : payload.length < 2 ^ 64 := by omega
    simp [readPayload, readHeader_item isList hlt rest, bind, Except.bind, pure, Except.pure]
  eq_write {input payload rest} hr := by
    unfold readPayload at hr
    obtain ⟨⟨h, start⟩, hh, hk⟩ := bind_eq_ok.mp hr
    obtain ⟨-, -, hin⟩ := readHeader_eq_ok hh
    simp only at hk
    split at hk
    · rename_i hkind
      cases hk
      rw [hin, hkind]
    · nomatch hk

/-- Strings are read back. -/
theorem readString_inverts : Inverts readString string := readPayload_inverts false

/-- A byte string is the shortest writing of a number when it has no leading zero and is not too long. -/
theorem eq_minimal_iff {width n : Nat} {bytes : Bytes} (hn : n < 256 ^ width) :
    bytes = Bytes.minimal width n ↔ bytes.length ≤ width ∧ bytes.head? ≠ some 0 ∧ Bytes.toNat bytes = n := by
  constructor
  · rintro rfl
    exact ⟨Bytes.length_minimal_le width n, Bytes.head?_minimal width n, Bytes.toNat_minimal hn⟩
  · rintro ⟨hlen, hzero, rfl⟩
    exact (Bytes.minimal_toNat hzero hlen).symm

/-- The number of at most `width` bytes that a string writes. -/
def numberOf (width : Nat) (bytes : Bytes) : Except DecodeError Nat :=
  if width < bytes.length then .error .overflow
  else if bytes.head? = some 0 then .error .leadingZero
  else .ok (Bytes.toNat bytes)

/-- The bytes of a number are the fewest that have it. -/
theorem numberOf_eq_ok {width n : Nat} {bytes : Bytes} :
    numberOf width bytes = .ok n ↔ n < 256 ^ width ∧ bytes = Bytes.minimal width n := by
  constructor
  · intro h
    unfold numberOf at h
    split at h
    · nomatch h
    split at h
    · nomatch h
    rename_i hlen hzero
    cases h
    have hlt : Bytes.toNat bytes < 256 ^ width :=
      Nat.lt_of_lt_of_le (Bytes.toNat_lt bytes) (Nat.pow_le_pow_right (by decide) (by omega))
    exact ⟨hlt, (eq_minimal_iff hlt).mpr ⟨by omega, hzero, rfl⟩⟩
  · rintro ⟨hn, hb⟩
    obtain ⟨hlen, hzero, hvalue⟩ := (eq_minimal_iff hn).mp hb
    rw [numberOf, if_neg (by omega), if_neg hzero, hvalue]

/-- A reader of numbers of a width, for values that are as many as these numbers. -/
theorem readNumber_inverts {read : Reader α} {width : Nat} {ofNat : Nat → α} {toNat : α → Nat}
    (hread : ∀ input, read input = readString input >>= fun x => ((numberOf width x.1).map ofNat).map (·, x.2))
    (hrange : ∀ a, toNat a < 256 ^ width) (hto : ∀ n < 256 ^ width, toNat (ofNat n) = n)
    (hof : ∀ a, ofNat (toNat a) = a) :
    Inverts read fun a => number width (toNat a) := by
  refine readString_inverts.refine (fun bytes => (numberOf width bytes).map ofNat)
    (fun a => Bytes.minimal width (toNat a)) hread ?_
  intro bytes a
  rw [map_eq_ok]
  constructor
  · rintro ⟨n, hn, rfl⟩
    obtain ⟨hlt, hb⟩ := numberOf_eq_ok.mp hn
    rw [hb, hto n hlt]
  · intro hb
    exact ⟨toNat a, numberOf_eq_ok.mpr ⟨hrange a, hb⟩, hof a⟩

theorem readUInt64_eq_bind (input : Bytes) :
    readUInt64 input = readString input >>= fun x => ((numberOf 8 x.1).map UInt64.ofNat).map (·, x.2) := by
  refine bind_congr fun (bytes, rest) => ?_
  simp only [numberOf]
  split
  · rfl
  split <;> rfl

/-- Numbers of 64 bits are read back. -/
theorem readUInt64_inverts : Inverts readUInt64 fun n => number 8 n.toNat :=
  readNumber_inverts readUInt64_eq_bind UInt64.toNat_lt (fun _ hn => UInt64.toNat_ofNat_of_lt' hn)
    fun _ => UInt64.ofNat_toNat

theorem readUInt8_eq_bind (input : Bytes) :
    readUInt8 input = readString input >>= fun x => ((numberOf 1 x.1).map UInt8.ofNat).map (·, x.2) := by
  refine bind_congr fun (bytes, rest) => ?_
  simp only [numberOf]
  split
  · rfl
  split <;> rfl

/-- Numbers of 8 bits are read back. -/
theorem readUInt8_inverts : Inverts readUInt8 fun n => number 1 n.toNat :=
  readNumber_inverts readUInt8_eq_bind UInt8.toNat_lt (fun _ hn => UInt8.toNat_ofNat_of_lt' hn) fun _ => UInt8.ofNat_toNat

/-- The amount that a string writes; its range is what bounds its length. -/
def amountOf (bytes : Bytes) : Except DecodeError UInt256 :=
  if bytes.head? = some 0 then .error .leadingZero
  else
    match UInt256.ofNat? (Bytes.toNat bytes) with
    | some amount => .ok amount
    | none => .error .overflow

/-- The bytes of an amount are the fewest that have it. -/
theorem amountOf_eq_ok (bytes : Bytes) (a : UInt256) : amountOf bytes = .ok a ↔ bytes = Bytes.minimal 32 a.toNat := by
  have hrange : a.toNat < 256 ^ 32 := a.toNat_lt
  rw [eq_minimal_iff hrange]
  constructor
  · intro h
    unfold amountOf at h
    split at h
    · nomatch h
    rename_i hzero
    split at h
    · rename_i amount hamount
      cases h
      have hvalue := UInt256.ofNat?_eq_some_iff.mp hamount
      exact ⟨Bytes.length_le_of_toNat_lt hzero (hvalue ▸ hrange), hzero, hvalue.symm⟩
    · nomatch h
  · rintro ⟨-, hzero, hvalue⟩
    rw [amountOf, if_neg hzero, UInt256.ofNat?_eq_some_iff.mpr hvalue.symm]

theorem readUInt256_eq_bind (input : Bytes) :
    readUInt256 input = readString input >>= fun x => (amountOf x.1).map (·, x.2) := by
  refine bind_congr fun (bytes, rest) => ?_
  simp only [amountOf]
  split
  · rfl
  cases UInt256.ofNat? (Bytes.toNat bytes) <;> rfl

/-- Amounts are read back. -/
theorem readUInt256_inverts : Inverts readUInt256 fun a => number 32 a.toNat :=
  readString_inverts.refine amountOf (fun a => Bytes.minimal 32 a.toNat) readUInt256_eq_bind amountOf_eq_ok

/-- The string as one of exactly `n` bytes. -/
def fixedOf (n : Nat) (bytes : Bytes) : Except DecodeError (FixedBytes n) :=
  match FixedBytes.ofBytes? n bytes with
  | some fixed => .ok fixed
  | none => .error .wrongLength

/-- As many bytes as are wanted are taken as they are. -/
theorem fixedOf_eq_ok {n : Nat} (bytes : Bytes) (b : FixedBytes n) : fixedOf n bytes = .ok b ↔ bytes = b.toBytes := by
  rw [eq_comm (a := bytes), ← FixedBytes.ofBytes?_eq_some_iff]
  unfold fixedOf
  cases FixedBytes.ofBytes? n bytes <;> simp

theorem readFixed_eq_bind (n : Nat) (input : Bytes) :
    readFixed n input = readString input >>= fun x => (fixedOf n x.1).map (·, x.2) := by
  refine bind_congr fun (bytes, rest) => ?_
  simp only [fixedOf]
  cases FixedBytes.ofBytes? n bytes <;> rfl

/-- Byte strings of a fixed length are read back. -/
theorem readFixed_inverts (n : Nat) : Inverts (readFixed n) fun b => string b.toBytes :=
  readString_inverts.refine (fixedOf n) FixedBytes.toBytes (readFixed_eq_bind n) fixedOf_eq_ok

/-! ## Lists -/

variable {read : Reader α} {write : α → Bytes}

/-- A payload that is read item by item is made of written items. -/
theorem readAll_eq_ok (h : Inverts read write) {fuel : Nat} {input : Bytes} {as : List α}
    (hr : readAll read fuel input = .ok as) : input = as.flatMap write := by
  induction fuel generalizing input as with
  | zero =>
    cases input with
    | nil => cases hr; rfl
    | cons b rest => nomatch hr
  | succ fuel ih =>
    cases input with
    | nil => cases hr; rfl
    | cons b tail =>
      unfold readAll at hr
      obtain ⟨⟨a, rest⟩, ha, hrest⟩ := bind_eq_ok.mp hr
      obtain ⟨as', has', he⟩ := bind_eq_ok.mp hrest
      cases he
      rw [h.eq_write ha, ih has', List.flatMap_cons]

/-- Written items are read one by one, when none of them is empty. -/
theorem readAll_flatMap (h : Inverts read write) (hne : ∀ a, write a ≠ []) {fuel : Nat} {as : List α}
    (hfuel : as.length ≤ fuel) (hlen : (as.flatMap write).length < 2 ^ 64) :
    readAll read fuel (as.flatMap write) = .ok as := by
  induction as generalizing fuel with
  | nil => cases fuel <;> rfl
  | cons a as ih =>
    rw [List.flatMap_cons, List.length_append] at hlen
    obtain ⟨fuel, rfl⟩ : ∃ n, fuel = n + 1 := ⟨fuel - 1, by simp at hfuel; omega⟩
    have hread := h.read_write a (as.flatMap write) (by omega)
    have hfuel' : as.length ≤ fuel := by simpa using hfuel
    have hrest := ih hfuel' (by omega)
    rw [List.flatMap_cons]
    generalize hin : write a ++ as.flatMap write = input at hread
    cases input with
    | nil => exact absurd (List.append_eq_nil_iff.mp hin).1 (hne a)
    | cons b tail =>
      simp only [readAll, hread, hrest, bind, Except.bind, pure, Except.pure]

/-- Items that are not empty are no more than what they take up. -/
theorem length_le_length_flatMap (hne : ∀ a, write a ≠ []) (as : List α) : as.length ≤ (as.flatMap write).length := by
  induction as with
  | nil => simp
  | cons a as ih =>
    have hpos := List.length_pos_iff.mpr (hne a)
    rw [List.flatMap_cons, List.length_append, List.length_cons]
    omega

/-- Lists whose items are read alike. -/
theorem readListOf_inverts (h : Inverts read write) (hne : ∀ a, write a ≠ []) :
    Inverts (readListOf read) fun as => list (as.flatMap write) where
  read_write as rest hlen := by
    have hle : (as.flatMap write).length ≤ (list (as.flatMap write)).length := length_le_length_item true _
    have hpayload : readPayload true (list (as.flatMap write) ++ rest) = .ok (as.flatMap write, rest) :=
      (readPayload_inverts true).read_write (as.flatMap write) rest hlen
    have hall := readAll_flatMap h hne (length_le_length_flatMap hne as) (by omega)
    simp only [readListOf, hpayload, hall, bind, Except.bind, pure, Except.pure]
  eq_write {input as rest} hr := by
    unfold readListOf at hr
    obtain ⟨⟨payload, rest'⟩, hp, hall⟩ := bind_eq_ok.mp hr
    obtain ⟨as', has', he⟩ := bind_eq_ok.mp hall
    cases he
    rw [(readPayload_inverts true).eq_write hp, readAll_eq_ok h has']
    rfl

end Rlp

end DynamicFeeWallet
