import DynamicFeeWallet.Proofs.BigEndian
import DynamicFeeWallet.Rlp.Decode

/-!
# The headers of items

`Rlp.readHeader` reads the header of every item that `Rlp.string` and `Rlp.list` write, and of nothing else
(`readHeader_item`, `readHeader_eq_ok`): an item has one form. So the count of items is the number of items that were
written one after the other (`countItems_append`). The lengths that a header can tell are those below `2 ^ 64`.

A first byte is of one of four sorts (`firstByte_cases`): it stands for itself, it is the mark of a string of one
byte, it tells a length below 56 after the mark of its kind, or it tells the length of a length.
-/

namespace DynamicFeeWallet.Rlp

/-- The first byte of an empty item of a kind. -/
def mark (isList : Bool) : UInt8 := if isList then listMark else stringMark

/-- A payload as an item of a kind. -/
def item (isList : Bool) (payload : Bytes) : Bytes := if isList then list payload else string payload

theorem item_true (payload : Bytes) : item true payload = list payload := rfl

theorem item_false (payload : Bytes) : item false payload = string payload := rfl

/-! ## What is written -/

/-- A small byte stands for itself. -/
theorem item_single {b : UInt8} (h : b < 0x80) : item false [b] = [b] := by simp [item, string, h]

/-- Every other item than a byte that stands for itself has a header. -/
theorem item_eq_header {isList : Bool} {payload : Bytes} (h : isList = false → ∀ b, payload = [b] → ¬b < 0x80) :
    item isList payload = header (mark isList) payload.length ++ payload := by
  cases isList
  · rw [item_false]
    unfold string
    split
    · rename_i b
      rw [if_neg (h rfl b rfl)]
      rfl
    · rfl
  · rfl

/-- An item is a byte that stands for itself, or has a header. -/
theorem item_cases (isList : Bool) (payload : Bytes) :
    (∃ b, isList = false ∧ payload = [b] ∧ b < 0x80) ∨
      item isList payload = header (mark isList) payload.length ++ payload := by
  by_cases h : ∃ b, isList = false ∧ payload = [b] ∧ b < 0x80
  · exact Or.inl h
  · exact Or.inr (item_eq_header fun hk b hb hlt => h ⟨b, hk, hb, hlt⟩)

/-- A short header is a single byte, with the length in it. -/
theorem header_short {short : UInt8} {n : Nat} (h : n < 56) : header short n = [short + UInt8.ofNat n] := if_pos h

/-- A long header has the length of the length in its first byte. -/
theorem header_long {short : UInt8} {n : Nat} (h : 56 ≤ n) :
    header short n = (short + 55 + UInt8.ofNat (Bytes.minimal 8 n).length) :: Bytes.minimal 8 n :=
  if_neg (Nat.not_lt.mpr h)

theorem header_ne_nil (short : UInt8) (n : Nat) : header short n ≠ [] := by
  rcases Nat.lt_or_ge n 56 with h | h
  · simp [header_short h]
  · simp [header_long h]

/-- No item is empty. -/
theorem item_ne_nil (isList : Bool) (payload : Bytes) : item isList payload ≠ [] := by
  rcases item_cases isList payload with ⟨b, rfl, rfl, hb⟩ | h
  · simp [item_single hb]
  · simp [h, header_ne_nil]

/-- An item is at least as long as its payload. -/
theorem length_le_length_item (isList : Bool) (payload : Bytes) : payload.length ≤ (item isList payload).length := by
  rcases item_cases isList payload with ⟨b, rfl, rfl, hb⟩ | h
  · exact Nat.le_of_eq (congrArg List.length (item_single hb).symm)
  · rw [h, List.length_append]
    exact Nat.le_add_left _ _

/-- The bytes are one item. -/
def IsItem (w : Bytes) : Prop := ∃ isList payload, w = item isList payload

theorem isItem_string (payload : Bytes) : IsItem (string payload) := ⟨false, payload, rfl⟩

theorem isItem_list (payload : Bytes) : IsItem (list payload) := ⟨true, payload, rfl⟩

theorem isItem_number (width n : Nat) : IsItem (number width n) := isItem_string _

/-- Items that were written one after the other are no fewer bytes than items. -/
theorem length_le_length_flatten {items : List Bytes} (hitems : ∀ w ∈ items, IsItem w) :
    items.length ≤ items.flatten.length := by
  induction items with
  | nil => exact Nat.le_refl _
  | cons w items ih =>
    obtain ⟨isList, payload, rfl⟩ := hitems _ List.mem_cons_self
    have hpos := List.length_pos_iff.mpr (item_ne_nil isList payload)
    have hih := ih fun w hw => hitems w (List.mem_cons_of_mem _ hw)
    rw [List.flatten_cons, List.length_append, List.length_cons]
    omega

/-! ## Lengths -/

/-- A header passes when as much follows as it says. -/
theorem Header.check_of_le {h : Header} {rest : Bytes} (hle : h.length ≤ rest.length) : h.check rest = .ok (h, rest) :=
  if_neg (Nat.not_lt.mpr hle)

/-- A header is let through with what follows it, and only when its payload is there. -/
theorem Header.check_eq_ok {h h' : Header} {rest start : Bytes} (he : h.check rest = .ok (h', start)) :
    h' = h ∧ start = rest ∧ h.length ≤ rest.length := by
  unfold Header.check at he
  split at he
  · nomatch he
  · cases he
    exact ⟨rfl, rfl, by omega⟩

/-- The shortest writing of a length of 56 or more has at least one byte. -/
theorem length_minimal_pos {n : Nat} (h : 56 ≤ n) (hn : n < 2 ^ 64) : 1 ≤ (Bytes.minimal 8 n).length := by
  have hvalue : Bytes.toNat (Bytes.minimal 8 n) = n := Bytes.toNat_minimal hn
  cases hb : Bytes.minimal 8 n with
  | nil =>
    rw [hb, Bytes.toNat_nil] at hvalue
    omega
  | cons b bytes => exact Nat.succ_pos _

/-- A length of 56 or more that was written in its shortest form is read. -/
theorem readLength_minimal {isList : Bool} {n : Nat} {rest : Bytes} (h56 : 56 ≤ n) (hn : n < 2 ^ 64)
    (hle : n ≤ rest.length) :
    readLength isList (Bytes.minimal 8 n).length (Bytes.minimal 8 n ++ rest) = .ok (⟨isList, n⟩, rest) := by
  have hvalue : Bytes.toNat (Bytes.minimal 8 n) = n := Bytes.toNat_minimal hn
  unfold readLength
  rw [if_neg (by simp), List.take_left, List.drop_left, if_neg (Bytes.head?_minimal 8 n), hvalue, if_neg (by omega)]
  exact Header.check_of_le hle

/-- A length that is read was written in its shortest form, and is 56 or more. -/
theorem readLength_eq_ok {isList : Bool} {size : Nat} {input start : Bytes} {h : Header} (hsize : size ≤ 8)
    (hr : readLength isList size input = .ok (h, start)) :
    ∃ n, h = ⟨isList, n⟩ ∧ 56 ≤ n ∧ n < 2 ^ 64 ∧ n ≤ start.length ∧ size = (Bytes.minimal 8 n).length ∧
      input = Bytes.minimal 8 n ++ start := by
  unfold readLength at hr
  split at hr
  · nomatch hr
  split at hr
  · nomatch hr
  rename_i hlen hzero
  simp only at hr
  split at hr
  · nomatch hr
  rename_i h56
  obtain ⟨rfl, rfl, hle⟩ := Header.check_eq_ok hr
  have htake : (input.take size).length = size := List.length_take_of_le (by omega)
  have hmin : Bytes.minimal 8 (Bytes.toNat (input.take size)) = input.take size :=
    Bytes.minimal_toNat hzero (by omega)
  have hlt : Bytes.toNat (input.take size) < 2 ^ 64 := by
    have h1 := Bytes.toNat_lt (input.take size)
    have h2 : 256 ^ (input.take size).length ≤ 256 ^ 8 := Nat.pow_le_pow_right (by decide) (by omega)
    omega
  exact ⟨_, rfl, by omega, hlt, hle, by rw [hmin, htake], by rw [hmin, List.take_append_drop]⟩

/-! ## The first byte -/

theorem toNat_mark (isList : Bool) : (mark isList).toNat = if isList then 192 else 128 := by cases isList <;> rfl

theorem toNat_mark_long (isList : Bool) :
    (mark isList + 55).toNat = if isList then 247 else 183 := by cases isList <;> rfl

/-- The four sorts of a first byte. -/
theorem firstByte_cases (b : UInt8) :
    b.toNat < 128 ∨ b = 0x81 ∨
      (∃ isList n, b.toNat = (mark isList).toNat + n ∧ n < 56 ∧ (isList = false → n ≠ 1)) ∨
      (∃ isList size, b.toNat = (mark isList + 55).toNat + size ∧ 1 ≤ size ∧ size ≤ 8) := by
  have hb := b.toNat_lt
  simp only [toNat_mark, toNat_mark_long]
  rcases Nat.lt_or_ge b.toNat 128 with h1 | h1
  · exact Or.inl h1
  by_cases h81 : b.toNat = 129
  · exact Or.inr (Or.inl (UInt8.toNat_inj.mp h81))
  refine Or.inr (Or.inr ?_)
  rcases Nat.lt_or_ge b.toNat 184 with h2 | h2
  · exact Or.inl ⟨false, b.toNat - 128, by simp; omega, by omega, by omega⟩
  rcases Nat.lt_or_ge b.toNat 192 with h3 | h3
  · exact Or.inr ⟨false, b.toNat - 183, by simp; omega, by omega, by omega⟩
  rcases Nat.lt_or_ge b.toNat 248 with h4 | h4
  · exact Or.inl ⟨true, b.toNat - 192, by simp; omega, by omega, nofun⟩
  · exact Or.inr ⟨true, b.toNat - 247, by simp; omega, by omega, by omega⟩

theorem not_lt_of_toNat_le {b c : UInt8} (h : c.toNat ≤ b.toNat) : ¬b < c := fun e =>
  Nat.not_lt.mpr h (UInt8.lt_iff_toNat_lt.mp e)

/-- A byte that stands for itself. -/
theorem readHeader_single {b : UInt8} (h : b.toNat < 128) (rest : Bytes) :
    readHeader (b :: rest) = .ok (⟨false, 1⟩, b :: rest) := by
  have h1 : b < 0x80 := UInt8.lt_iff_toNat_lt.mpr h
  simp only [readHeader, if_pos h1]

/-- A byte behind the mark of a string of one byte, which must not stand for itself. -/
theorem readHeader_marked (c : UInt8) (rest : Bytes) :
    readHeader (0x81 :: c :: rest) = if c < 0x80 then .error .singleByte else .ok (⟨false, 1⟩, c :: rest) := by
  simp [readHeader]

/-- A length below 56. -/
theorem readHeader_short {isList : Bool} {b : UInt8} {n : Nat} (hb : b.toNat = (mark isList).toNat + n) (hn : n < 56)
    (hone : isList = false → n ≠ 1) (rest : Bytes) : readHeader (b :: rest) = (Header.mk isList n).check rest := by
  rw [toNat_mark] at hb
  cases isList
  · have hb' : b.toNat = 128 + n := hb
    have h1 : ¬b < 0x80 := not_lt_of_toNat_le (Nat.le.intro hb'.symm)
    have h2 : b < 0xb8 := UInt8.lt_iff_toNat_lt.mpr (show b.toNat < 184 by omega)
    have h3 : ¬b = 0x81 := by
      intro e
      have h129 : b.toNat = 129 := congrArg UInt8.toNat e
      exact hone rfl (by omega)
    simp only [readHeader, if_neg h1, if_pos h2, if_neg h3]
    rw [hb', Nat.add_sub_cancel_left]
  · have hb' : b.toNat = 192 + n := hb
    have h1 : ¬b < 0x80 := not_lt_of_toNat_le (show 128 ≤ b.toNat by omega)
    have h2 : ¬b < 0xb8 := not_lt_of_toNat_le (show 184 ≤ b.toNat by omega)
    have h3 : ¬b < 0xc0 := not_lt_of_toNat_le (show 192 ≤ b.toNat by omega)
    have h4 : b < 0xf8 := UInt8.lt_iff_toNat_lt.mpr (show b.toNat < 248 by omega)
    simp only [readHeader, if_neg h1, if_neg h2, if_neg h3, if_pos h4]
    rw [hb', Nat.add_sub_cancel_left]

/-- The length of a length. -/
theorem readHeader_long {isList : Bool} {b : UInt8} {size : Nat} (hb : b.toNat = (mark isList + 55).toNat + size)
    (h1 : 1 ≤ size) (h8 : size ≤ 8) (rest : Bytes) : readHeader (b :: rest) = readLength isList size rest := by
  rw [toNat_mark_long] at hb
  cases isList
  · have hb' : b.toNat = 183 + size := hb
    have h1 : ¬b < 0x80 := not_lt_of_toNat_le (show 128 ≤ b.toNat by omega)
    have h2 : ¬b < 0xb8 := not_lt_of_toNat_le (show 184 ≤ b.toNat by omega)
    have h3 : b < 0xc0 := UInt8.lt_iff_toNat_lt.mpr (show b.toNat < 192 by omega)
    simp only [readHeader, if_neg h1, if_neg h2, if_pos h3]
    rw [hb', Nat.add_sub_cancel_left]
  · have hb' : b.toNat = 247 + size := hb
    have h1 : ¬b < 0x80 := not_lt_of_toNat_le (show 128 ≤ b.toNat by omega)
    have h2 : ¬b < 0xb8 := not_lt_of_toNat_le (show 184 ≤ b.toNat by omega)
    have h3 : ¬b < 0xc0 := not_lt_of_toNat_le (show 192 ≤ b.toNat by omega)
    have h4 : ¬b < 0xf8 := not_lt_of_toNat_le (show 248 ≤ b.toNat by omega)
    simp only [readHeader, if_neg h1, if_neg h2, if_neg h3, if_neg h4]
    rw [hb', Nat.add_sub_cancel_left]

/-- To add a number to a byte in range adds it. -/
theorem toNat_add_ofNat {b : UInt8} {n : Nat} (h : b.toNat + n < 256) : (b + UInt8.ofNat n).toNat = b.toNat + n := by
  rw [UInt8.toNat_add, UInt8.toNat_ofNat']
  omega

/-- The first byte of a short item is the mark and the length. -/
theorem toNat_mark_add {isList : Bool} {n : Nat} (hn : n < 56) :
    (mark isList + UInt8.ofNat n).toNat = (mark isList).toNat + n := by
  apply toNat_add_ofNat
  rw [toNat_mark]
  split <;> omega

/-- The first byte of a long item is the mark and the length of the length. -/
theorem toNat_mark_long_add {isList : Bool} {size : Nat} (h8 : size ≤ 8) :
    (mark isList + 55 + UInt8.ofNat size).toNat = (mark isList + 55).toNat + size := by
  apply toNat_add_ofNat
  rw [toNat_mark_long]
  split <;> omega

/-! ## Headers read -/

/-- A header that was written is read when what it announces is there; that of a string of one byte is no such header,
since the byte may stand for itself. -/
theorem readHeader_header {isList : Bool} {n : Nat} {rest : Bytes} (hn : n < 2 ^ 64) (hle : n ≤ rest.length)
    (hone : isList = false → n ≠ 1) : readHeader (header (mark isList) n ++ rest) = .ok (⟨isList, n⟩, rest) := by
  rcases Nat.lt_or_ge n 56 with h | h
  · rw [header_short h, List.singleton_append, readHeader_short (toNat_mark_add h) h hone]
    exact Header.check_of_le hle
  · have h1 := length_minimal_pos h hn
    have h8 := Bytes.length_minimal_le 8 n
    rw [header_long h, List.cons_append, readHeader_long (toNat_mark_long_add h8) h1 h8]
    exact readLength_minimal h hn hle

/-- The header of every item that was written is read, whatever follows the item. -/
theorem readHeader_item (isList : Bool) {payload : Bytes} (hlen : payload.length < 2 ^ 64) (rest : Bytes) :
    readHeader (item isList payload ++ rest) = .ok (⟨isList, payload.length⟩, payload ++ rest) := by
  rcases item_cases isList payload with ⟨b, rfl, rfl, hb⟩ | h
  · rw [item_single hb]
    exact readHeader_single (UInt8.lt_iff_toNat_lt.mp hb) rest
  by_cases hone : isList = false ∧ payload.length = 1
  · obtain ⟨rfl, hone⟩ := hone
    obtain ⟨c, rfl⟩ := List.length_eq_one_iff.mp hone
    have hc : ¬c < 0x80 := by
      intro hc
      rw [item_single hc] at h
      exact header_ne_nil _ _ (List.self_eq_append_left.mp h)
    rw [h]
    exact (readHeader_marked c rest).trans (if_neg hc)
  · rw [h, List.append_assoc]
    exact readHeader_header hlen (by simp) fun hk h1 => hone ⟨hk, h1⟩

/-- The bytes are an item of the kind and length that the header tells, and what follows it; `start` is what follows
the header. -/
def Header.InFront (h : Header) (start input : Bytes) : Prop :=
  h.length ≤ start.length ∧ h.length < 2 ^ 64 ∧ input = item h.isList (start.take h.length) ++ start.drop h.length

/-- A header that was written is in front of an item when what it announces is there. -/
theorem Header.inFront_header {isList : Bool} {n : Nat} {start : Bytes} (hn : n < 2 ^ 64) (hle : n ≤ start.length)
    (hone : isList = false → n = 1 → ∀ b, start.take n = [b] → ¬b < 0x80) :
    (Header.mk isList n).InFront start (header (mark isList) n ++ start) := by
  have hlen : (start.take n).length = n := List.length_take_of_le hle
  have hitem := @item_eq_header isList (start.take n) fun hk b hb =>
    hone hk (by rw [← hlen, hb, List.length_singleton]) b hb
  refine ⟨hle, hn, ?_⟩
  rw [hitem, hlen, List.append_assoc, List.take_append_drop]

/-- A header that is read is in front of an item: the payload is there, and item and header are of the shortest form. -/
theorem readHeader_eq_ok {input start : Bytes} {h : Header} (hr : readHeader input = .ok (h, start)) :
    h.InFront start input := by
  cases input with
  | nil => nomatch hr
  | cons b rest =>
    rcases firstByte_cases b with hb | rfl | ⟨isList, n, hb, hn, hone⟩ | ⟨isList, size, hb, h1, h8⟩
    · -- the byte stands for itself
      rw [readHeader_single hb] at hr
      cases hr
      refine ⟨by simp, by decide, ?_⟩
      exact congrArg (· ++ rest) (item_single (UInt8.lt_iff_toNat_lt.mpr hb)).symm
    · -- the mark of a string of one byte
      cases rest with
      | nil => nomatch hr
      | cons c rest =>
        rw [readHeader_marked] at hr
        split at hr
        · nomatch hr
        · rename_i hc
          cases hr
          refine @Header.inFront_header false 1 (c :: rest) (by decide) (by simp) fun _ _ b hb => ?_
          rw [List.take_succ_cons, List.take_zero, List.cons.injEq] at hb
          exact hb.1 ▸ hc
    · -- a short header
      rw [readHeader_short hb hn hone] at hr
      obtain ⟨rfl, rfl, hle⟩ := Header.check_eq_ok hr
      have hhead : [b] = header (mark isList) n := by
        rw [header_short hn, UInt8.toNat_inj.mp (hb.trans (toNat_mark_add hn).symm)]
      rw [← List.singleton_append, hhead]
      exact Header.inFront_header (by omega) hle fun hk h1 => absurd h1 (hone hk)
    · -- a long header
      rw [readHeader_long hb h1 h8] at hr
      obtain ⟨n, rfl, h56, hn, hle, rfl, rfl⟩ := readLength_eq_ok h8 hr
      have hhead : b :: Bytes.minimal 8 n = header (mark isList) n := by
        rw [header_long h56, UInt8.toNat_inj.mp (hb.trans (toNat_mark_long_add h8).symm)]
      rw [← List.cons_append, hhead]
      exact Header.inFront_header hn hle fun _ h1 => by omega

/-! ## Counting -/

/-- Items that were written one after the other are counted, and then what follows them. -/
theorem countItems_append {items : List Bytes} (hitems : ∀ w ∈ items, IsItem w)
    (hlen : items.flatten.length < 2 ^ 64) (fuel : Nat) (rest : Bytes) :
    countItems (items.length + fuel) (items.flatten ++ rest) = (countItems fuel rest).map (· + items.length) := by
  induction items with
  | nil => cases h : countItems fuel rest <;> simp [h, Except.map]
  | cons w items ih =>
    obtain ⟨isList, payload, rfl⟩ := hitems _ List.mem_cons_self
    rw [List.flatten_cons, List.length_append] at hlen
    have hpayload := length_le_length_item isList payload
    have hlt : payload.length < 2 ^ 64 := by omega
    have hread := readHeader_item isList hlt (items.flatten ++ rest)
    have hne : item isList payload ++ (items.flatten ++ rest) ≠ [] :=
      List.append_ne_nil_of_left_ne_nil (item_ne_nil isList payload) _
    rw [List.flatten_cons, List.append_assoc, List.length_cons, Nat.add_right_comm]
    have hih := ih (fun w hw => hitems w (List.mem_cons_of_mem _ hw)) (by omega)
    generalize hin : item isList payload ++ (items.flatten ++ rest) = input at hread hne
    cases input with
    | nil => exact absurd rfl hne
    | cons b tail =>
      simp only [countItems, hread, bind, Except.bind, List.drop_left, hih]
      cases countItems fuel rest <;> simp [Except.map, pure, Except.pure, Nat.add_assoc]

/-- Only the empty byte string has no items. -/
theorem countItems_eq_zero {fuel : Nat} {input : Bytes} (h : countItems fuel input = .ok 0) : input = [] := by
  cases input with
  | nil => rfl
  | cons b rest =>
    cases fuel with
    | zero => nomatch h
    | succ fuel =>
      simp only [countItems, bind, Except.bind] at h
      split at h
      · nomatch h
      · split at h
        · nomatch h
        · simp [pure, Except.pure] at h

end DynamicFeeWallet.Rlp
