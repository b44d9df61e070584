import DynamicFeeWallet.Proofs.Text.Ascii
import DynamicFeeWallet.Text.Hex

/-!
# Bytes written in hexadecimal are read back

A byte string is read from any digits of its half-bytes, of either case (`readPairs_of_map_digit?`). So what
`Hex.encode` writes, `Hex.decode` reads (`decode_encode`), and it has two digits to a byte after the mark
(`length_encode`). Nothing else is read (`decode_eq_ok`): what spells a byte string is two digits for each byte, of
either case (`Spells`). What is shown of the digits of a number goes from the first digit to the last
(`toDigits_induction`).
-/

namespace DynamicFeeWallet.Hex

/-! ## Digits -/

/-- What a character stands for, by its number. -/
theorem digit?_eq (c : Char) :
    digit? c =
      if 48 ≤ c.toNat ∧ c.toNat ≤ 57 then some (c.toNat - 48)
      else if 97 ≤ c.toNat ∧ c.toNat ≤ 102 then some (c.toNat - 87)
      else if 65 ≤ c.toNat ∧ c.toNat ≤ 70 then some (c.toNat - 55)
      else none := rfl

/-- A capital letter stands for the same as the small one. -/
theorem digit?_toUpper (c : Char) : digit? c.toUpper = digit? c := by
  rw [digit?_eq, digit?_eq, Text.toNat_toUpper]
  grind

/-- The sixteen digits that are written stand for their numbers. -/
theorem digit?_digitChar : ∀ d < 16, digit? (Nat.digitChar d) = some d := by decide +kernel

theorem digit?_lt {c : Char} {d : Nat} (h : digit? c = some d) : d < 16 := by
  rw [digit?_eq] at h
  grind

theorem isDigit_digitChar {d : Nat} (h : d < 16) : isDigit (Nat.digitChar d) = true := by
  rw [isDigit, digit?_digitChar d h]
  rfl

theorem isAscii_of_isDigit {c : Char} (h : isDigit c = true) : Text.IsAscii c := by
  refine Nat.lt_of_not_le fun hle => ?_
  rw [isDigit, digit?_eq, if_neg (by omega), if_neg (by omega), if_neg (by omega)] at h
  nomatch h

/-- Characters that stand for the same as digits are digits. -/
theorem isDigit_of_map_digit? {cs ds : List Char} (h : cs.map digit? = ds.map digit?) (hds : ∀ d ∈ ds, isDigit d = true) :
    ∀ c ∈ cs, isDigit c = true := by
  intro c hc
  have hmem : digit? c ∈ ds.map digit? := h ▸ List.mem_map_of_mem hc
  obtain ⟨d, hd, heq⟩ := List.mem_map.mp hmem
  rw [isDigit, ← heq]
  exact hds d hd

theorem nibbles_lt (b : UInt8) : b.toNat / 16 < 16 ∧ b.toNat % 16 < 16 := by
  have hb := b.toNat_lt
  exact ⟨by omega, by omega⟩

/-- The digits of one more byte in front. -/
theorem digits_cons (b : UInt8) (bytes : Bytes) :
    digits (b :: bytes) = Nat.digitChar (b.toNat / 16) :: Nat.digitChar (b.toNat % 16) :: digits bytes := rfl

/-- The digits of a byte stand for its halves. -/
theorem map_digit?_digits_cons {high low : Nat} (hhigh : high < 16) (hlow : low < 16) (bytes : Bytes) :
    (digits (UInt8.ofNat (high * 16 + low) :: bytes)).map digit? =
      some high :: some low :: (digits bytes).map digit? := by
  have hsmall : high * 16 + low < 256 := by omega
  have hfirst : (high * 16 + low) / 16 = high := by omega
  have hsecond : (high * 16 + low) % 16 = low := by omega
  rw [digits_cons, UInt8.toNat_ofNat_of_lt' hsmall, hfirst, hsecond, List.map_cons, List.map_cons,
    digit?_digitChar _ hhigh, digit?_digitChar _ hlow]

/-- The hexadecimal digits that are no capitals. -/
def smallDigits : List Char := "0123456789abcdef".toList

/-- A small digit is what is written for a number below sixteen. -/
theorem mem_smallDigits_iff {c : Char} : c ∈ smallDigits ↔ ∃ d < 16, Nat.digitChar d = c := by
  have hdigits : smallDigits = (List.range 16).map Nat.digitChar := by decide +kernel
  simp only [hdigits, List.mem_map, List.mem_range]

theorem digitChar_mem_smallDigits {d : Nat} (h : d < 16) : Nat.digitChar d ∈ smallDigits :=
  mem_smallDigits_iff.mpr ⟨d, h, rfl⟩

theorem isDigit_of_mem_smallDigits {c : Char} (h : c ∈ smallDigits) : isDigit c = true := by
  obtain ⟨d, hd, rfl⟩ := mem_smallDigits_iff.mp h
  exact isDigit_digitChar hd

/-- Bytes are written in small digits. -/
theorem mem_smallDigits_of_mem_digits {bytes : Bytes} : ∀ c ∈ digits bytes, c ∈ smallDigits := by
  intro c hc
  obtain ⟨b, -, hb⟩ := List.mem_flatMap.mp hc
  obtain ⟨hhigh, hlow⟩ := nibbles_lt b
  rw [byteDigits, List.mem_cons, List.mem_singleton] at hb
  rcases hb with rfl | rfl
  · exact digitChar_mem_smallDigits hhigh
  · exact digitChar_mem_smallDigits hlow

/-- A byte string is written in digits. -/
theorem isDigit_of_mem_digits (bytes : Bytes) : ∀ c ∈ digits bytes, isDigit c = true :=
  fun c hc => isDigit_of_mem_smallDigits (mem_smallDigits_of_mem_digits c hc)

theorem length_digits (bytes : Bytes) : (digits bytes).length = 2 * bytes.length := by
  induction bytes with
  | nil => rfl
  | cons b bytes ih =>
    rw [digits_cons, List.length_cons, List.length_cons, ih, List.length_cons]
    omega

/-! ## Numbers -/

/-- One digit more is put behind those of a number other than zero. -/
theorem toDigits_mul_add {n d : Nat} (hn : 0 < n) (hd : d < 16) :
    Nat.toDigits 16 (n * 16 + d) = Nat.toDigits 16 n ++ [Nat.digitChar d] := by
  rw [Nat.mul_comm n 16, ← Nat.toDigits_append_toDigits (by decide) hn hd, Nat.toDigits_of_lt_base hd]

/-- What holds of each single digit, and is kept when one digit more is put behind those of a number other than zero,
holds of the digits of every number. -/
theorem toDigits_induction {motive : Nat → List Char → Prop} (digit : ∀ d < 16, motive d [Nat.digitChar d])
    (more : ∀ n d, 0 < n → d < 16 → motive n (Nat.toDigits 16 n) →
      motive (n * 16 + d) (Nat.toDigits 16 n ++ [Nat.digitChar d]))
    (n : Nat) : motive n (Nat.toDigits 16 n) := by
  induction n using Nat.strongRecOn with
  | ind n ih =>
    by_cases hn : n < 16
    · rw [Nat.toDigits_of_lt_base hn]
      exact digit n hn
    · have hpos : 0 < n / 16 := by omega
      have hlast : n % 16 < 16 := Nat.mod_lt n (by decide)
      have hmore := more (n / 16) (n % 16) hpos hlast (ih (n / 16) (by omega))
      rwa [← toDigits_mul_add hpos hlast, Nat.div_add_mod'] at hmore

/-- A number is written in small digits. -/
theorem mem_smallDigits_of_mem_toDigits (n : Nat) : ∀ c ∈ Nat.toDigits 16 n, c ∈ smallDigits := by
  refine toDigits_induction (motive := fun _ digits => ∀ c ∈ digits, c ∈ smallDigits) ?digit ?more n
  case digit =>
    intro d hd
    exact List.forall_mem_singleton.mpr (digitChar_mem_smallDigits hd)
  case more =>
    intro n d _ hd ih
    exact List.forall_mem_append.mpr ⟨ih, List.forall_mem_singleton.mpr (digitChar_mem_smallDigits hd)⟩

/-- A number is written in digits. -/
theorem isDigit_of_mem_toDigits (n : Nat) : ∀ c ∈ Nat.toDigits 16 n, isDigit c = true :=
  fun c hc => isDigit_of_mem_smallDigits (mem_smallDigits_of_mem_toDigits n c hc)

/-! ## Texts of digits -/

variable {text : List Char}

/-- Digits are no mark. -/
theorem unmarked_of_isDigit (h : ∀ c ∈ text, isDigit c = true) : unmarked text = text := by
  unfold unmarked marked?
  split
  · exact absurd (h 'x' (by simp)) (by decide)
  · exact absurd (h 'X' (by simp)) (by decide)
  · rfl

/-- What stands after a mark. -/
theorem marked?_eq_some {digits : List Char} :
    marked? text = some digits ↔ text = '0' :: 'x' :: digits ∨ text = '0' :: 'X' :: digits := by
  unfold marked?
  split
  · simp [eq_comm]
  · simp [eq_comm]
  · rename_i hsmall hcapital
    constructor
    · nofun
    · rintro (h | h)
      · exact absurd h (hsmall digits)
      · exact absurd h (hcapital digits)

/-- The text is these digits, after a mark or not. -/
inductive Presents (digits : List Char) : List Char → Prop where
  | plain : Presents digits digits
  | small : Presents digits ('0' :: 'x' :: digits)
  | capital : Presents digits ('0' :: 'X' :: digits)

/-- A text is what is left of it without a mark, after a mark or not. -/
theorem presents_unmarked (text : List Char) : Presents (unmarked text) text := by
  unfold unmarked marked?
  split
  · exact .small
  · exact .capital
  · exact .plain

/-- What is left of it without a mark is the digits. -/
theorem Presents.unmarked_eq {digits : List Char} (h : Presents digits text) (hdigits : ∀ c ∈ digits, isDigit c = true) :
    unmarked text = digits := by
  cases h with
  | plain => exact unmarked_of_isDigit hdigits
  | small => rfl
  | capital => rfl

theorem flatMap_utf8EncodeChar (h : ∀ c ∈ text, isDigit c = true) :
    text.flatMap String.utf8EncodeChar = text.map Text.asciiByte :=
  Text.flatMap_utf8EncodeChar fun c hc => isAscii_of_isDigit (h c hc)

/-- The body of digits alone is all of them. -/
theorem body_ofList (h : ∀ c ∈ text, isDigit c = true) : body (String.ofList text) = text.map Text.asciiByte := by
  rw [body, String.toList_ofList, unmarked_of_isDigit h, flatMap_utf8EncodeChar h]

/-- The body of digits after a mark is all of them. -/
theorem body_ofList_marked (h : ∀ c ∈ text, isDigit c = true) :
    body (String.ofList ('0' :: 'x' :: text)) = text.map Text.asciiByte := by
  rw [body, String.toList_ofList]
  exact flatMap_utf8EncodeChar h

/-! ## Bytes -/

/-- Two digits at a time are one byte, of whatever case and wherever they stand. -/
theorem readPairs_of_map_digit? {bytes : Bytes} (h : text.map digit? = (digits bytes).map digit?) (position : Nat) :
    readPairs position (text.map Text.asciiByte) = .ok bytes := by
  have hdigits := isDigit_of_map_digit? h (isDigit_of_mem_digits bytes)
  induction bytes generalizing text position with
  | nil =>
    rw [List.map_eq_nil_iff.mp h]
    rfl
  | cons b bytes ih =>
    obtain ⟨hhigh, hlow⟩ := nibbles_lt b
    rw [digits_cons, List.map_cons, List.map_cons, digit?_digitChar _ hhigh, digit?_digitChar _ hlow] at h
    -- the two characters need not be those that are written, only stand for the same
    obtain ⟨high, rest, rfl, hhigh', hrest⟩ := List.map_eq_cons_iff.mp h
    obtain ⟨low, rest, rfl, hlow', hrest⟩ := List.map_eq_cons_iff.mp hrest
    obtain ⟨hascii, hdigits⟩ := List.forall_mem_cons.mp hdigits
    obtain ⟨hascii', hdigits⟩ := List.forall_mem_cons.mp hdigits
    have hbyte : UInt8.ofNat (b.toNat / 16 * 16 + b.toNat % 16) = b := by
      rw [Nat.div_add_mod', UInt8.ofNat_toNat]
    simp only [List.map_cons, readPairs, Text.ofNat_asciiByte (isAscii_of_isDigit hascii),
      Text.ofNat_asciiByte (isAscii_of_isDigit hascii'), hhigh', hlow', ih hrest _ hdigits, hbyte, bind,
      Except.bind, pure, Except.pure]

theorem body_encode (bytes : Bytes) : body (encode bytes) = (digits bytes).map Text.asciiByte :=
  body_ofList_marked (isDigit_of_mem_digits bytes)

theorem length_body_encode (bytes : Bytes) : (body (encode bytes)).length = 2 * bytes.length := by
  rw [body_encode, List.length_map, length_digits]

/-- What is written is read back. -/
theorem decode_encode (bytes : Bytes) : decode (encode bytes) = .ok bytes := by
  have heven : (body (encode bytes)).length % 2 ≠ 1 := by
    rw [length_body_encode]
    omega
  rw [decode, if_neg heven, body_encode, readPairs_of_map_digit? rfl]

/-- Different byte strings are written differently. -/
theorem encode_injective : Function.Injective encode := by
  intro bytes bytes' h
  have hread := decode_encode bytes
  rw [h, decode_encode] at hread
  exact (Except.ok.inj hread).symm

/-! ## Spellings -/

/-- The digits, of either case, stand for the half-bytes of the bytes. -/
def Spells (text : List Char) (bytes : Bytes) : Prop := text.map digit? = (digits bytes).map digit?

/-- What spells bytes is digits, two for each byte. -/
theorem Spells.isDigit {bytes : Bytes} (h : Spells text bytes) : ∀ c ∈ text, isDigit c = true :=
  isDigit_of_map_digit? h (isDigit_of_mem_digits bytes)

theorem Spells.length_eq {bytes : Bytes} (h : Spells text bytes) : text.length = 2 * bytes.length := by
  rw [← List.length_map digit?, h, List.length_map, length_digits]

/-- Two digits more spell the byte of which they are the half-bytes. -/
theorem Spells.cons {high low : Char} {hi lo : Nat} {bytes : Bytes} (hhigh : digit? high = some hi)
    (hlow : digit? low = some lo) (h : Spells text bytes) :
    Spells (high :: low :: text) (UInt8.ofNat (hi * 16 + lo) :: bytes) := by
  rw [Spells, map_digit?_digits_cons (digit?_lt hhigh) (digit?_lt hlow), List.map_cons, List.map_cons, hhigh, hlow, h]

/-- Bytes that are read in pairs are characters that spell what is read. -/
theorem spells_of_readPairs {position : Nat} {written bytes : Bytes} (h : readPairs position written = .ok bytes) :
    Spells (written.map fun b => Char.ofNat b.toNat) bytes := by
  induction position, written using readPairs.induct generalizing bytes with
  | case1 position =>
    cases h
    rfl
  | case2 position b => nomatch h
  | case3 position high low rest hi lo hlow hhigh ih =>
    rw [readPairs, hhigh, hlow] at h
    cases hrest : readPairs (position + 2) rest with
    | error error =>
      rw [hrest] at h
      nomatch h
    | ok others =>
      rw [hrest] at h
      cases h
      exact .cons hhigh hlow (ih hrest)
  | case4 position high low rest hhigh =>
    rw [readPairs, hhigh] at h
    nomatch h
  | case5 position high low rest hi hlow hhigh =>
    rw [readPairs, hhigh, hlow] at h
    nomatch h

/-- So the characters of a text that is read spell what is read. -/
theorem spells_of_readPairs_flatMap {position : Nat} {bytes : Bytes}
    (h : readPairs position (text.flatMap String.utf8EncodeChar) = .ok bytes) : Spells text bytes := by
  have hread := spells_of_readPairs h
  have hascii : ∀ c ∈ text, Text.IsAscii c := by
    intro c hc
    refine Text.isAscii_of_utf8EncodeChar fun b hb => ?_
    have hmem : b ∈ text.flatMap String.utf8EncodeChar := List.mem_flatMap.mpr ⟨c, hc, hb⟩
    have hsmall := isAscii_of_isDigit (hread.isDigit _ (List.mem_map_of_mem hmem))
    rwa [Text.IsAscii, Text.toNat_ofNat_toNat] at hsmall
  have hchars : (text.map Text.asciiByte).map (fun b => Char.ofNat b.toNat) = text := by
    rw [List.map_map]
    exact (List.map_congr_left fun c hc => Text.ofNat_asciiByte (hascii c hc)).trans (List.map_id' text)
  rwa [Text.flatMap_utf8EncodeChar hascii, hchars] at hread

/-- Any digits, of an even number, spell some bytes. -/
theorem exists_spells {n : Nat} (h : ∀ c ∈ text, isDigit c = true) (hlength : text.length = 2 * n) :
    ∃ bytes : FixedBytes n, Spells text bytes.toBytes := by
  induction n generalizing text with
  | zero =>
    rw [List.eq_nil_of_length_eq_zero hlength]
    exact ⟨⟨[], rfl⟩, rfl⟩
  | succ n ih =>
    obtain ⟨high, rest, rfl⟩ := List.exists_cons_of_length_eq_add_one hlength
    obtain ⟨low, rest, rfl⟩ := List.exists_cons_of_length_eq_add_one (Nat.succ.inj hlength)
    obtain ⟨hhigh, h⟩ := List.forall_mem_cons.mp h
    obtain ⟨hlow, h⟩ := List.forall_mem_cons.mp h
    obtain ⟨hi, hhigh⟩ := Option.isSome_iff_exists.mp hhigh
    obtain ⟨lo, hlow⟩ := Option.isSome_iff_exists.mp hlow
    obtain ⟨⟨bytes, hbytes⟩, hrest⟩ := ih h (by simp only [List.length_cons] at hlength; omega)
    exact ⟨⟨UInt8.ofNat (hi * 16 + lo) :: bytes, by rw [List.length_cons, hbytes]⟩, .cons hhigh hlow hrest⟩

/-- A byte string of a given length is read from any digits of its half-bytes. -/
theorem decodeFixed_of_body {n : Nat} {bytes : FixedBytes n} {written : String}
    (hbody : body written = text.map Text.asciiByte) (h : text.map digit? = (digits bytes.toBytes).map digit?) :
    decodeFixed n written = .ok bytes := by
  have hlength : (body written).length = 2 * n := by
    rw [hbody, List.length_map, ← List.length_map digit?, h, List.length_map, length_digits, bytes.length_toBytes]
  have heven : (body written).length % 2 ≠ 1 := by omega
  have hbytes : FixedBytes.ofBytes? n bytes.toBytes = some bytes := FixedBytes.ofBytes?_eq_some_iff.mpr rfl
  rw [decodeFixed, if_neg heven, if_neg (not_not_intro hlength), hbody, readPairs_of_map_digit? h]
  simp only [bind, Except.bind, hbytes]

/-- A byte string is read from what spells it, after a mark or not, and from nothing else. -/
theorem decode_eq_ok {bytes : Bytes} {written : String} :
    decode written = .ok bytes ↔ Spells (unmarked written.toList) bytes := by
  unfold decode
  constructor
  · intro h
    split at h
    · nomatch h
    · exact spells_of_readPairs_flatMap h
  · intro h
    have hbody : body written = (unmarked written.toList).map Text.asciiByte := flatMap_utf8EncodeChar h.isDigit
    have heven : (body written).length % 2 ≠ 1 := by
      rw [hbody, List.length_map, h.length_eq]
      omega
    rw [if_neg heven, hbody]
    exact readPairs_of_map_digit? h 0

/-- And so is a byte string of a given length. -/
theorem decodeFixed_eq_ok {n : Nat} {bytes : FixedBytes n} {written : String} :
    decodeFixed n written = .ok bytes ↔ Spells (unmarked written.toList) bytes.toBytes := by
  constructor
  · intro h
    unfold decodeFixed at h
    split at h
    · nomatch h
    split at h
    · nomatch h
    cases hread : readPairs 0 (body written) with
    | error error =>
      rw [hread] at h
      nomatch h
    | ok read =>
      rw [hread] at h
      cases hfixed : FixedBytes.ofBytes? n read with
      | none =>
        simp only [bind, Except.bind, hfixed] at h
        nomatch h
      | some found =>
        simp only [bind, Except.bind, hfixed] at h
        cases h
        rw [FixedBytes.ofBytes?_eq_some_iff.mp hfixed]
        exact spells_of_readPairs_flatMap hread
  · intro h
    exact decodeFixed_of_body (flatMap_utf8EncodeChar h.isDigit) h

/-- Two digits to a byte, after the mark. -/
theorem length_encode (bytes : Bytes) : (encode bytes).length = 2 + 2 * bytes.length := by
  rw [encode, String.length_ofList, List.length_cons, List.length_cons, length_digits]
  omega

/-! ## What is refused -/

/-- The first byte that is no digit, with its place; `position` is the place of the first byte. -/
def firstNonDigit? (position : Nat) (bytes : Bytes) : Option (UInt8 × Nat) :=
  (bytes.zipIdx position).find? fun x => !isDigit (Char.ofNat x.1.toNat)

theorem firstNonDigit?_cons (position : Nat) (b : UInt8) (bytes : Bytes) :
    firstNonDigit? position (b :: bytes) =
      if (digit? (Char.ofNat b.toNat)).isSome then firstNonDigit? (position + 1) bytes else some (b, position) := by
  unfold firstNonDigit? isDigit
  rw [List.zipIdx_cons, List.find?_cons]
  cases digit? (Char.ofNat b.toNat) <;> simp

/-- An even number of bytes is read when all are digits, and refused for the first that is none. -/
theorem readPairs_of_even {position : Nat} {bytes : Bytes} (heven : bytes.length % 2 = 0) :
    firstNonDigit? position bytes = none ∧ (∃ read, readPairs position bytes = .ok read) ∨
      ∃ b i, firstNonDigit? position bytes = some (b, i) ∧ readPairs position bytes = .error (.badDigit b i) := by
  induction position, bytes using readPairs.induct with
  | case1 position => exact .inl ⟨rfl, [], rfl⟩
  | case2 position b => nomatch heven
  | case3 position high low rest hi lo hlow hhigh ih =>
    rw [firstNonDigit?_cons, firstNonDigit?_cons, hhigh, hlow, readPairs, hhigh, hlow]
    rw [List.length_cons, List.length_cons] at heven
    rcases ih (by omega) with ⟨hnone, read, hread⟩ | ⟨b, i, hsome, hread⟩
    · exact .inl ⟨hnone, UInt8.ofNat (hi * 16 + lo) :: read, by rw [hread]; rfl⟩
    · exact .inr ⟨b, i, hsome, by rw [hread]; rfl⟩
  | case4 position high low rest hhigh =>
    rw [firstNonDigit?_cons, readPairs, hhigh]
    exact .inr ⟨high, position, rfl, rfl⟩
  | case5 position high low rest hi hlow hhigh =>
    rw [firstNonDigit?_cons, firstNonDigit?_cons, readPairs, hhigh, hlow]
    exact .inr ⟨low, position + 1, rfl, rfl⟩

/-- Why bytes are not the digits of `n` bytes: what is wrong with their number comes before what is wrong with one of
them. -/
def refusal? (n : Nat) (bytes : Bytes) : Option HexError :=
  if bytes.length % 2 = 1 then some .oddLength
  else if bytes.length ≠ 2 * n then some .wrongLength
  else (firstNonDigit? 0 bytes).map fun (b, position) => .badDigit b position

/-- A byte string of a given length is read unless there is a reason against it. -/
theorem decodeFixed_cases (n : Nat) (written : String) :
    refusal? n (body written) = none ∧ (∃ fixed, decodeFixed n written = .ok fixed) ∨
      ∃ error, refusal? n (body written) = some error ∧ decodeFixed n written = .error error := by
  unfold refusal? decodeFixed
  split
  · exact .inr ⟨.oddLength, rfl, rfl⟩
  rename_i heven
  split
  · exact .inr ⟨.wrongLength, rfl, rfl⟩
  rename_i hlength
  rcases readPairs_of_even (Nat.mod_two_ne_one.mp heven) with ⟨hnone, read, hread⟩ | ⟨b, position, hsome, hread⟩
  · have hdigits := (spells_of_readPairs hread).length_eq
    rw [List.length_map] at hdigits
    have hfixed : FixedBytes.ofBytes? n read = some ⟨read, by omega⟩ := FixedBytes.ofBytes?_eq_some_iff.mpr rfl
    refine .inl ⟨by rw [hnone]; rfl, ⟨read, by omega⟩, ?_⟩
    simp only [hread, bind, Except.bind, hfixed]
  · exact .inr ⟨.badDigit b position, by rw [hsome]; rfl, by rw [hread]; rfl⟩

end DynamicFeeWallet.Hex
