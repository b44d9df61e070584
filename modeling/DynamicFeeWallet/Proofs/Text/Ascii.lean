import DynamicFeeWallet.Bytes

/-!
# Characters of one byte

A character below 128 is one byte of UTF-8, its number (`utf8EncodeChar_of_isAscii`), and no other is written in such
bytes alone (`isAscii_of_utf8EncodeChar`). So a text of such characters has as many bytes as characters, and a number
in decimal as many as digits.
-/

namespace DynamicFeeWallet.Text

/-- The character has a number below 128. -/
def IsAscii (c : Char) : Prop := c.toNat < 128

/-- The byte that writes such a character. -/
def asciiByte (c : Char) : UInt8 := UInt8.ofNat c.toNat

theorem utf8EncodeChar_of_isAscii {c : Char} (h : IsAscii c) : String.utf8EncodeChar c = [asciiByte c] := by
  have hle : c.val.toNat ≤ 127 := Nat.le_of_lt_succ h
  rw [String.utf8EncodeChar, if_pos hle]
  rfl

/-- The byte leads back to the character. -/
theorem ofNat_asciiByte {c : Char} (h : IsAscii c) : Char.ofNat (asciiByte c).toNat = c := by
  have hsmall : c.toNat < 256 := Nat.lt_trans h (by decide)
  rw [asciiByte, UInt8.toNat_ofNat_of_lt' hsmall, Char.ofNat_toNat]

/-- A character that is written in bytes below 128 alone has a number below 128: any other ends in a byte that is not. -/
theorem isAscii_of_utf8EncodeChar {c : Char} (h : ∀ b ∈ String.utf8EncodeChar c, b.toNat < 128) : IsAscii c := by
  refine Nat.lt_of_not_le fun hle => ?_
  have hlast : UInt8.ofNat (c.val.toNat % 64 + 128) ∈ String.utf8EncodeChar c := by
    have hmore : ¬c.val.toNat ≤ 127 := Nat.not_le.mpr hle
    unfold String.utf8EncodeChar
    dsimp only
    rw [if_neg hmore]
    split
    · simp
    split <;> simp
  have hsmall : c.val.toNat % 64 + 128 < 256 := by omega
  have hlt := h _ hlast
  rw [UInt8.toNat_ofNat_of_lt' hsmall] at hlt
  omega

/-- A byte is the number of its character. -/
theorem toNat_ofNat_toNat (b : UInt8) : (Char.ofNat b.toNat).toNat = b.toNat := by
  have hb := b.toNat_lt
  have hvalid : b.toNat.isValidChar := Or.inl (by omega)
  rw [Char.ofNat, dif_pos hvalid]
  rfl

/-- A small letter has its capital 32 places before it, and other characters are their own. -/
theorem toNat_toUpper (c : Char) : c.toUpper.toNat = if 97 ≤ c.toNat ∧ c.toNat ≤ 122 then c.toNat - 32 else c.toNat := by
  unfold Char.toUpper
  by_cases h : 97 ≤ c.toNat ∧ c.toNat ≤ 122
  · have hval : 'a'.val ≤ c.val ∧ c.val ≤ 'z'.val := h
    have hlow : 97 ≤ c.val.toNat := h.1
    have hhigh : c.val.toNat ≤ 122 := h.2
    have hstep : ('A'.val - 'a'.val).toNat = 2 ^ 32 - 32 := rfl
    rw [if_pos h, dif_pos hval]
    change (c.val + ('A'.val - 'a'.val)).toNat = c.val.toNat - 32
    rw [UInt32.toNat_add, hstep]
    omega
  · have hval : ¬('a'.val ≤ c.val ∧ c.val ≤ 'z'.val) := h
    rw [if_neg h, dif_neg hval]

/-- A text of such characters is written character by character. -/
theorem flatMap_utf8EncodeChar {text : List Char} (h : ∀ c ∈ text, IsAscii c) :
    text.flatMap String.utf8EncodeChar = text.map asciiByte := by
  induction text with
  | nil => rfl
  | cons c text ih =>
    have hrest := ih fun d hd => h d (List.mem_cons_of_mem c hd)
    rw [List.flatMap_cons, utf8EncodeChar_of_isAscii (h c List.mem_cons_self), hrest]
    rfl

/-- Decimal digits are such characters. -/
theorem isAscii_of_isDigit {c : Char} (h : c.isDigit = true) : IsAscii c := by
  have hle : c.toNat ≤ 57 := (Char.isDigit_iff_toNat.mp h).2
  exact Nat.lt_of_le_of_lt hle (by decide)

/-- A number in decimal has as many bytes as digits. -/
theorem length_ofText_toString (n : Nat) : (Bytes.ofText (toString n)).length = (Nat.toDigits 10 n).length := by
  have hascii : ∀ c ∈ Nat.toDigits 10 n, IsAscii c := by
    intro c hc
    exact isAscii_of_isDigit (Nat.isDigit_of_mem_toDigits (by decide) (by decide) hc)
  rw [Bytes.ofText, Nat.toString_eq_ofList_toDigits, String.toList_ofList, flatMap_utf8EncodeChar hascii, List.length_map]

/-- A larger number has no fewer digits. -/
theorem length_toDigits_le {m n : Nat} (h : m ≤ n) : (Nat.toDigits 10 m).length ≤ (Nat.toDigits 10 n).length := by
  have hpos : 0 < (Nat.toDigits 10 n).length := Nat.length_toDigits_pos
  have hn : n < 10 ^ (Nat.toDigits 10 n).length := (Nat.length_toDigits_le_iff (by decide) hpos).mp (Nat.le_refl _)
  exact (Nat.length_toDigits_le_iff (by decide) hpos).mpr (Nat.lt_of_le_of_lt h hn)

end DynamicFeeWallet.Text
