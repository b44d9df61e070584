/-!
# Blanks

The characters that count as blank at the ends of a text: the white space of Unicode.
-/

namespace DynamicFeeWallet.Text

/-- A blank character. -/
def isBlank (c : Char) : Bool :=
  let n := c.toNat
  0x09 ≤ n && n ≤ 0x0d || 0x2000 ≤ n && n ≤ 0x200a ||
    [0x20, 0x85, 0xa0, 0x1680, 0x2028, 0x2029, 0x202f, 0x205f, 0x3000].contains n

/-- White space of ASCII is blank. -/
theorem isBlank_of_isWhitespace {c : Char} (h : c.isWhitespace = true) : isBlank c = true := by
  simp only [Char.isWhitespace, Bool.or_eq_true, decide_eq_true_eq] at h
  rcases h with ((h | h) | h) | h <;> subst h <;> rfl

/-- The text holds nothing but blanks. -/
def isAllBlank (s : String) : Bool := s.toList.all isBlank

end DynamicFeeWallet.Text
