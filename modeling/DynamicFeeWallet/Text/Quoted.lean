import DynamicFeeWallet.Text.Unprintable

/-!
# Quoted characters and texts

How a character or a text is shown between quotes in a message: the quote itself and the backslash are escaped, the usual
control characters have a letter, and whatever has no glyph is shown by its number in braces.
-/

namespace DynamicFeeWallet.Text

/-- A code point by number: a backslash, `u` and the hexadecimal digits in braces. -/
def numbered (c : Char) : List Char := "\\u\x7b".toList ++ Nat.toDigits 16 c.toNat ++ ['\x7d']

/-- A character as it stands between quotes of the kind `quote`. -/
def escaped (quote c : Char) : List Char :=
  if c = quote ∨ c = '\\' then ['\\', c]
  else if c = '\n' then ['\\', 'n']
  else if c = '\r' then ['\\', 'r']
  else if c = '\t' then ['\\', 't']
  else if c = '\x00' then ['\\', '0']
  else if c.toNat < 0x20 ∨ c.toNat = 0x7f ∨ isUnprintable c.toNat then numbered c
  else [c]

/-- A character between single quotes. -/
def quotedChar (c : Char) : String := String.ofList ('\'' :: escaped '\'' c ++ ['\''])

/-- A text between double quotes. -/
def quoted (s : String) : String := String.ofList ('"' :: s.toList.flatMap (escaped '"') ++ ['"'])

end DynamicFeeWallet.Text
