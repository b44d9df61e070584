import DynamicFeeWallet.Bytes
import DynamicFeeWallet.Text.Quoted

/-!
# Hexadecimal text

Bytes are written as two lower-case digits each after the mark `0x`. Reading takes digits of either case after one
optional mark, `0x` or `0X`, and says why a text is refused: an odd number of digits is noticed first, then a wrong
length where a length is asked for, then the first byte of the text that is no digit, counted after the mark.
-/

namespace DynamicFeeWallet

/-- Why a text is not hexadecimal data. -/
inductive HexError where
  /-- The number of digits is odd. -/
  | oddLength
  /-- The data is not as long as it has to be. -/
  | wrongLength
  /-- The byte at this position is no digit. -/
  | badDigit (byte : UInt8) (position : Nat)
deriving DecidableEq

/-- What is said of a text that is not hexadecimal data; a byte that is no digit is shown as the character of its
number. -/
def HexError.message : HexError → String
  | .oddLength => "odd number of digits"
  | .wrongLength => "invalid string length"
  | .badDigit byte position => s!"invalid character {Text.quotedChar (Char.ofNat byte.toNat)} at position {position}"

namespace Hex

/-- The value of a digit of either case. -/
def digit? (c : Char) : Option Nat :=
  if '0' ≤ c ∧ c ≤ '9' then some (c.toNat - 48)
  else if 'a' ≤ c ∧ c ≤ 'f' then some (c.toNat - 87)
  else if 'A' ≤ c ∧ c ≤ 'F' then some (c.toNat - 55)
  else none

/-- A hexadecimal digit of either case. -/
def isDigit (c : Char) : Bool := (digit? c).isSome

/-- The text after its mark, if it has one. -/
def marked? : List Char → Option (List Char)
  | '0' :: 'x' :: digits => some digits
  | '0' :: 'X' :: digits => some digits
  | _ => none

/-- The text without its mark, if it has one. -/
def unmarked (text : List Char) : List Char := (marked? text).getD text

/-- The two digits of a byte. -/
def byteDigits (b : UInt8) : List Char := [Nat.digitChar (b.toNat / 16), Nat.digitChar (b.toNat % 16)]

/-- The digits of a byte string, without a mark. -/
def digits (bytes : Bytes) : List Char := bytes.flatMap byteDigits

/-- A byte string in hexadecimal, after the mark. -/
def encode (bytes : Bytes) : String := String.ofList ('0' :: 'x' :: digits bytes)

/-- Reads bytes as pairs of digits; `position` is the place of the first one. -/
def readPairs (position : Nat) : Bytes → Except HexError Bytes
  | [] => .ok []
  | [_] => .error .oddLength
  | high :: low :: rest =>
    match digit? (Char.ofNat high.toNat), digit? (Char.ofNat low.toNat) with
    | some h, some l => do return UInt8.ofNat (h * 16 + l) :: (← readPairs (position + 2) rest)
    | none, _ => .error (.badDigit high position)
    | some _, none => .error (.badDigit low (position + 1))

/-- The bytes of the text after its mark, in UTF-8. -/
def body (text : String) : Bytes := (unmarked text.toList).flatMap String.utf8EncodeChar

/-- Reads a byte string. -/
def decode (text : String) : Except HexError Bytes :=
  if (body text).length % 2 = 1 then .error .oddLength else readPairs 0 (body text)

/-- Reads a byte string of exactly `n` bytes. -/
def decodeFixed (n : Nat) (text : String) : Except HexError (FixedBytes n) :=
  if (body text).length % 2 = 1 then .error .oddLength
  else if (body text).length ≠ 2 * n then .error .wrongLength
  else do
    match FixedBytes.ofBytes? n (← readPairs 0 (body text)) with
    | some bytes => .ok bytes
    | none => .error .wrongLength

end Hex

/-- Fixed bytes in hexadecimal, after the mark. -/
def FixedBytes.toHex {n : Nat} (b : FixedBytes n) : String := Hex.encode b.toBytes

end DynamicFeeWallet
