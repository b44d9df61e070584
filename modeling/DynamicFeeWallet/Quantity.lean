import DynamicFeeWallet.Json.Basic
import DynamicFeeWallet.Text.Hex
import DynamicFeeWallet.UInt256

/-!
# Quantities

A quantity is a number in hexadecimal after a mark, without leading zeros. What a node answers is read more freely:
either mark, digits of either case, leading zeros, and low lines anywhere between the digits, or a plain whole number
of the document.
-/

namespace DynamicFeeWallet.Quantity

/-- The text of a number. -/
def render (n : Nat) : String := String.ofList ('0' :: 'x' :: Nat.toDigits 16 n)

/-- Reads digits of a base up to 16 after a number already read, passing over low lines. -/
def readDigits (base : Nat) : List Char → Nat → Option Nat
  | [], n => some n
  | '_' :: rest, n => readDigits base rest n
  | c :: rest, n =>
    match Hex.digit? c with
    | some d => if d < base then readDigits base rest (n * base + d) else none
    | none => none

/-- The amount that digits of a base write, if it is in range. -/
def ofDigits? (base : Nat) (digits : List Char) : Option UInt256 := (readDigits base digits 0).bind UInt256.ofNat?

/-- The amount that a text with a mark writes; there has to be something after the mark. -/
def ofText? (text : String) : Option UInt256 :=
  match Hex.marked? text.toList with
  | some [] => none
  | some digits => ofDigits? 16 digits
  | none => none

/-- The amount that a value writes, a text or a whole number. -/
def ofJson? : Json → Option UInt256
  | .text s => ofText? s
  | .number (.natural n) => some (UInt256.ofUInt64 n)
  | _ => none

/-- The amount that a text with an optional mark of its base writes: decimal, or hexadecimal, octal or binary after
`0x`, `0o` or `0b`, in either case. -/
def ofAnyBase? (text : String) : Option UInt256 :=
  match text.toList with
  | '0' :: c :: digits =>
    if c = 'x' ∨ c = 'X' then ofDigits? 16 digits
    else if c = 'o' ∨ c = 'O' then ofDigits? 8 digits
    else if c = 'b' ∨ c = 'B' then ofDigits? 2 digits
    else ofDigits? 10 text.toList
  | digits => ofDigits? 10 digits

end DynamicFeeWallet.Quantity
