import DynamicFeeWallet.Bytes
import DynamicFeeWallet.Text.Hex
import DynamicFeeWallet.Text.Pieces

/-!
# IPv4 addresses

A host whose last part is a number is an address of four bytes. Up to four numbers may be given: each one but the last
stands for a byte, and the last one fills all bytes that are left. A number is decimal, octal after a zero, or
hexadecimal after `0x`.
-/

namespace DynamicFeeWallet

/-- An address of four bytes. -/
abbrev IPv4 := FixedBytes 4

namespace IPv4

/-- The number that digits of a base write, if there are no other characters. -/
def ofDigits? (base : Nat) (digits : List Char) : Option Nat :=
  digits.foldlM (fun n c => do
    let d ← Hex.digit? c
    if d < base then some (n * base + d) else none) 0

/-- The number that a part writes; a mark alone is zero. -/
def number? : List Char → Option Nat
  | [] => none
  | '0' :: 'x' :: digits => ofDigits? 16 digits
  | '0' :: 'X' :: digits => ofDigits? 16 digits
  | ['0'] => some 0
  | '0' :: digits => ofDigits? 8 digits
  | digits => ofDigits? 10 digits

/-- The parts of a host between its points, without an empty one at the end. -/
def parts (host : List Char) : List (List Char) :=
  let all := Text.pieces (· == '.') host
  if all.getLast? = some [] ∧ 1 < all.length then all.dropLast else all

/-- The last part of the host is a number, or at least made of decimal digits. -/
def endsInNumber (host : List Char) : Bool :=
  match (parts host).getLast? with
  | some last => !last.isEmpty && last.all Char.isDigit || (number? last).isSome
  | none => false

/-- Reads an address. The last number may fill the bytes that the others leave. -/
def parse? (host : List Char) : Option IPv4 := do
  let numbers ← (parts host).mapM number?
  let last ← numbers.getLast?
  if 4 < numbers.length ∨ Nat.pow 256 (5 - numbers.length) ≤ last then none
  else
    let front ← numbers.dropLast.mapM fun n => if n ≤ 255 then some (UInt8.ofNat n) else none
    FixedBytes.ofBytes? 4 (front ++ Bytes.ofNat (5 - numbers.length) last)

/-- The text of an address: its bytes in decimal. -/
def render (address : IPv4) : String := ".".intercalate (address.toBytes.map fun b => toString b.toNat)

end IPv4

end DynamicFeeWallet
