import DynamicFeeWallet.Bytes
import DynamicFeeWallet.Text.Hex
import DynamicFeeWallet.Text.Pieces

/-!
# IPv6 addresses

An address of eight units of 16 bits, in hexadecimal with colons between them. Two colons together stand for one or
more units of zero, once in an address, and the last two units may be written as four decimal bytes. An address is
shown with its longest row of two or more zero units left out, the first one of those of equal length.
-/

namespace DynamicFeeWallet

/-- An address of eight units. -/
abbrev IPv6 := FixedBytes 16

namespace IPv6

/-- A unit: up to four hexadecimal digits. -/
def unit? (part : List Char) : Option Bytes :=
  if part.isEmpty || 4 < part.length then none
  else do
    let digits ← part.mapM Hex.digit?
    some (Bytes.ofNat 2 (digits.foldl (fun n d => n * 16 + d) 0))

/-- A decimal byte without leading zeros. -/
def decimalByte? (part : List Char) : Option UInt8 :=
  if part.isEmpty || 3 < part.length || !part.all Char.isDigit || 1 < part.length && part.head? == some '0' then none
  else
    let n := Nat.ofDigitChars 10 part 0
    if n ≤ 255 then some (UInt8.ofNat n) else none

/-- Four decimal bytes with points between them. -/
def decimalBytes? (part : List Char) : Option Bytes := do
  let bytes ← (Text.pieces (· == '.') part).mapM decimalByte?
  if bytes.length = 4 then some bytes else none

/-- The units of one side of the gap; the last part may be four decimal bytes where the address ends. -/
def side? (atEnd : Bool) (text : List Char) : Option Bytes :=
  if text.isEmpty then some []
  else do
    let parts := Text.pieces (· == ':') text
    let front ← parts.dropLast.mapM unit?
    let last ← parts.getLast?
    let lastBytes ← if atEnd && last.contains '.' then decimalBytes? last else unit? last
    some (front.flatten ++ lastBytes)

/-- What stands before and after the first two colons together. -/
def atGap? : List Char → Option (List Char × List Char)
  | ':' :: ':' :: rest => some ([], rest)
  | c :: rest => (atGap? rest).map fun (before, after) => (c :: before, after)
  | [] => none

/-- Reads an address. -/
def parse? (text : List Char) : Option IPv6 := do
  match atGap? text with
  | none => FixedBytes.ofBytes? 16 (← side? true text)
  | some (before, after) =>
    let front ← side? false before
    let back ← side? true after
    if front.length + back.length ≤ 14 then
      FixedBytes.ofBytes? 16 (front ++ List.replicate (16 - front.length - back.length) 0 ++ back)
    else none

/-- The units of an address. -/
def units (address : IPv6) : List Nat :=
  (List.range 8).map fun i => Bytes.toNat ((address.toBytes.drop (2 * i)).take 2)

/-- The number of zeros in front. -/
def zerosInFront (units : List Nat) : Nat := (units.takeWhile (· == 0)).length

/-- The longest row of two or more zeros from a place on: where it begins, and its length. -/
def gap? (place : Nat) : List Nat → Option (Nat × Nat)
  | [] => none
  | unit :: rest =>
    let here := zerosInFront (unit :: rest)
    match gap? (place + 1) rest with
    | some (start, length) => if length ≤ here then some (place, here) else some (start, length)
    | none => if 2 ≤ here then some (place, here) else none

/-- Units with colons between them. -/
def join (units : List Nat) : String := ":".intercalate (units.map fun n => String.ofList (Nat.toDigits 16 n))

/-- The text of an address. -/
def render (address : IPv6) : String :=
  match gap? 0 address.units with
  | none => join address.units
  | some (start, length) => join (address.units.take start) ++ "::" ++ join (address.units.drop (start + length))

end IPv6

end DynamicFeeWallet
