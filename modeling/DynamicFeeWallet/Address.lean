import DynamicFeeWallet.Digest.Keccak
import DynamicFeeWallet.Text.Hex

/-!
# Addresses

An account is named by 20 bytes. Its checksummed text has 40 hexadecimal digits after `0x`, and a letter is a capital
when the digest of the lower-case digits has its half-byte at that place at 8 or above. A text names an address when
it has 40 digits, with or without a mark, and its letters are all of one case or spell the checksum.
-/

namespace DynamicFeeWallet

/-- The 20 bytes that name an account. -/
abbrev Address := FixedBytes 20

namespace Address

/-- The address of 20 zero bytes. -/
def zero : Address := FixedBytes.replicate 20 0

/-- The address of 20 bytes `ff`. -/
def allOnes : Address := FixedBytes.replicate 20 0xff

/-- Reads 20 bytes of hexadecimal text, of any case. -/
def parse (text : String) : Except HexError Address := Hex.decodeFixed 20 text

/-- The half-bytes of a byte string, the high one of each byte first. -/
def halfBytes (bytes : Bytes) : List Nat := bytes.flatMap fun b => [b.toNat / 16, b.toNat % 16]

/-- Capital letters where the half-byte beside the digit is at 8 or above. -/
def raise (digits : List Char) (marks : List Nat) : List Char :=
  List.zipWith (fun c mark => if 8 ≤ mark then c.toUpper else c) digits marks

/-- The 40 digits of the checksummed text. -/
def checksumDigits (a : Address) : List Char :=
  let digits := Hex.digits a.toBytes
  raise digits (halfBytes (keccak256 (digits.flatMap String.utf8EncodeChar)).toBytes)

/-- The checksummed text. -/
def checksum (a : Address) : String := String.ofList ('0' :: 'x' :: a.checksumDigits)

/-- An address is written with its checksum. -/
instance : ToString Address where
  toString := checksum

/-- A letter that is not a capital. -/
def isLowerLetter (c : Char) : Bool := 'a' ≤ c && c ≤ 'z'

/-- A capital letter. -/
def isCapital (c : Char) : Bool := 'A' ≤ c && c ≤ 'Z'

/-- Digits that mix cases have to spell the checksum of the address that they write. -/
def checksumHolds (digits : List Char) : Bool :=
  !(digits.any isLowerLetter && digits.any isCapital) ||
    match parse (String.ofList digits) with
    | .ok a => a.checksumDigits == digits
    | .error _ => false

/-- The text names an address. -/
def isAddress (text : String) : Bool :=
  let digits := Hex.unmarked text.toList
  digits.length == 40 && digits.all Hex.isDigit && checksumHolds digits

end Address

end DynamicFeeWallet
