import DynamicFeeWallet.Bytes

/-!
# Writing length-prefixed items

The recursive length prefix format. An item is a byte string or a list of items. A single byte below `0x80` stands for
itself; everything else begins with a header that tells the kind and the length of what follows, in one byte up to 55
bytes and by the length of the length beyond. A number is the byte string of its shortest big-endian writing, so zero
is the empty string.
-/

namespace DynamicFeeWallet.Rlp

/-- The header of a payload: `short` is the first byte for an empty payload of its kind. -/
def header (short : UInt8) (length : Nat) : Bytes :=
  if length < 56 then [short + UInt8.ofNat length]
  else
    let lengthBytes := Bytes.minimal 8 length
    (short + 55 + UInt8.ofNat lengthBytes.length) :: lengthBytes

/-- The first byte of an empty string. -/
def stringMark : UInt8 := 0x80

/-- The first byte of an empty list. -/
def listMark : UInt8 := 0xc0

/-- A byte string as an item. -/
def string (bytes : Bytes) : Bytes :=
  match bytes with
  | [b] => if b < 0x80 then [b] else header stringMark 1 ++ [b]
  | bytes => header stringMark bytes.length ++ bytes

/-- A list of items, given what its items are written as. -/
def list (payload : Bytes) : Bytes := header listMark payload.length ++ payload

/-- A number below `256 ^ width` as an item. -/
def number (width n : Nat) : Bytes := string (Bytes.minimal width n)

end DynamicFeeWallet.Rlp
