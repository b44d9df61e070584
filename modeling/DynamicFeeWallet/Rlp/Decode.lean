import DynamicFeeWallet.Rlp.Encode
import DynamicFeeWallet.UInt256

/-!
# Reading length-prefixed items

Each reader takes an item off the front of a byte string and gives what is left. Only the one shortest form of an item
is read: a header that could be shorter, a number with a leading zero or a single byte behind a header is refused,
with the reason.
-/

namespace DynamicFeeWallet.Rlp

/-- Why bytes are not an item of the kind that was to be read. -/
inductive DecodeError where
  /-- A number has more bytes than it may have. -/
  | overflow
  /-- A number or a length begins with a zero byte. -/
  | leadingZero
  /-- The bytes end before the item does. -/
  | tooShort
  /-- A byte that stands for itself is behind a header. -/
  | singleByte
  /-- A short length is written in the long form. -/
  | longForm
  /-- A string of fixed length has another length. -/
  | wrongLength
  /-- A string stands where a list has to. -/
  | unexpectedString
  /-- A list stands where a string has to. -/
  | unexpectedList
  /-- The items of a list end elsewhere than the list does. -/
  | listLength (got expected : Nat)
deriving DecidableEq

/-- What is said of bytes that are not the item to be read. -/
def DecodeError.message : DecodeError → String
  | .overflow => "overflow"
  | .leadingZero => "leading zero"
  | .tooShort => "input too short"
  | .singleByte => "non-canonical single byte"
  | .longForm => "non-canonical size"
  | .wrongLength => "unexpected length"
  | .unexpectedString => "unexpected string"
  | .unexpectedList => "unexpected list"
  | .listLength got expected => s!"unexpected list length (got {got}, expected {expected})"

/-- Reading an item off the front of a byte string. -/
abbrev Reader (α : Type) := Bytes → Except DecodeError (α × Bytes)

/-- The kind of an item and the number of its bytes after the header. -/
structure Header where
  (isList : Bool) (length : Nat)

/-- The header, unless its payload is longer than what is left. -/
def Header.check (h : Header) (rest : Bytes) : Except DecodeError (Header × Bytes) :=
  if rest.length < h.length then .error .tooShort else .ok (h, rest)

/-- A length of `size` bytes. -/
def readLength (isList : Bool) (size : Nat) (input : Bytes) : Except DecodeError (Header × Bytes) :=
  if input.length < size then .error .tooShort
  else if (input.take size).head? = some 0 then .error .leadingZero
  else
    let length := Bytes.toNat (input.take size)
    if length < 56 then .error .longForm else (Header.mk isList length).check (input.drop size)

/-- The header in front; that of a byte which stands for itself is empty. -/
def readHeader : Reader Header
  | [] => .error .tooShort
  | b :: rest =>
    if b < 0x80 then .ok (⟨false, 1⟩, b :: rest)
    else if b < 0xb8 then
      if b = 0x81 then
        match rest with
        | [] => .error .tooShort
        | c :: _ => if c < 0x80 then .error .singleByte else .ok (⟨false, 1⟩, rest)
      else (Header.mk false (b.toNat - 0x80)).check rest
    else if b < 0xc0 then readLength false (b.toNat - 0xb7) rest
    else if b < 0xf8 then (Header.mk true (b.toNat - 0xc0)).check rest
    else readLength true (b.toNat - 0xf7) rest

/-- The payload of the item in front, which has to be a list or a string as asked. -/
def readPayload (isList : Bool) : Reader Bytes := fun input => do
  let (h, rest) ← readHeader input
  if h.isList = isList then return (rest.take h.length, rest.drop h.length)
  else throw (if isList then .unexpectedString else .unexpectedList)

/-- The string in front. -/
def readString : Reader Bytes := readPayload false

/-- The 64-bit number in front; a number of more than eight bytes is refused before its first byte is looked at. -/
def readUInt64 : Reader UInt64 := fun input => do
  let (bytes, rest) ← readString input
  if 8 < bytes.length then throw .overflow
  else if bytes.head? = some 0 then throw .leadingZero
  else return (UInt64.ofNat (Bytes.toNat bytes), rest)

/-- The byte in front as a number. -/
def readUInt8 : Reader UInt8 := fun input => do
  let (bytes, rest) ← readString input
  if 1 < bytes.length then throw .overflow
  else if bytes.head? = some 0 then throw .leadingZero
  else return (UInt8.ofNat (Bytes.toNat bytes), rest)

/-- The 256-bit amount in front. -/
def readUInt256 : Reader UInt256 := fun input => do
  let (bytes, rest) ← readString input
  if bytes.head? = some 0 then throw .leadingZero
  else
    match UInt256.ofNat? (Bytes.toNat bytes) with
    | some amount => return (amount, rest)
    | none => throw .overflow

/-- The string of exactly `n` bytes in front. -/
def readFixed (n : Nat) : Reader (FixedBytes n) := fun input => do
  let (bytes, rest) ← readString input
  match FixedBytes.ofBytes? n bytes with
  | some fixed => return (fixed, rest)
  | none => throw .wrongLength

/-- Reads items until nothing is left; `fuel` bounds their number. -/
def readAll {α : Type} (read : Reader α) : Nat → Bytes → Except DecodeError (List α)
  | _, [] => .ok []
  | 0, _ => .error .tooShort
  | fuel + 1, input => do
    let (item, rest) ← read input
    return item :: (← readAll read fuel rest)

/-- The list in front, all of whose items are read alike. -/
def readListOf {α : Type} (read : Reader α) : Reader (List α) := fun input => do
  let (payload, rest) ← readPayload true input
  return (← readAll read payload.length payload, rest)

/-- The number of items in a byte string, found by their headers alone; `fuel` bounds it. -/
def countItems : Nat → Bytes → Except DecodeError Nat
  | _, [] => .ok 0
  | 0, _ => .error .tooShort
  | fuel + 1, input => do
    let (h, rest) ← readHeader input
    return (← countItems fuel (rest.drop h.length)) + 1

end DynamicFeeWallet.Rlp
