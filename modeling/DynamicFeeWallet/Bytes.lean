/-!
# Byte strings

A byte string is a list of bytes. Numbers are written big-endian, the most significant byte first: `Bytes.ofNat` writes a
number at a fixed width and `Bytes.minimal` without leading zeros, and `Bytes.toNat` reads either back.
-/

namespace DynamicFeeWallet

/-- A byte string. -/
abbrev Bytes := List UInt8

namespace Bytes

/-- The `width` low-order bytes of a number, the most significant first. -/
def ofNat : Nat → Nat → Bytes
  | 0, _ => []
  | width + 1, n => ofNat width (n / 256) ++ [UInt8.ofNat n]

/-- The number that a byte string writes, the most significant byte first. -/
def toNat (bytes : Bytes) : Nat := bytes.foldl (fun n b => n * 256 + b.toNat) 0

/-- The shortest big-endian writing of a number below `256 ^ width`: no leading zero, and nothing at all for zero. -/
def minimal (width n : Nat) : Bytes := (ofNat width n).dropWhile (· == 0)

@[simp] theorem length_ofNat (width n : Nat) : (ofNat width n).length = width := by
  induction width generalizing n with
  | zero => rfl
  | succ width ih => simp [ofNat, ih]

@[simp] theorem toNat_nil : toNat [] = 0 := rfl

@[simp] theorem toNat_append_singleton (bytes : Bytes) (b : UInt8) :
    toNat (bytes ++ [b]) = toNat bytes * 256 + b.toNat := by
  simp [toNat]

/-- The bytes of a text in UTF-8. -/
def ofText (text : String) : Bytes := text.toList.flatMap String.utf8EncodeChar

end Bytes

/-- A byte string of exactly `n` bytes. -/
structure FixedBytes (n : Nat) where
  /-- The bytes, in order. -/
  toBytes : Bytes
  /-- There are exactly `n` of them. -/
  length_toBytes : toBytes.length = n
deriving DecidableEq

namespace FixedBytes

variable {n : Nat}

/-- The byte string as one of exactly `n` bytes, if it has that length. -/
def ofBytes? (n : Nat) (bytes : Bytes) : Option (FixedBytes n) :=
  if h : bytes.length = n then some ⟨bytes, h⟩ else none

/-- The number `k` as `n` big-endian bytes. -/
def ofNat (n k : Nat) : FixedBytes n := ⟨Bytes.ofNat n k, Bytes.length_ofNat n k⟩

/-- The number that the bytes write. -/
def toNat (b : FixedBytes n) : Nat := Bytes.toNat b.toBytes

/-- The byte `b`, `n` times. -/
def replicate (n : Nat) (b : UInt8) : FixedBytes n := ⟨List.replicate n b, List.length_replicate⟩

instance : Inhabited (FixedBytes n) := ⟨replicate n 0⟩

@[ext] theorem ext {a b : FixedBytes n} (h : a.toBytes = b.toBytes) : a = b := by
  cases a
  cases b
  cases h
  rfl

theorem ofBytes?_eq_some_iff {bytes : Bytes} {b : FixedBytes n} : ofBytes? n bytes = some b ↔ b.toBytes = bytes := by
  unfold ofBytes?
  split
  · exact ⟨fun h => by cases h; rfl, fun h => by cases h; rfl⟩
  · rename_i h
    constructor
    · intro e
      nomatch e
    · intro e
      exact absurd (e ▸ b.length_toBytes) h

end FixedBytes

/-- A 32-byte digest or storage key. -/
abbrev Hash := FixedBytes 32

end DynamicFeeWallet
