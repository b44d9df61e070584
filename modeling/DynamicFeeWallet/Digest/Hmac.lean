import DynamicFeeWallet.Digest.Sha256
import DynamicFeeWallet.Digest.Sha512

/-!
# Keyed digests

HMAC over SHA-256 and SHA-512, and the slow derivation of 64 bytes from a password (PBKDF2 with one block of
HMAC-SHA-512).
-/

namespace DynamicFeeWallet

/-- A key filled up with zeros to `block` bytes and added to the byte `mask` everywhere. -/
def maskedKey (block : Nat) (mask : UInt8) (key : Bytes) : Bytes :=
  (key ++ List.replicate (block - key.length) 0).map (· ^^^ mask)

/-- HMAC-SHA-256; a key longer than a block of 64 bytes is replaced by its digest. -/
def hmacSha256 (key message : Bytes) : Hash :=
  let key := if key.length ≤ 64 then key else (sha256 key).toBytes
  sha256 (maskedKey 64 0x5c key ++ (sha256 (maskedKey 64 0x36 key ++ message)).toBytes)

/-- HMAC-SHA-512; a key longer than a block of 128 bytes is replaced by its digest. -/
def hmacSha512 (key message : Bytes) : FixedBytes 64 :=
  let key := if key.length ≤ 128 then key else (sha512 key).toBytes
  sha512 (maskedKey 128 0x5c key ++ (sha512 (maskedKey 128 0x36 key ++ message)).toBytes)

/-- Applies the keyed digest `count` more times and adds up the results. -/
def stretch (password : Bytes) : Nat → FixedBytes 64 → FixedBytes 64 → FixedBytes 64
  | 0, _, sum => sum
  | count + 1, last, sum =>
    let next := hmacSha512 password last.toBytes
    stretch password count next ⟨List.zipWith (· ^^^ ·) sum.toBytes next.toBytes, by
      simp [sum.length_toBytes, next.length_toBytes]⟩

/-- The 64 bytes derived from a password and a salt in `rounds` rounds, at least one. -/
def pbkdf2Sha512 (password salt : Bytes) (rounds : Nat) : FixedBytes 64 :=
  let first := hmacSha512 password (salt ++ [0, 0, 0, 1])
  stretch password (rounds - 1) first first

end DynamicFeeWallet
