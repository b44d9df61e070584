import DynamicFeeWallet.Curve.Secp256k1
import DynamicFeeWallet.Digest.Hmac
import DynamicFeeWallet.Digest.Keccak
import DynamicFeeWallet.Address
import DynamicFeeWallet.UInt256

/-!
# Signatures

A signature holds two numbers and the parity of the `y` coordinate of its nonce point. Signing takes its nonce from
the key and the digest by the deterministic method over HMAC-SHA-256 and ends in the lower of the two possible `s`.
Recovery first lowers a high `s` and flips the parity with it, so that both forms of a signature name the same signer.
-/

namespace DynamicFeeWallet

/-- A recoverable signature. -/
structure Signature where
  /-- The `x` coordinate of the nonce point, modulo the order. -/
  r : UInt256
  /-- The proof that binds key, digest and nonce. -/
  s : UInt256
  /-- The `y` coordinate of the nonce point is odd. -/
  yParity : Bool
deriving DecidableEq

/-- A private key: a number from 1 to the order of the curve, exclusive. -/
structure PrivateKey where
  /-- The secret number. -/
  secret : Nat
  /-- It is not zero. -/
  secret_pos : 0 < secret
  /-- It is below the order. -/
  secret_lt : secret < Secp256k1.order
deriving DecidableEq

open Secp256k1

namespace Signature

/-- Both numbers lie in `[1, order)`. -/
def isValid (sig : Signature) : Bool :=
  0 < sig.r.toNat && 0 < sig.s.toNat && sig.r.toNat < order && sig.s.toNat < order

/-- The `s` is at most half the order. -/
def isLowS (sig : Signature) : Bool := sig.s.toNat ≤ halfOrder

/-- Both numbers are zero. -/
def isZero (sig : Signature) : Bool := sig.r.toNat == 0 && sig.s.toNat == 0

/-- The form of the signature with a low `s`: a high one is taken from the order and the parity flipped. -/
def lowered (sig : Signature) : Signature :=
  if sig.isLowS then sig else { sig with s := UInt256.saturate (order - sig.s.toNat), yParity := !sig.yParity }

/-- The signature as 65 bytes: `r`, `s`, and 27 plus the parity. -/
def toBytes (sig : Signature) : Bytes :=
  sig.r.toHash.toBytes ++ sig.s.toHash.toBytes ++ [if sig.yParity then 28 else 27]

end Signature

namespace PrivateKey

/-- The key with this secret number, if it is in range. -/
def ofNat? (n : Nat) : Option PrivateKey :=
  if h : 0 < n ∧ n < order then some ⟨n, h.1, h.2⟩ else none

/-- The secret number as 32 bytes. -/
def toHash (key : PrivateKey) : Hash := FixedBytes.ofNat 32 key.secret

end PrivateKey

/-- The address that a public point owns: the last 20 bytes of the digest of its coordinates. -/
def Secp256k1.Point.address (p : Point) : Address :=
  FixedBytes.ofNat 20 (keccak256 (Bytes.ofNat 32 p.x ++ Bytes.ofNat 32 p.y)).toNat

/-- The address that a private key controls; a key in range has a public point. -/
def PrivateKey.address (key : PrivateKey) : Address := ((generator.multiple? key.secret).map (·.address)).getD .zero

namespace Nonce

/-- The chaining key and value of the generator of nonces. -/
structure State where
  (key value : Hash)

/-- Mixes the value, a byte and more data into the key, and renews the value. -/
def State.mix (st : State) (separator : UInt8) (data : Bytes) : State :=
  let key := hmacSha256 st.key.toBytes (st.value.toBytes ++ separator :: data)
  ⟨key, hmacSha256 key.toBytes st.value.toBytes⟩

/-- The generator seeded with a private key and a digest. -/
def State.seed (key : PrivateKey) (digest : Hash) : State :=
  let data := key.toHash.toBytes ++ digest.toBytes
  ((State.mk (FixedBytes.replicate 32 0) (FixedBytes.replicate 32 1)).mix 0 data).mix 1 data

/-- The first value in `[1, order)` among the next `tries`. -/
def State.draw : Nat → State → Option Nat
  | 0, _ => none
  | tries + 1, st =>
    let value := hmacSha256 st.key.toBytes st.value.toBytes
    if 0 < value.toNat ∧ value.toNat < order then some value.toNat
    else draw tries ((State.mk st.key value).mix 0 [])

/-- The nonce for a key and a digest. -/
def derive (key : PrivateKey) (digest : Hash) : Option Nat := (State.seed key digest).draw 256

end Nonce

/-- Signs a digest; there is no signature in the cases without probability, a zero `r` or `s`. -/
def PrivateKey.sign (key : PrivateKey) (digest : Hash) : Option Signature := do
  let k ← Nonce.derive key digest
  let point ← generator.multiple? k
  let r := point.x % order
  let s := inverseMod order k * ((digest.toNat + r * key.secret) % order) % order
  if r = 0 ∨ s = 0 then none
  else some (Signature.mk (UInt256.saturate r) (UInt256.saturate s) (point.y % 2 == 1)).lowered

/-- The public point of the key that signed the digest, for a signature in range with a low `s`. -/
def Signature.publicPoint? (sig : Signature) (digest : Hash) : Option Point := do
  let point ← lift? sig.r.toNat sig.yParity
  let inverse := inverseMod order sig.r.toNat
  combine? ((order - digest.toNat % order * inverse % order) % order) generator (sig.s.toNat * inverse % order) point

/-- The address of the key that signed the digest, for a signature in range. -/
def Signature.signer? (sig : Signature) (digest : Hash) : Option Address :=
  if sig.isValid then (sig.lowered.publicPoint? digest).map (·.address) else none

end DynamicFeeWallet
