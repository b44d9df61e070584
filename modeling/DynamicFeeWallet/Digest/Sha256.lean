import DynamicFeeWallet.Bytes

/-!
# SHA-256

The digest of 32 bytes: blocks of 64 bytes, 64 rounds over eight words of 32 bits.
-/

namespace DynamicFeeWallet.Sha256

/-- What each round adds: the first 32 bits of the fractional parts of the cube roots of the first 64 primes. -/
def roundConstants : List UInt32 := [
  0x428a2f98, 0x71374491, 0xb5c0fbcf, 0xe9b5dba5, 0x3956c25b, 0x59f111f1, 0x923f82a4, 0xab1c5ed5,
  0xd807aa98, 0x12835b01, 0x243185be, 0x550c7dc3, 0x72be5d74, 0x80deb1fe, 0x9bdc06a7, 0xc19bf174,
  0xe49b69c1, 0xefbe4786, 0x0fc19dc6, 0x240ca1cc, 0x2de92c6f, 0x4a7484aa, 0x5cb0a9dc, 0x76f988da,
  0x983e5152, 0xa831c66d, 0xb00327c8, 0xbf597fc7, 0xc6e00bf3, 0xd5a79147, 0x06ca6351, 0x14292967,
  0x27b70a85, 0x2e1b2138, 0x4d2c6dfc, 0x53380d13, 0x650a7354, 0x766a0abb, 0x81c2c92e, 0x92722c85,
  0xa2bfe8a1, 0xa81a664b, 0xc24b8b70, 0xc76c51a3, 0xd192e819, 0xd6990624, 0xf40e3585, 0x106aa070,
  0x19a4c116, 0x1e376c08, 0x2748774c, 0x34b0bcb5, 0x391c0cb3, 0x4ed8aa4a, 0x5b9cca4f, 0x682e6ff3,
  0x748f82ee, 0x78a5636f, 0x84c87814, 0x8cc70208, 0x90befffa, 0xa4506ceb, 0xbef9a3f7, 0xc67178f2]

/-- The eight words between two blocks. -/
structure Words where
  (a b c d e f g h : UInt32)

/-- The words before the first block: the first 32 bits of the fractional parts of the square roots of eight primes. -/
def initial : Words :=
  ⟨0x6a09e667, 0xbb67ae85, 0x3c6ef372, 0xa54ff53a, 0x510e527f, 0x9b05688c, 0x1f83d9ab, 0x5be0cd19⟩

/-- A word rotated towards its low bits. -/
def rotate (w n : UInt32) : UInt32 := (w >>> n) ||| (w <<< (32 - n))

/-- The words that a byte string writes, four bytes each, the most significant first. -/
def wordsOf : Bytes → List UInt32
  | a :: b :: c :: d :: rest =>
    (a.toUInt32 <<< 24 ||| b.toUInt32 <<< 16 ||| c.toUInt32 <<< 8 ||| d.toUInt32) :: wordsOf rest
  | _ => []

/-- The four bytes of a word, the most significant first. -/
def wordBytes (w : UInt32) : Bytes := [(w >>> 24).toUInt8, (w >>> 16).toUInt8, (w >>> 8).toUInt8, w.toUInt8]

/-- Appends `count` words to a schedule, each from four words before it. -/
def extendSchedule : Nat → Array UInt32 → Array UInt32
  | 0, w => w
  | count + 1, w =>
    let back (k : Nat) : UInt32 := w.getD (w.size - k) 0
    let x := back 15
    let y := back 2
    let low := rotate x 7 ^^^ rotate x 18 ^^^ (x >>> 3)
    let high := rotate y 17 ^^^ rotate y 19 ^^^ (y >>> 10)
    extendSchedule count (w.push (back 16 + low + back 7 + high))

/-- One round with a constant and a word of the schedule. -/
def round (s : Words) (constant word : UInt32) : Words :=
  let mixE := rotate s.e 6 ^^^ rotate s.e 11 ^^^ rotate s.e 25
  let choice := (s.e &&& s.f) ^^^ (~~~ s.e &&& s.g)
  let first := s.h + mixE + choice + constant + word
  let mixA := rotate s.a 2 ^^^ rotate s.a 13 ^^^ rotate s.a 22
  let majority := (s.a &&& s.b) ^^^ (s.a &&& s.c) ^^^ (s.b &&& s.c)
  ⟨first + mixA + majority, s.a, s.b, s.c, s.d + first, s.e, s.f, s.g⟩

/-- The rounds over a list of constants with their words. -/
def rounds : Words → List UInt32 → List UInt32 → Words
  | s, k :: ks, w :: ws => rounds (round s k w) ks ws
  | s, _, _ => s

/-- Takes in one block. -/
def compress (s : Words) (block : Bytes) : Words :=
  let t := rounds s roundConstants (extendSchedule 48 (wordsOf block).toArray).toList
  ⟨s.a + t.a, s.b + t.b, s.c + t.c, s.d + t.d, s.e + t.e, s.f + t.f, s.g + t.g, s.h + t.h⟩

/-- Takes in the first `count` blocks of a message. -/
def compressBlocks : Nat → Words → Bytes → Words
  | 0, s, _ => s
  | count + 1, s, message => compressBlocks count (compress s (message.take 64)) (message.drop 64)

/-- A message padded to whole blocks: a one bit, zeros, and the length in bits. -/
def pad (message : Bytes) : Bytes :=
  message ++ 0x80 :: List.replicate ((119 - message.length % 64) % 64) 0 ++ Bytes.ofNat 8 (8 * message.length)

/-- The digest that the words hold. -/
def digest (s : Words) : Hash :=
  ⟨wordBytes s.a ++ wordBytes s.b ++ wordBytes s.c ++ wordBytes s.d ++ wordBytes s.e ++ wordBytes s.f ++ wordBytes s.g ++
    wordBytes s.h, rfl⟩

end DynamicFeeWallet.Sha256

namespace DynamicFeeWallet

/-- The SHA-256 digest of a message. -/
def sha256 (message : Bytes) : Hash :=
  let padded := Sha256.pad message
  Sha256.digest (Sha256.compressBlocks (padded.length / 64) Sha256.initial padded)

end DynamicFeeWallet
