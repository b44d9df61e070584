import DynamicFeeWallet.Curve.Signature
import DynamicFeeWallet.Key.WordList

/-!
# Recovery phrases

A phrase is a row of words with one space between two. Each word stands for 11 bits; the bits are a secret of 16, 20,
24, 28 or 32 bytes and a checksum, the first bits of the secret's digest. The phrase is stretched to a seed, and the
seed to a tree of private keys; the wallet takes the key at `m/44'/60'/0'/0/0`.
-/

namespace DynamicFeeWallet

/-- Why a phrase gives no key. -/
inductive PhraseError where
  /-- A word is not in the list. -/
  | unknownWord (word : String)
  /-- The words make this many bytes, which is no length of a secret. -/
  | wrongLength (bytes : Nat)
  /-- The words do not end in the checksum of their secret. -/
  | wrongChecksum (phrase : String)
  /-- A key of the path is out of range, which has no probability. -/
  | keyOutOfRange
deriving DecidableEq

/-- What is said of a phrase that gives no key. -/
def PhraseError.message : PhraseError → String
  | .unknownWord word => s!"the word `{word}` is invalid"
  | .wrongLength bytes => s!"the mnemonic's entropy length `{bytes}` is invalid"
  | .wrongChecksum phrase => s!"the phrase `{phrase}` is invalid"
  | .keyOutOfRange => "signature error"

namespace Phrase

/-- The `width` low-order bits of a number, the most significant first. -/
def bitsOf : Nat → Nat → List Bool
  | 0, _ => []
  | width + 1, n => bitsOf width (n / 2) ++ [n % 2 == 1]

/-- The number that bits write. -/
def ofBits (bits : List Bool) : Nat := bits.foldl (fun n b => 2 * n + b.toNat) 0

/-- Cuts a list into pieces of `size`, the last one as long as what is left; `count` bounds the number of pieces. -/
def pieces {α : Type} (size : Nat) : Nat → List α → List (List α)
  | 0, _ => []
  | _, [] => []
  | count + 1, l => l.take size :: pieces size count (l.drop size)

/-- The bytes that bits write, the last one filled up with zero bits. -/
def bytesOfBits (bits : List Bool) : Bytes :=
  (pieces 8 bits.length bits).map fun piece =>
    UInt8.ofNat (ofBits (piece ++ List.replicate (8 - piece.length) false))

/-- The bits of a byte string. -/
def bitsOfBytes (bytes : Bytes) : List Bool := bytes.flatMap fun b => bitsOf 8 b.toNat

/-- How many bytes of secret are read from this many bytes: the next length of a secret at or one below it. -/
def secretLength? (bytes : Nat) : Option Nat :=
  [16, 20, 24, 28, 32].find? fun length => length = bytes || length + 1 = bytes

/-- The words of a secret: its bits and then, for each four bytes, one bit of its digest. -/
def wordsOf (secret : Bytes) : List String :=
  let bits := bitsOfBytes secret ++ (bitsOfBytes (sha256 secret).toBytes).take (secret.length / 4)
  (pieces 11 bits.length bits).map fun piece => Phrase.wordList.getD (ofBits piece) ""

/-- The place of each word in the list. -/
def indices : List String → Except PhraseError (List Nat)
  | [] => .ok []
  | word :: rest =>
    match wordList.idxOf? word with
    | some index => do return index :: (← indices rest)
    | none => .error (.unknownWord word)

/-- The secret that a phrase holds. -/
def secret (phrase : String) : Except PhraseError Bytes := do
  let bytes := bytesOfBits ((← indices (phrase.splitOn " ")).flatMap (bitsOf 11))
  match secretLength? bytes.length with
  | none => throw (.wrongLength bytes.length)
  | some length =>
    if " ".intercalate (wordsOf (bytes.take length)) = phrase then return bytes.take length
    else throw (.wrongChecksum phrase)

/-- A private key and the code that its children are derived with. -/
structure Branch where
  (key : PrivateKey) (code : Bytes)

/-- The branch that 64 bytes hold, added to a key; none when the result is out of range. -/
def branch? (parent : Nat) (bytes : FixedBytes 64) : Option Branch := do
  let tweak := Bytes.toNat (bytes.toBytes.take 32)
  if Secp256k1.order ≤ tweak then none
  else some ⟨← PrivateKey.ofNat? ((tweak + parent) % Secp256k1.order), bytes.toBytes.drop 32⟩

/-- The root of the tree of a seed. -/
def root? (seed : Bytes) : Option Branch := branch? 0 (hmacSha512 (Bytes.ofText "Bitcoin seed") seed)

/-- A public point as 33 bytes: the parity of `y` and then `x`. -/
def compressed (p : Secp256k1.Point) : Bytes := UInt8.ofNat (2 + p.y % 2) :: Bytes.ofNat 32 p.x

/-- The child of a branch; one from `2 ^ 31` up is derived from the private key and the others from the public point. -/
def Branch.child? (parent : Branch) (index : Nat) : Option Branch := do
  let data ←
    if 0x80000000 ≤ index then some (0 :: parent.key.toHash.toBytes)
    else (Secp256k1.generator.multiple? parent.key.secret).map compressed
  branch? parent.key.secret (hmacSha512 parent.code (data ++ Bytes.ofNat 4 index))

/-- The path `m/44'/60'/0'/0/0`. -/
def path : List Nat := [0x80000000 + 44, 0x80000000 + 60, 0x80000000, 0, 0]

/-- The seed of a phrase without a password. -/
def seed (phrase : String) : Bytes :=
  (pbkdf2Sha512 (Bytes.ofText phrase) (Bytes.ofText "mnemonic") 2048).toBytes

/-- The private key of a phrase. -/
def privateKey (phrase : String) : Except PhraseError PrivateKey := do
  let _ ← secret phrase
  match (root? (seed phrase)).bind fun root => path.foldlM Branch.child? root with
  | some branch => return branch.key
  | none => throw .keyOutOfRange

end Phrase

end DynamicFeeWallet
