import DynamicFeeWallet.Bytes

/-!
# Keccak-256

The sponge over the permutation of 1600 bits, with 136 bytes to a block and the padding `01 … 80`. The state is 25
lanes of 64 bits; the lane in column `x` and row `y` is number `x + 5 * y`.
-/

namespace DynamicFeeWallet.Keccak

/-- The 25 lanes. -/
abbrev State := Vector UInt64 25

/-- How far each lane is rotated. -/
def offsets : Vector UInt64 25 :=
  #v[0, 1, 62, 28, 27, 36, 44, 6, 55, 20, 3, 10, 43, 25, 39, 41, 45, 15, 21, 8, 18, 2, 61, 56, 14]

/-- What each of the 24 rounds adds to the first lane. -/
def roundConstants : List UInt64 := [
  0x0000000000000001, 0x0000000000008082, 0x800000000000808a, 0x8000000080008000, 0x000000000000808b, 0x0000000080000001,
  0x8000000080008081, 0x8000000000008009, 0x000000000000008a, 0x0000000000000088, 0x0000000080008009, 0x000000008000000a,
  0x000000008000808b, 0x800000000000008b, 0x8000000000008089, 0x8000000000008003, 0x8000000000008002, 0x8000000000000080,
  0x000000000000800a, 0x800000008000000a, 0x8000000080008081, 0x8000000000008080, 0x0000000080000001, 0x8000000080008008]

/-- A lane rotated towards its high bits. -/
def rotate (w n : UInt64) : UInt64 := (w <<< n) ||| (w >>> (64 - n))

/-- The lane in column `x` and row `y`, both counted around. -/
def lane {α : Type} (s : Vector α 25) (x y : Nat) : α := s.get ⟨x % 5 + 5 * (y % 5), by omega⟩

/-- The 25 lanes by column and row. -/
def ofLanes (f : Nat → Nat → UInt64) : State := Vector.ofFn fun i => f (i.val % 5) (i.val / 5)

/-- Every lane plus the parities of the two columns beside its own. -/
def theta (s : State) : State :=
  let column : Vector UInt64 5 := Vector.ofFn fun x =>
    lane s x 0 ^^^ lane s x 1 ^^^ lane s x 2 ^^^ lane s x 3 ^^^ lane s x 4
  let parity (x : Nat) : UInt64 := column.get ⟨x % 5, Nat.mod_lt _ (by decide)⟩
  let change : Vector UInt64 5 := Vector.ofFn fun x => parity (x.val + 4) ^^^ rotate (parity (x.val + 1)) 1
  ofLanes fun x y => lane s x y ^^^ change.get ⟨x % 5, Nat.mod_lt _ (by decide)⟩

/-- Every lane rotated and moved: what ends in column `x` and row `y` comes from column `x + 3 * y` and row `x`. -/
def rhoPi (s : State) : State := ofLanes fun x y => rotate (lane s (x + 3 * y) x) (lane offsets (x + 3 * y) x)

/-- Every lane plus the product of the two lanes after it in its row, the nearer one inverted. -/
def chi (s : State) : State := ofLanes fun x y => lane s x y ^^^ (~~~ lane s (x + 1) y &&& lane s (x + 2) y)

/-- One round. -/
def round (s : State) (constant : UInt64) : State :=
  let mixed := chi (rhoPi (theta s))
  mixed.set 0 (mixed[0] ^^^ constant)

/-- The permutation. -/
def permute (s : State) : State := roundConstants.foldl round s

/-- The lanes that a byte string writes, eight bytes each, the least significant first. -/
def lanesOf : Bytes → List UInt64
  | a :: b :: c :: d :: e :: f :: g :: h :: rest =>
    (a.toUInt64 ||| b.toUInt64 <<< 8 ||| c.toUInt64 <<< 16 ||| d.toUInt64 <<< 24 ||| e.toUInt64 <<< 32 |||
      f.toUInt64 <<< 40 ||| g.toUInt64 <<< 48 ||| h.toUInt64 <<< 56) :: lanesOf rest
  | _ => []

/-- The eight bytes of a lane, the least significant first. -/
def laneBytes (w : UInt64) : Bytes :=
  [w.toUInt8, (w >>> 8).toUInt8, (w >>> 16).toUInt8, (w >>> 24).toUInt8, (w >>> 32).toUInt8, (w >>> 40).toUInt8,
    (w >>> 48).toUInt8, (w >>> 56).toUInt8]

/-- The number of bytes to a block. -/
def rate : Nat := 136

/-- A message padded to whole blocks. -/
def pad (message : Bytes) : Bytes :=
  let free := rate - message.length % rate
  if free = 1 then message ++ [0x81] else message ++ 0x01 :: List.replicate (free - 2) 0 ++ [0x80]

/-- Adds one block to the state and permutes. -/
def absorbBlock (s : State) (block : Bytes) : State :=
  let words := (lanesOf block).toArray
  permute (Vector.ofFn fun i => s.get i ^^^ words.getD i.val 0)

/-- Absorbs the first `blocks` blocks of a message. -/
def absorb : Nat → State → Bytes → State
  | 0, s, _ => s
  | blocks + 1, s, message => absorb blocks (absorbBlock s (message.take rate)) (message.drop rate)

/-- The digest that the first four lanes hold. -/
def squeeze (s : State) : Hash :=
  ⟨laneBytes s[0] ++ laneBytes s[1] ++ laneBytes s[2] ++ laneBytes s[3], rfl⟩

end DynamicFeeWallet.Keccak

namespace DynamicFeeWallet

/-- The Keccak-256 digest of a message. -/
def keccak256 (message : Bytes) : Hash :=
  let padded := Keccak.pad message
  Keccak.squeeze (Keccak.absorb (padded.length / Keccak.rate) (Vector.replicate 25 0) padded)

end DynamicFeeWallet
