import DynamicFeeWallet.Bytes

/-!
# 256-bit amounts

`UInt256` is a number below `2 ^ 256`, the range of every amount, fee and nonce. Its arithmetic saturates: a result
past the range is the largest amount, `UInt256.max`.
-/

namespace DynamicFeeWallet

/-- The number of amounts. -/
def UInt256.size : Nat := Nat.pow 2 256

/-- A number below `2 ^ 256`. -/
structure UInt256 where
  /-- The number. -/
  toNat : Nat
  /-- It is in range. -/
  toNat_lt : toNat < UInt256.size
deriving DecidableEq

namespace UInt256

@[ext] theorem ext {a b : UInt256} (h : a.toNat = b.toNat) : a = b := by
  cases a
  cases b
  cases h
  rfl

/-- The number as a 256-bit amount, if it is in range. -/
def ofNat? (n : Nat) : Option UInt256 := if h : n < size then some ⟨n, h⟩ else none

/-- Zero. -/
def zero : UInt256 := ⟨0, by decide⟩

/-- The largest amount. -/
def max : UInt256 := ⟨size - 1, by decide⟩

/-- The number, or the largest amount when it is past the range. -/
def saturate (n : Nat) : UInt256 := (ofNat? n).getD max

/-- A 64-bit number as an amount. -/
def ofUInt64 (n : UInt64) : UInt256 := ⟨n.toNat, Nat.lt_of_lt_of_le n.toNat_lt (by decide)⟩

/-- The number that 32 big-endian bytes write. -/
def ofHash (h : Hash) : UInt256 := saturate h.toNat

/-- The amount as 32 big-endian bytes. -/
def toHash (a : UInt256) : Hash := FixedBytes.ofNat 32 a.toNat

/-- The sum, saturated. -/
def satAdd (a b : UInt256) : UInt256 := saturate (a.toNat + b.toNat)

/-- The product with a number, saturated. -/
def satMul (a : UInt256) (k : Nat) : UInt256 := saturate (a.toNat * k)

/-- The quotient by a number, rounded down. -/
def div (a : UInt256) (k : Nat) : UInt256 := ⟨a.toNat / k, Nat.lt_of_le_of_lt (Nat.div_le_self _ _) a.toNat_lt⟩

instance : Inhabited UInt256 := ⟨zero⟩

/-- An amount is written in decimal. -/
instance : ToString UInt256 where
  toString a := toString a.toNat

/-- The amount as a 64-bit number, if it fits. -/
def toUInt64? (a : UInt256) : Option UInt64 := if a.toNat < UInt64.size then some (UInt64.ofNat a.toNat) else none

theorem ofNat?_eq_some_iff {n : Nat} {a : UInt256} : ofNat? n = some a ↔ a.toNat = n := by
  unfold ofNat?
  split
  · exact ⟨fun h => by cases h; rfl, fun h => by cases h; rfl⟩
  · rename_i h
    constructor
    · intro e
      nomatch e
    · intro e
      exact absurd (e ▸ a.toNat_lt) h

/-- The 64-bit number is the same number. -/
theorem toUInt64?_eq_some_iff {a : UInt256} {n : UInt64} : a.toUInt64? = some n ↔ a.toNat = n.toNat := by
  unfold toUInt64?
  split
  · rename_i h
    rw [Option.some_inj, ← UInt64.toNat_inj, UInt64.toNat_ofNat', Nat.mod_eq_of_lt h]
  · rename_i h
    constructor
    · intro e
      nomatch e
    · intro e
      exact absurd (e ▸ n.toNat_lt) h

/-- Saturation takes the smaller of the number and the largest amount. -/
theorem toNat_saturate (n : Nat) : (saturate n).toNat = min n (size - 1) := by
  unfold saturate ofNat?
  split
  · simp only [Option.getD_some]; omega
  · simp only [Option.getD_none, max]; omega

end UInt256

end DynamicFeeWallet
