import DynamicFeeWallet.Bytes
import Mathlib.Algebra.Order.Ring.Nat
import Mathlib.Data.List.Induction

/-!
# Big-endian numbers

`Bytes.ofNat` and `Bytes.toNat` undo each other at a fixed width, and `Bytes.minimal` and `Bytes.toNat` undo each
other between the numbers of a width and the byte strings without a leading zero that are not wider (`toNat_minimal`,
`minimal_toNat`).
-/

namespace DynamicFeeWallet.Bytes

/-- Reading back what was written at a width gives the number modulo the range of that width. -/
theorem toNat_ofNat (width n : Nat) : toNat (ofNat width n) = n % 256 ^ width := by
  induction width generalizing n with
  | zero => simp [ofNat, Nat.mod_one]
  | succ width ih =>
    rw [ofNat, toNat_append_singleton, ih, Nat.pow_succ, Nat.mul_comm (256 ^ width) 256, Nat.mod_mul, UInt8.toNat_ofNat']
    omega

/-- The digits of two byte strings put end to end. -/
theorem toNat_append (a b : Bytes) : toNat (a ++ b) = toNat a * 256 ^ b.length + toNat b := by
  induction b using List.reverseRecOn with
  | nil => simp
  | append_singleton b d ih =>
    rw [← List.append_assoc, toNat_append_singleton, toNat_append_singleton, ih,
      List.length_append, List.length_singleton, Nat.pow_succ, Nat.add_mul, Nat.mul_assoc, Nat.add_assoc]

theorem toNat_cons (d : UInt8) (bytes : Bytes) : toNat (d :: bytes) = d.toNat * 256 ^ bytes.length + toNat bytes := by
  have h := toNat_append [d] bytes
  simpa [toNat] using h

/-- A byte string writes a number in the range of its length. -/
theorem toNat_lt (bytes : Bytes) : toNat bytes < 256 ^ bytes.length := by
  induction bytes with
  | nil => simp
  | cons d bytes ih =>
    have hd := d.toNat_lt
    rw [toNat_cons, List.length_cons, Nat.pow_succ]
    calc d.toNat * 256 ^ bytes.length + toNat bytes
        < d.toNat * 256 ^ bytes.length + 256 ^ bytes.length := by omega
      _ = (d.toNat + 1) * 256 ^ bytes.length := by rw [Nat.succ_mul]
      _ ≤ 256 * 256 ^ bytes.length := Nat.mul_le_mul_right _ (by omega)
      _ = 256 ^ bytes.length * 256 := Nat.mul_comm _ _

/-- Writing the number that a byte string writes, at its own width, gives the byte string back. -/
theorem ofNat_toNat (bytes : Bytes) : ofNat bytes.length (toNat bytes) = bytes := by
  induction bytes using List.reverseRecOn with
  | nil => rfl
  | append_singleton bytes d ih =>
    have hd := d.toNat_lt
    have hq : (toNat bytes * 256 + d.toNat) / 256 = toNat bytes := by omega
    have hr : UInt8.ofNat (toNat bytes * 256 + d.toNat) = d := by
      apply UInt8.toNat_inj.mp
      rw [UInt8.toNat_ofNat']
      omega
    rw [List.length_append, List.length_singleton, toNat_append_singleton, ofNat, hq, hr, ih]

/-! ## Leading zeros -/

theorem toNat_replicate_zero (n : Nat) : toNat (List.replicate n 0) = 0 := by
  induction n with
  | zero => rfl
  | succ n ih => rw [List.replicate_succ, toNat_cons, ih]; simp

/-- Leading zeros do not count. -/
theorem toNat_dropWhile_zero (bytes : Bytes) : toNat (bytes.dropWhile (· == 0)) = toNat bytes := by
  induction bytes with
  | nil => rfl
  | cons d bytes ih =>
    by_cases hd : d = 0
    · subst hd
      rw [List.dropWhile_cons_of_pos (by simp), ih, toNat_cons]
      simp
    · rw [List.dropWhile_cons_of_neg (by simpa using hd)]

/-- A byte string without a leading zero stays as it is when leading zeros are dropped. -/
theorem dropWhile_zero_eq_self {bytes : Bytes} (h : bytes.head? ≠ some 0) : bytes.dropWhile (· == 0) = bytes := by
  cases bytes with
  | nil => rfl
  | cons d bytes => exact List.dropWhile_cons_of_neg (by simpa using h)

/-- A byte string without a leading zero is no longer than its number needs. -/
theorem length_le_of_toNat_lt {bytes : Bytes} {width : Nat} (h : bytes.head? ≠ some 0) (hlt : toNat bytes < 256 ^ width) :
    bytes.length ≤ width := by
  cases bytes with
  | nil => simp
  | cons d bytes =>
    have hd : d.toNat ≠ 0 := by
      intro e
      rw [List.head?_cons] at h
      exact h (congrArg some (UInt8.toNat_inj.mp e))
    have hle : 256 ^ bytes.length ≤ toNat (d :: bytes) := by
      rw [toNat_cons]
      exact Nat.le_add_right_of_le (Nat.le_mul_of_pos_left _ (by omega))
    have := (Nat.pow_lt_pow_iff_right (by decide)).mp (Nat.lt_of_le_of_lt hle hlt)
    rw [List.length_cons]
    omega

/-! ## The shortest writing -/

/-- The shortest writing of a number in range reads back. -/
theorem toNat_minimal {width n : Nat} (h : n < 256 ^ width) : toNat (minimal width n) = n := by
  rw [minimal, toNat_dropWhile_zero, toNat_ofNat, Nat.mod_eq_of_lt h]

theorem length_minimal_le (width n : Nat) : (minimal width n).length ≤ width := by
  have h := (List.dropWhile_suffix (l := ofNat width n) (· == 0)).length_le
  rwa [length_ofNat] at h

/-- The shortest writing has no leading zero. -/
theorem head?_minimal (width n : Nat) : (minimal width n).head? ≠ some 0 := by
  have h := List.head?_dropWhile_not (· == 0) (ofNat width n)
  intro e
  rw [minimal] at e
  rw [e] at h
  exact absurd h (by decide)

/-- A byte string without a leading zero is the shortest writing of its number. -/
theorem minimal_toNat {bytes : Bytes} {width : Nat} (h : bytes.head? ≠ some 0) (hlen : bytes.length ≤ width) :
    minimal width (toNat bytes) = bytes := by
  have hpad : toNat (List.replicate (width - bytes.length) 0 ++ bytes) = toNat bytes := by
    rw [toNat_append, toNat_replicate_zero, Nat.zero_mul, Nat.zero_add]
  have hwidth : (List.replicate (width - bytes.length) (0 : UInt8) ++ bytes).length = width := by simp; omega
  have hdigits := ofNat_toNat (List.replicate (width - bytes.length) 0 ++ bytes)
  rw [hpad, hwidth] at hdigits
  rw [minimal, hdigits, List.dropWhile_append_of_pos (by simp), dropWhile_zero_eq_self h]

end DynamicFeeWallet.Bytes
