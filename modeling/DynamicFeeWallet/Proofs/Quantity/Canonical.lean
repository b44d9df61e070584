import DynamicFeeWallet.Proofs.Quantity
import Mathlib.Data.List.Basic
import Mathlib.Data.List.Induction

/-!
# Quantities are written in one form

Many texts are read as the same amount: digits of either case, zeros in front and low lines make no difference.
Exactly one of them is in canonical form, and it is the one that is written (`render_canonical`). For any digits
without a zero in front are the digits of the number that they write (`Shortest.toDigits_value`), and the digits of a
number have no zero in front (`shortest_toDigits`).
-/

namespace DynamicFeeWallet.Quantity

/-- Small digits, and no zero in front of others. -/
structure Shortest (digits : List Char) : Prop where
  /-- The digits are no capitals. -/
  small : ∀ c ∈ digits, c ∈ Hex.smallDigits
  /-- A zero in front stands alone. -/
  zero_alone : digits.head? = some '0' → digits = ['0']

/-- A text of small digits after a small mark, without a zero in front unless it is `0x0`. -/
def IsCanonical (text : String) : Prop := ∃ digits, text.toList = '0' :: 'x' :: digits ∧ Shortest digits

/-- A number is written without a zero in front. -/
theorem shortest_toDigits (n : Nat) : Shortest (Nat.toDigits 16 n) := by
  refine ⟨Hex.mem_smallDigits_of_mem_toDigits n, ?_⟩
  refine Hex.toDigits_induction (motive := fun _ digits => digits.head? = some '0' → digits = ['0']) ?digit ?more n
  case digit =>
    intro d _ hhead
    rw [Option.some.inj hhead]
  case more =>
    intro n d hn _ ih hhead
    rw [List.head?_append_of_ne_nil _ Nat.toDigits_ne_nil] at hhead
    -- the digits in front would be those of zero
    have hvalue := value_toDigits n
    rw [ih hhead] at hvalue
    exact absurd hvalue hn.ne

/-- With the last digit taken away the digits are still of this kind, and then a zero in front is none at all. -/
theorem Shortest.init {digits : List Char} {c : Char} (h : Shortest (digits ++ [c])) (hsome : digits ≠ []) :
    Shortest digits ∧ digits.head? ≠ some '0' := by
  have hhead : digits.head? ≠ some '0' := by
    intro hhead
    rw [← List.head?_append_of_ne_nil digits hsome] at hhead
    rcases List.append_eq_singleton_iff.mp (h.zero_alone hhead) with ⟨hnone, -⟩ | ⟨-, hlast⟩
    · exact hsome hnone
    · nomatch hlast
  exact ⟨⟨fun c' hc' => h.small c' (List.mem_append_left _ hc'), fun hzero => absurd hzero hhead⟩, hhead⟩

/-- Digits of this kind are those of the number that they write. -/
theorem Shortest.toDigits_value {digits : List Char} (h : Shortest digits) (hsome : digits ≠ []) :
    Nat.toDigits 16 (value digits) = digits := by
  induction digits using List.reverseRecOn with
  | nil => exact absurd rfl hsome
  | append_singleton digits c ih =>
    obtain ⟨d, hd, rfl⟩ := Hex.mem_smallDigits_iff.mp (h.small c (List.mem_append_right _ List.mem_cons_self))
    rw [value_append_singleton, Hex.digit?_digitChar d hd]
    dsimp only
    by_cases hfront : digits = []
    · subst hfront
      rw [value_nil, Nat.zero_mul, Nat.zero_add, Nat.toDigits_of_lt_base hd, List.nil_append]
    · obtain ⟨hshortest, hhead⟩ := h.init hfront
      have hdigits := ih hshortest hfront
      have hpos : 0 < value digits := by
        refine Nat.pos_of_ne_zero fun hzero => hhead ?_
        rw [← hdigits, hzero]
        rfl
      rw [Hex.toDigits_mul_add hpos hd, hdigits]

/-- The texts in canonical form are those that are written, and the mark alone. -/
theorem isCanonical_iff {text : String} : IsCanonical text ↔ text = "0x" ∨ ∃ n, text = render n := by
  constructor
  · rintro ⟨digits, htext, hshortest⟩
    by_cases hsome : digits = []
    · subst hsome
      exact .inl (String.toList_injective htext)
    · refine .inr ⟨value digits, String.toList_injective ?_⟩
      rw [htext, render, String.toList_ofList, hshortest.toDigits_value hsome]
  · rintro (rfl | ⟨n, rfl⟩)
    · exact ⟨[], rfl, nofun, nofun⟩
    · exact ⟨Nat.toDigits 16 n, String.toList_ofList, shortest_toDigits n⟩

/-- What is written names a block. -/
theorem isBlock_render (n : Nat) : Argument.isBlock (render n) = true := by
  rw [Argument.isBlock_eq_true]
  exact .inr ⟨Nat.toDigits 16 n, .inl String.toList_ofList, Hex.isDigit_of_mem_toDigits n⟩

/-! ## Main statement -/

/-- An amount is read from what is written for it, and from no other text in canonical form. The number of a block is
written like the same amount, and the text names a block. -/
theorem render_canonical :
    (∀ (amount : UInt256) (text : String),
        IsCanonical text ∧ ofJson? (.text text) = some amount ↔ text = render amount.toNat) ∧
      ∀ number : UInt64,
        render number.toNat = render (UInt256.ofUInt64 number).toNat ∧ Argument.isBlock (render number.toNat) = true := by
  refine ⟨fun amount text => ⟨?_, ?_⟩, fun number => ⟨rfl, isBlock_render number.toNat⟩⟩
  · rintro ⟨hcanonical, hread⟩
    rcases isCanonical_iff.mp hcanonical with rfl | ⟨n, rfl⟩
    · -- there is nothing after the mark
      have hnone : ofJson? (.text "0x") = none := by decide +kernel
      rw [hnone] at hread
      nomatch hread
    · have hrange : UInt256.ofNat? n = some amount := (ofText?_render n).symm.trans hread
      rw [UInt256.ofNat?_eq_some_iff.mp hrange]
  · rintro rfl
    have hread : ofText? (render amount.toNat) = some amount :=
      (ofText?_render amount.toNat).trans (UInt256.ofNat?_eq_some_iff.mpr rfl)
    exact ⟨isCanonical_iff.mpr (.inr ⟨amount.toNat, rfl⟩), hread⟩

end DynamicFeeWallet.Quantity
