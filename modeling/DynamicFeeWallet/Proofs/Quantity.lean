import DynamicFeeWallet.Proofs.Request.Argument
import DynamicFeeWallet.Quantity
import Mathlib.Data.List.Induction
import Mathlib.Data.Nat.Digits.Defs

/-!
# Quantities are read back

The digits of a number are read as the number (`readDigits_toDigits`), so different numbers are written differently
(`render_injective`), and what is written is read as the amount, if it is in range (`ofText?_render`). A text is read
as the number that its hexadecimal digits write, with low lines passed over; it follows the grammar of hexadecimal
data when there are no low lines (`ofJson?_eq_some_iff`).
-/

namespace DynamicFeeWallet.Quantity

/-- Digits are read one after the other: what the first ones write is carried on to the rest. -/
theorem readDigits_append (base : Nat) (text rest : List Char) (n : Nat) :
    readDigits base (text ++ rest) n = (readDigits base text n).bind (readDigits base rest) := by
  induction text generalizing n with
  | nil => rfl
  | cons c text ih =>
    by_cases hc : c = '_'
    · subst hc
      exact ih n
    · rw [List.cons_append, readDigits, readDigits]
      · cases Hex.digit? c with
        | none => rfl
        | some d =>
          dsimp only
          split
          · exact ih _
          · rfl
      · exact hc
      · exact hc

/-- One digit more. -/
theorem readDigits_digitChar {d : Nat} (h : d < 16) (n : Nat) :
    readDigits 16 [Nat.digitChar d] n = some (n * 16 + d) := by
  have hdigit := Hex.digit?_digitChar d h
  have hmark : Nat.digitChar d ≠ '_' := by
    intro heq
    rw [heq] at hdigit
    nomatch hdigit
  rw [readDigits, hdigit]
  · simp only [if_pos h, readDigits]
  · exact hmark

/-- What is written is read back. -/
theorem readDigits_toDigits (n : Nat) : readDigits 16 (Nat.toDigits 16 n) 0 = some n := by
  refine Hex.toDigits_induction (motive := fun n digits => readDigits 16 digits 0 = some n) ?digit ?more n
  case digit =>
    intro d hd
    rw [readDigits_digitChar hd, Nat.zero_mul, Nat.zero_add]
  case more =>
    intro n d _ hd ih
    rw [readDigits_append, ih, Option.bind_some, readDigits_digitChar hd]

/-- Different numbers are written differently. -/
theorem render_injective : Function.Injective render := by
  intro m n h
  obtain ⟨-, hmarked⟩ := List.cons.inj (String.ofList_injective h)
  obtain ⟨-, hdigits⟩ := List.cons.inj hmarked
  have hread := readDigits_toDigits m
  rw [hdigits, readDigits_toDigits] at hread
  exact (Option.some.inj hread).symm

/-! ## What is read -/

/-- The number that hexadecimal digits write, whatever stands between them. -/
def value (text : List Char) : Nat := Nat.ofDigits 16 (text.filterMap Hex.digit?).reverse

theorem value_nil : value [] = 0 := rfl

/-- One character more is one digit more, or nothing more. -/
theorem value_append_singleton (text : List Char) (c : Char) :
    value (text ++ [c]) = match Hex.digit? c with
      | some d => value text * 16 + d
      | none => value text := by
  unfold value
  rw [List.filterMap_append, List.reverse_append]
  cases hdigit : Hex.digit? c with
  | none => simp [hdigit]
  | some d =>
    simp only [List.filterMap_cons, hdigit, List.filterMap_nil, List.reverse_singleton,
      List.singleton_append, Nat.ofDigits_cons]
    omega

theorem readDigits_singleton (c : Char) (n : Nat) :
    readDigits 16 [c] n = if c = '_' then some n else (Hex.digit? c).map fun d => n * 16 + d := by
  by_cases hc : c = '_'
  · rw [if_pos hc, hc]
    rfl
  · rw [if_neg hc, readDigits]
    · cases hdigit : Hex.digit? c with
      | none => rfl
      | some d => simp only [if_pos (Hex.digit?_lt hdigit), readDigits, Option.map_some]
    · exact hc

/-- Hexadecimal digits are read as the number that they write, and low lines between them are passed over. -/
theorem readDigits_eq_some {text : List Char} {n : Nat} :
    readDigits 16 text 0 = some n ↔ (∀ c ∈ text, Hex.isDigit c = true ∨ c = '_') ∧ value text = n := by
  induction text using List.reverseRecOn generalizing n with
  | nil => simp [readDigits, value]
  | append_singleton text c ih =>
    have hall : (∀ c' ∈ text ++ [c], Hex.isDigit c' = true ∨ c' = '_') ↔
        (∀ c' ∈ text, Hex.isDigit c' = true ∨ c' = '_') ∧ (Hex.isDigit c = true ∨ c = '_') := by
      simp [or_imp, forall_and]
    have hlowLine : Hex.digit? '_' = none := rfl
    rw [readDigits_append, Option.bind_eq_some_iff, hall, value_append_singleton]
    simp only [ih, readDigits_singleton, Hex.isDigit]
    by_cases hc : c = '_'
    · simp [hc, hlowLine]
    · cases hdigit : Hex.digit? c with
      | none => simp [hc]
      | some d => simp [hc]

/-- The digits of a number write the number. -/
theorem value_toDigits (n : Nat) : value (Nat.toDigits 16 n) = n := (readDigits_eq_some.mp (readDigits_toDigits n)).2

/-- The amount is the number that the digits write, if it is in range. -/
theorem ofDigits?_eq_some {text : List Char} {amount : UInt256} :
    ofDigits? 16 text = some amount ↔ (∀ c ∈ text, Hex.isDigit c = true ∨ c = '_') ∧ value text = amount.toNat := by
  simp only [ofDigits?, Option.bind_eq_some_iff, readDigits_eq_some, UInt256.ofNat?_eq_some_iff]
  constructor
  · rintro ⟨n, ⟨hall, rfl⟩, hamount⟩
    exact ⟨hall, hamount.symm⟩
  · rintro ⟨hall, hvalue⟩
    exact ⟨_, ⟨hall, hvalue⟩, rfl⟩

/-- A number is written in its digits after a mark. -/
theorem marked?_render (n : Nat) : Hex.marked? (render n).toList = some (Nat.toDigits 16 n) :=
  Hex.marked?_eq_some.mpr (.inl String.toList_ofList)

theorem ofText?_eq_some {text : String} {amount : UInt256} :
    ofText? text = some amount ↔
      ∃ digits, Hex.marked? text.toList = some digits ∧ digits ≠ [] ∧ (∀ c ∈ digits, Hex.isDigit c = true ∨ c = '_') ∧
        value digits = amount.toNat := by
  unfold ofText?
  cases hmarked : Hex.marked? text.toList with
  | none => simp
  | some digits =>
    cases digits with
    | nil => simp
    | cons c rest => simp [ofDigits?_eq_some]

/-- What is written is read as the number if it is in range, and not at all otherwise. -/
theorem ofText?_render (n : Nat) : ofText? (render n) = UInt256.ofNat? n := by
  unfold ofText?
  rw [marked?_render]
  cases hdigits : Nat.toDigits 16 n with
  | nil => exact absurd hdigits Nat.toDigits_ne_nil
  | cons c rest =>
    dsimp only
    rw [← hdigits, ofDigits?, readDigits_toDigits, Option.bind_some]

/-! ## Main statement -/

/-- A text writes an amount by the grammar of hexadecimal data: after a mark there are digits only, and at least one,
and they write it. -/
def Writes (text : String) (amount : UInt256) : Prop :=
  Argument.isMarkedHex text = true ∧
    ∃ digits, (text.toList = '0' :: 'x' :: digits ∨ text.toList = '0' :: 'X' :: digits) ∧ digits ≠ [] ∧
    value digits = amount.toNat

/-- A text is read as an amount exactly when there is something after a mark, of digits and low lines only, and the
digits write the amount. Of the texts without low lines, those are read that write an amount by the grammar of
hexadecimal data, and no others. -/
theorem ofJson?_eq_some_iff (text : String) (amount : UInt256) :
    (ofJson? (.text text) = some amount ↔
        ∃ digits, (text.toList = '0' :: 'x' :: digits ∨ text.toList = '0' :: 'X' :: digits) ∧ digits ≠ [] ∧
          (∀ c ∈ digits, Hex.isDigit c = true ∨ c = '_') ∧ value digits = amount.toNat) ∧
      (Writes text amount ↔ ofJson? (.text text) = some amount ∧ '_' ∉ text.toList) := by
  have hread : ofJson? (.text text) = some amount ↔
      ∃ digits, (text.toList = '0' :: 'x' :: digits ∨ text.toList = '0' :: 'X' :: digits) ∧ digits ≠ [] ∧
        (∀ c ∈ digits, Hex.isDigit c = true ∨ c = '_') ∧ value digits = amount.toNat := by
    simp only [← Hex.marked?_eq_some]
    exact ofText?_eq_some
  have hlowLine {digits : List Char} (h : text.toList = '0' :: 'x' :: digits ∨ text.toList = '0' :: 'X' :: digits) :
      '_' ∈ text.toList ↔ '_' ∈ digits := by
    rcases h with h | h <;> simp [h]
  refine ⟨hread, ?_⟩
  rw [hread]
  constructor
  · rintro ⟨hhex, digits, hmarked, hsome, hvalue⟩
    obtain ⟨digits', hmarked', hall⟩ := Argument.isMarkedHex_iff.mp hhex
    obtain rfl : digits' = digits := Option.some.inj (hmarked'.symm.trans (Hex.marked?_eq_some.mpr hmarked))
    refine ⟨⟨digits', hmarked, hsome, fun c hc => Or.inl (hall c hc), hvalue⟩, fun hmem => ?_⟩
    nomatch hall '_' ((hlowLine hmarked).mp hmem)
  · rintro ⟨⟨digits, hmarked, hsome, hall, hvalue⟩, hnone⟩
    have hdigits : ∀ c ∈ digits, Hex.isDigit c = true := by
      intro c hc
      refine (hall c hc).resolve_right ?_
      rintro rfl
      exact hnone ((hlowLine hmarked).mpr hc)
    exact ⟨Argument.isMarkedHex_iff.mpr ⟨digits, Hex.marked?_eq_some.mpr hmarked, hdigits⟩, digits, hmarked, hsome, hvalue⟩

/-- A text that is no hexadecimal data is read as an amount all the same. -/
theorem writes_of_ofJson?_false : ¬∀ text amount, ofJson? (.text text) = some amount ↔ Writes text amount := by
  intro h
  have hread : ofJson? (.text "0x_") = some .zero := by decide +kernel
  have hhex : Argument.isMarkedHex "0x_" = false := by decide +kernel
  have hwrites := (h "0x_" .zero).mp hread
  rw [Writes, hhex] at hwrites
  nomatch hwrites.1

end DynamicFeeWallet.Quantity
