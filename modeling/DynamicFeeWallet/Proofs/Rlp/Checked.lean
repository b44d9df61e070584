import DynamicFeeWallet.Proofs.Rlp.Reader

/-!
# Reading with every step checked

A slice past the end, a difference below zero, a copy of another length and a loop that goes on for too long stop a
`Checked` reading dead: it then gives neither a value nor a reason. The readers of items are written so once more
here, with such a step wherever they take bytes off, subtract, copy or loop, and none of them is ever stopped: each
comes to what the reader without checks does. What carries this is that a header which is read announces no more than
what follows it, and that no item is empty (`readHeader_progress`).
-/

namespace DynamicFeeWallet

/-- A value, or a reason why there is none; or nothing at all, where a step was stopped. -/
abbrev Checked (ε : Type) := ExceptT ε Option

namespace Checked

variable {ε ε' α β : Type}

/-- What is not stopped. -/
def sound (x : Except ε α) : Checked ε α := ExceptT.mk (some x)

/-- What is stopped. -/
def stopped : Checked ε α := ExceptT.mk none

/-- The first `n` bytes, and those after them. -/
def split (n : Nat) (input : Bytes) : Checked ε (Bytes × Bytes) :=
  if n ≤ input.length then sound (.ok (input.take n, input.drop n)) else stopped

/-- A difference of lengths, which cannot be below zero. -/
def difference (m n : Nat) : Checked ε Nat := if n ≤ m then sound (.ok (m - n)) else stopped

/-- A copy of exactly `n` bytes. -/
def copy (n : Nat) (bytes : Bytes) : Checked ε (FixedBytes n) :=
  if h : bytes.length = n then sound (.ok ⟨bytes, h⟩) else stopped

/-- Gives another reason. -/
def mapError (f : ε → ε') (x : Checked ε α) : Checked ε' α := ExceptT.mk (x.run.map (·.mapError f))

theorem mapError_sound (f : ε → ε') (x : Except ε α) : mapError f (sound x) = sound (x.mapError f) := rfl

/-- A slice within the input is never stopped. -/
theorem split_of_le {n : Nat} {input : Bytes} (h : n ≤ input.length) :
    (split n input : Checked ε _) = sound (.ok (input.take n, input.drop n)) := if_pos h

/-- A difference of a number and a smaller one is never stopped. -/
theorem difference_of_le {m n : Nat} (h : n ≤ m) : (difference m n : Checked ε _) = sound (.ok (m - n)) := if_pos h

/-- A copy of bytes of the right length is never stopped. -/
theorem copy_of_length_eq {n : Nat} {bytes : Bytes} (h : bytes.length = n) :
    (copy n bytes : Checked ε _) = sound (.ok ⟨bytes, h⟩) := dif_pos h

theorem sound_ok_bind (a : α) (g : α → Checked ε β) : (sound (.ok a) >>= g) = g a := rfl

/-- After a step that is not stopped, what follows need not be stopped only for the value that the step gives. -/
theorem bind_eq {c : Checked ε α} {x : Except ε α} {g : α → Checked ε β} {f : α → Except ε β} (hc : c = sound x)
    (hg : ∀ a, x = .ok a → g a = sound (f a)) : (c >>= g) = sound (x >>= f) := by
  subst hc
  cases x with
  | error error => rfl
  | ok a => exact hg a rfl

end Checked

namespace Rlp

open Checked

variable {α β : Type}

/-! ## Headers -/

/-- A length of `size` bytes. -/
def checkedLength (isList : Bool) (size : Nat) (input : Bytes) : Checked DecodeError (Header × Bytes) :=
  if input.length < size then throw .tooShort
  else do
    let (written, rest) ← split size input
    if written.head? = some 0 then throw .leadingZero
    else if Bytes.toNat written < 56 then throw .longForm
    else sound ((Header.mk isList (Bytes.toNat written)).check rest)

/-- The header in front. -/
def checkedHeader : Bytes → Checked DecodeError (Header × Bytes)
  | [] => throw .tooShort
  | b :: rest =>
    if b < 0x80 then return (⟨false, 1⟩, b :: rest)
    else if b < 0xb8 then
      if b = 0x81 then
        match rest with
        | [] => throw .tooShort
        | c :: _ => if c < 0x80 then throw .singleByte else return (⟨false, 1⟩, rest)
      else do sound ((Header.mk false (← difference b.toNat 0x80)).check rest)
    else if b < 0xc0 then do checkedLength false (← difference b.toNat 0xb7) rest
    else if b < 0xf8 then do sound ((Header.mk true (← difference b.toNat 0xc0)).check rest)
    else do checkedLength true (← difference b.toNat 0xf7) rest

/-- The length of a long item is read without a stop. -/
theorem checkedLength_eq (isList : Bool) (size : Nat) (input : Bytes) :
    checkedLength isList size input = sound (readLength isList size input) := by
  unfold checkedLength readLength
  split
  · rfl
  rename_i hlength
  rw [split_of_le (Nat.not_lt.mp hlength)]
  show (if _ then _ else _) = _
  split
  · rfl
  dsimp only
  split <;> rfl

/-- A byte that is not below another is not below anything that the other reaches. -/
theorem le_toNat_of_not_lt {b c : UInt8} {n : Nat} (h : ¬b < c) (hn : n ≤ c.toNat) : n ≤ b.toNat :=
  le_trans hn (UInt8.le_iff_toNat_le.mp (UInt8.not_lt.mp h))

/-- A header is read without a stop. -/
theorem checkedHeader_eq (input : Bytes) : checkedHeader input = sound (readHeader input) := by
  cases input with
  | nil => rfl
  | cons b rest =>
    unfold checkedHeader readHeader
    dsimp only
    split
    · rfl
    rename_i hstring
    split
    · split
      · cases rest with
        | nil => rfl
        | cons c rest =>
          dsimp only
          split <;> rfl
      · rw [difference_of_le (le_toNat_of_not_lt hstring (by decide : 128 ≤ _))]
        rfl
    rename_i hlong
    split
    · rw [difference_of_le (le_toNat_of_not_lt hlong (by decide : 183 ≤ _)), sound_ok_bind]
      exact checkedLength_eq _ _ _
    rename_i hlist
    split
    · rw [difference_of_le (le_toNat_of_not_lt hlist (by decide : 192 ≤ _))]
      rfl
    · rename_i hlongList
      rw [difference_of_le (le_toNat_of_not_lt hlongList (by decide : 247 ≤ _)), sound_ok_bind]
      exact checkedLength_eq _ _ _

/-- What a header announces is there, and what follows it is shorter than the input. -/
theorem readHeader_progress {input rest : Bytes} {h : Header} (hr : readHeader input = .ok (h, rest)) :
    h.length ≤ rest.length ∧ (rest.drop h.length).length < input.length := by
  obtain ⟨hle, -, hin⟩ := readHeader_eq_ok hr
  have hpos := List.length_pos_iff.mpr (item_ne_nil h.isList (rest.take h.length))
  refine ⟨hle, ?_⟩
  rw [hin, List.length_append]
  omega

/-! ## Items -/

/-- The payload of the item in front. -/
def checkedPayload (isList : Bool) (input : Bytes) : Checked DecodeError (Bytes × Bytes) := do
  let (h, rest) ← checkedHeader input
  if h.isList = isList then split h.length rest
  else throw (if isList then .unexpectedString else .unexpectedList)

/-- A payload is read without a stop: the header has checked that it is there. -/
theorem checkedPayload_eq (isList : Bool) (input : Bytes) :
    checkedPayload isList input = sound (readPayload isList input) := by
  refine bind_eq (checkedHeader_eq input) fun (h, rest) hr => ?_
  dsimp only
  split
  · exact split_of_le (readHeader_progress hr).1
  · rfl

/-- The string in front, as what it is to be read as. -/
def checkedString (check : Bytes → Except DecodeError α) (input : Bytes) : Checked DecodeError (α × Bytes) := do
  let (bytes, rest) ← checkedPayload false input
  sound ((check bytes).map (·, rest))

/-- What is made of a string by a check is read without a stop. -/
theorem checkedString_eq {read : Reader α} {check : Bytes → Except DecodeError α}
    (hread : ∀ input, read input = readString input >>= fun x => (check x.1).map (·, x.2)) (input : Bytes) :
    checkedString check input = sound (read input) := by
  rw [hread]
  exact bind_eq (checkedPayload_eq false input) fun _ _ => rfl

/-! ## Loops -/

/-- Reads items until nothing is left, and is stopped when they are more than `fuel`. -/
def checkedAll (read : Bytes → Checked DecodeError (α × Bytes)) : Nat → Bytes → Checked DecodeError (List α)
  | _, [] => return []
  | 0, _ => stopped
  | fuel + 1, input => do
    let (item, rest) ← read input
    return item :: (← checkedAll read fuel rest)

/-- The list in front; its items cannot be more than its bytes. -/
def checkedListOf (read : Bytes → Checked DecodeError (α × Bytes)) (input : Bytes) :
    Checked DecodeError (List α × Bytes) := do
  let (payload, rest) ← checkedPayload true input
  return (← checkedAll read payload.length payload, rest)

/-- The number of items in a byte string; stopped when they are more than `fuel`. -/
def checkedCount : Nat → Bytes → Checked DecodeError Nat
  | _, [] => return 0
  | 0, _ => stopped
  | fuel + 1, input => do
    let (h, rest) ← checkedHeader input
    let (_, rest) ← split h.length rest
    return (← checkedCount fuel rest) + 1

section Lists

variable {read : Reader α} {checked : Bytes → Checked DecodeError (α × Bytes)} {write : α → Bytes}

/-- A reader that takes something off each time reads as many items as there are bytes, and is not stopped before. -/
theorem checkedAll_eq (hchecked : ∀ input, checked input = sound (read input)) (h : Inverts read write)
    (hne : ∀ a, write a ≠ []) {fuel : Nat} {input : Bytes} (hfuel : input.length ≤ fuel) :
    checkedAll checked fuel input = sound (readAll read fuel input) := by
  induction fuel generalizing input with
  | zero =>
    cases List.length_eq_zero_iff.mp (Nat.le_zero.mp hfuel)
    rfl
  | succ fuel ih =>
    cases input with
    | nil => rfl
    | cons b tail =>
      refine bind_eq (hchecked _) fun (a, rest) hr => ?_
      have hpos := List.length_pos_iff.mpr (hne a)
      have hlength := congrArg List.length (h.eq_write hr)
      rw [List.length_append] at hlength
      exact bind_eq (ih (by omega)) fun _ _ => rfl

/-- A list of items is read without a stop, if each item is and takes up something. -/
theorem checkedListOf_eq (hchecked : ∀ input, checked input = sound (read input)) (h : Inverts read write)
    (hne : ∀ a, write a ≠ []) (input : Bytes) : checkedListOf checked input = sound (readListOf read input) :=
  bind_eq (checkedPayload_eq true input) fun _ _ => bind_eq (checkedAll_eq hchecked h hne le_rfl) fun _ _ => rfl

end Lists

/-- Counting comes to an end, since each header takes something off, and takes no more off than there is. -/
theorem checkedCount_eq {fuel : Nat} {input : Bytes} (hfuel : input.length ≤ fuel) :
    checkedCount fuel input = sound (countItems fuel input) := by
  induction fuel generalizing input with
  | zero =>
    cases List.length_eq_zero_iff.mp (Nat.le_zero.mp hfuel)
    rfl
  | succ fuel ih =>
    cases input with
    | nil => rfl
    | cons b tail =>
      refine bind_eq (checkedHeader_eq _) fun (h, rest) hr => ?_
      obtain ⟨hle, hless⟩ := readHeader_progress hr
      have hfuel' : (rest.drop h.length).length ≤ fuel := Nat.lt_succ_iff.mp (hless.trans_le hfuel)
      dsimp only
      rw [split_of_le hle]
      exact bind_eq (ih hfuel') fun _ _ => rfl

/-- One round of counting fails with the header in front, or goes on with what follows the item, which is shorter. -/
theorem countItems_step (fuel : Nat) {input : Bytes} (hne : input ≠ []) :
    (∃ error, readHeader input = .error error ∧ countItems (fuel + 1) input = .error error) ∨
      ∃ h rest, readHeader input = .ok (h, rest) ∧ h.length ≤ rest.length ∧ (rest.drop h.length).length < input.length ∧
        countItems (fuel + 1) input = (countItems fuel (rest.drop h.length)).map (· + 1) := by
  cases input with
  | nil => exact absurd rfl hne
  | cons b tail =>
    cases hr : readHeader (b :: tail) with
    | error error => exact .inl ⟨error, rfl, by simp only [countItems, hr, bind, Except.bind]⟩
    | ok read =>
      obtain ⟨h, rest⟩ := read
      obtain ⟨hle, hless⟩ := readHeader_progress hr
      refine .inr ⟨h, rest, rfl, hle, hless, ?_⟩
      simp only [countItems, hr, bind, Except.bind]
      cases countItems fuel (rest.drop h.length) <;> rfl

end Rlp

end DynamicFeeWallet
