import DynamicFeeWallet.Address
import DynamicFeeWallet.Proofs.Text.Hex

/-!
# Checksummed addresses

The checksum of an address raises some of its digits and changes what none of them stands for
(`map_digit?_checksumDigits`). So the checksummed text is read as the address (`parse_checksum`) and passes the check
of addresses (`isAddress_checksum`).

To read an address is less than to check it: digits of any case are read (`parse_eq_ok`), and of what is read the
check refuses the letters that mix cases otherwise than the checksum does (`isAddress_of_spells`, `isAddress_iff`).
-/

namespace DynamicFeeWallet.Address

theorem length_halfBytes (bytes : Bytes) : (halfBytes bytes).length = 2 * bytes.length := by
  induction bytes with
  | nil => rfl
  | cons b bytes ih =>
    rw [halfBytes, List.flatMap_cons, List.length_append, ← halfBytes, ih, List.length_cons]
    simp only [List.length_cons, List.length_nil]
    omega

/-- Raising digits changes nothing of what they stand for, as long as there are marks beside them. -/
theorem map_digit?_raise {digits : List Char} {marks : List Nat} (h : digits.length ≤ marks.length) :
    (raise digits marks).map Hex.digit? = digits.map Hex.digit? := by
  induction digits generalizing marks with
  | nil => rfl
  | cons c digits ih =>
    cases marks with
    | nil => nomatch h
    | cons mark marks =>
      have hdigit : Hex.digit? (if 8 ≤ mark then c.toUpper else c) = Hex.digit? c := by
        split
        · exact Hex.digit?_toUpper c
        · rfl
      have hrest := ih (Nat.le_of_succ_le_succ h)
      rw [raise] at hrest ⊢
      rw [List.zipWith_cons_cons, List.map_cons, List.map_cons, hdigit, hrest]

variable (a : Address)

/-- The digits of the checksum stand for the same as the small ones. -/
theorem map_digit?_checksumDigits : a.checksumDigits.map Hex.digit? = (Hex.digits a.toBytes).map Hex.digit? := by
  refine map_digit?_raise ?_
  rw [length_halfBytes, Hex.length_digits, a.length_toBytes, FixedBytes.length_toBytes]
  decide

theorem isDigit_of_mem_checksumDigits : ∀ c ∈ a.checksumDigits, Hex.isDigit c = true :=
  Hex.isDigit_of_map_digit? a.map_digit?_checksumDigits (Hex.isDigit_of_mem_digits _)

theorem length_checksumDigits : a.checksumDigits.length = 40 := by
  rw [← List.length_map Hex.digit?, map_digit?_checksumDigits, List.length_map, Hex.length_digits, a.length_toBytes]

/-- The checksummed text is read as the address, and so are its digits alone. -/
theorem parse_checksum : parse a.checksum = .ok a ∧ parse (String.ofList a.checksumDigits) = .ok a :=
  ⟨Hex.decodeFixed_of_body (Hex.body_ofList_marked a.isDigit_of_mem_checksumDigits) a.map_digit?_checksumDigits,
    Hex.decodeFixed_of_body (Hex.body_ofList a.isDigit_of_mem_checksumDigits) a.map_digit?_checksumDigits⟩

/-- Different addresses have different checksummed texts. -/
theorem checksum_injective : Function.Injective checksum := by
  intro a b h
  have hread := a.parse_checksum.1
  rw [h, b.parse_checksum.1] at hread
  exact (Except.ok.inj hread).symm

theorem unmarked_checksum : Hex.unmarked a.checksum.toList = a.checksumDigits := by
  rw [checksum, String.toList_ofList]
  rfl

/-- The checksummed text passes the check of addresses. -/
theorem isAddress_checksum : isAddress a.checksum = true := by
  have hall : a.checksumDigits.all Hex.isDigit = true := List.all_eq_true.mpr a.isDigit_of_mem_checksumDigits
  have hholds : checksumHolds a.checksumDigits = true := by
    rw [checksumHolds, a.parse_checksum.2]
    simp only [beq_self_eq_true, Bool.or_true]
  rw [isAddress, unmarked_checksum]
  simp only [a.length_checksumDigits, hall, hholds, beq_self_eq_true, Bool.and_self]

/-! ## Texts that name an address -/

/-- There are letters of both cases. -/
def MixesCase (digits : List Char) : Prop := (∃ c ∈ digits, isLowerLetter c = true) ∧ ∃ c ∈ digits, isCapital c = true

/-- The letters are of one case, or are capitals where the checksum of the address has capitals. -/
def CaseHolds (digits : List Char) (a : Address) : Prop := MixesCase digits → digits = a.checksumDigits

variable {digits : List Char} {a : Address} {text : String}

/-- What spells an address is forty digits, and any forty digits spell one. -/
theorem exists_spells_iff :
    (∃ a : Address, Hex.Spells digits a.toBytes) ↔ digits.length = 40 ∧ ∀ c ∈ digits, Hex.isDigit c = true := by
  constructor
  · rintro ⟨a, h⟩
    refine ⟨?_, h.isDigit⟩
    rw [h.length_eq, a.length_toBytes]
  · rintro ⟨hlength, hdigits⟩
    exact Hex.exists_spells hdigits hlength

/-- A text is read as the address that its digits spell, after a mark or not. -/
theorem parse_eq_ok : parse text = .ok a ↔ Hex.Spells (Hex.unmarked text.toList) a.toBytes := Hex.decodeFixed_eq_ok

/-- Digits that spell an address pass the check of their case when it holds. -/
theorem checksumHolds_iff (h : Hex.Spells digits a.toBytes) : checksumHolds digits = true ↔ CaseHolds digits a := by
  have hread : parse (String.ofList digits) = .ok a := by
    rw [parse_eq_ok, String.toList_ofList, Hex.unmarked_of_isDigit h.isDigit]
    exact h
  have hmixes : MixesCase digits ↔ (digits.any isLowerLetter && digits.any isCapital) = true := by
    simp [MixesCase, List.any_eq_true]
  rw [checksumHolds, hread, CaseHolds, hmixes]
  cases digits.any isLowerLetter && digits.any isCapital with
  | false => simp
  | true => simpa using eq_comm

/-- A text that spells an address passes the check of addresses when its case holds. -/
theorem isAddress_of_spells (h : Hex.Spells (Hex.unmarked text.toList) a.toBytes) :
    isAddress text = true ↔ CaseHolds (Hex.unmarked text.toList) a := by
  obtain ⟨hlength, hdigits⟩ := exists_spells_iff.mp ⟨a, h⟩
  have hall : (Hex.unmarked text.toList).all Hex.isDigit = true := List.all_eq_true.mpr hdigits
  simp [isAddress, hlength, hall, checksumHolds_iff h]

/-- The letters are not of both cases. -/
def OneCase (digits : List Char) : Prop := (∀ c ∈ digits, isLowerLetter c = false) ∨ ∀ c ∈ digits, isCapital c = false

theorem OneCase.not_mixesCase (h : OneCase digits) : ¬MixesCase digits := by
  rintro ⟨⟨lower, hlower, hislower⟩, capital, hcapital, hiscapital⟩
  rcases h with h | h
  · nomatch hislower.symm.trans (h lower hlower)
  · nomatch hiscapital.symm.trans (h capital hcapital)

theorem oneCase_of_not_mixesCase (h : ¬MixesCase digits) : OneCase digits := by
  by_cases hlower : ∃ c ∈ digits, isLowerLetter c = true
  · refine Or.inr fun c hc => Bool.eq_false_iff.mpr fun hcapital => ?_
    exact h ⟨hlower, c, hc, hcapital⟩
  · refine Or.inl fun c hc => Bool.eq_false_iff.mpr fun hislower => ?_
    exact hlower ⟨c, hc, hislower⟩

/-- A text that passes the check of addresses is forty digits that are read as an address, and their case holds. -/
theorem exists_parse_of_isAddress (h : isAddress text = true) :
    (Hex.unmarked text.toList).length = 40 ∧ (∀ c ∈ Hex.unmarked text.toList, Hex.isDigit c = true) ∧
      ∃ a, parse text = .ok a ∧ CaseHolds (Hex.unmarked text.toList) a := by
  have hparts := h
  simp only [isAddress, Bool.and_eq_true, beq_iff_eq, List.all_eq_true] at hparts
  obtain ⟨⟨hlength, hdigits⟩, -⟩ := hparts
  obtain ⟨a, hspells⟩ := exists_spells_iff.mpr ⟨hlength, hdigits⟩
  exact ⟨hlength, hdigits, a, parse_eq_ok.mpr hspells, (isAddress_of_spells hspells).mp h⟩

/-- A text passes the check of addresses exactly when it is forty digits, after a mark or not, whose letters are of
one case, or spell the checksum of the address that is read. -/
theorem isAddress_iff :
    isAddress text = true ↔
      ∃ digits, Hex.Presents digits text.toList ∧ digits.length = 40 ∧ (∀ c ∈ digits, Hex.isDigit c = true) ∧
        (OneCase digits ∨ ∃ a, parse text = .ok a ∧ digits = a.checksumDigits) := by
  constructor
  · intro h
    obtain ⟨hlength, hdigits, a, hparse, hcase⟩ := exists_parse_of_isAddress h
    refine ⟨_, Hex.presents_unmarked _, hlength, hdigits, ?_⟩
    by_cases hmixes : MixesCase (Hex.unmarked text.toList)
    · exact Or.inr ⟨a, hparse, hcase hmixes⟩
    · exact Or.inl (oneCase_of_not_mixesCase hmixes)
  · rintro ⟨digits, hpresents, hlength, hdigits, hcase⟩
    have hunmarked := hpresents.unmarked_eq hdigits
    obtain ⟨a, hspells⟩ := exists_spells_iff.mpr ⟨hlength, hdigits⟩
    rw [← hunmarked] at hspells
    refine (isAddress_of_spells hspells).mpr fun hmixes => ?_
    rw [hunmarked] at hmixes ⊢
    rcases hcase with hone | ⟨found, hparse, hchecksum⟩
    · exact absurd hmixes hone.not_mixesCase
    · cases (parse_eq_ok.mpr hspells).symm.trans hparse
      exact hchecksum

end DynamicFeeWallet.Address
