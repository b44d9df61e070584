import DynamicFeeWallet.Proofs.Rlp.Reader
import DynamicFeeWallet.Proofs.Text.Hex
import DynamicFeeWallet.Request.Argument

/-!
# The texts in requests

A text in a request is hexadecimal data (`IsHex`), a hash (`IsHash`), or the name of a block (`IsBlock`). What each of
them is, is said of its digits, and each is met by its test (`Argument.isHex_eq_true`, `Argument.isBlock_eq_true`). The
length of a hash is tested in bytes of text, which are its digits only once these have been looked at
(`Argument.hasByteLength_eq_true`).
-/

namespace DynamicFeeWallet

/-! ## What they are -/

/-- The text is hexadecimal: digits, after a mark or not. -/
def IsHex (text : String) : Prop := ∃ digits, Hex.Presents digits text.toList ∧ ∀ c ∈ digits, Hex.isDigit c = true

/-- The text is a hash: 64 hexadecimal digits, after a mark or not. -/
def IsHash (text : String) : Prop :=
  ∃ digits, Hex.Presents digits text.toList ∧ digits.length = 64 ∧ ∀ c ∈ digits, Hex.isDigit c = true

/-- The text names a block: by one of three words, or by hexadecimal digits after a mark. -/
def IsBlock (text : String) : Prop :=
  text ∈ ["latest", "earliest", "pending"] ∨
    ∃ digits, (text.toList = '0' :: 'x' :: digits ∨ text.toList = '0' :: 'X' :: digits) ∧
      ∀ c ∈ digits, Hex.isDigit c = true

variable {text : String}

/-- A text is hexadecimal when what is left of it without a mark is digits. -/
theorem isHex_iff : IsHex text ↔ ∀ c ∈ Hex.unmarked text.toList, Hex.isDigit c = true := by
  constructor
  · rintro ⟨digits, hpresents, hdigits⟩
    rwa [hpresents.unmarked_eq hdigits]
  · intro hdigits
    exact ⟨_, Hex.presents_unmarked _, hdigits⟩

/-- A text is a hash when what is left of it without a mark is 64 digits. -/
theorem isHash_iff :
    IsHash text ↔ (Hex.unmarked text.toList).length = 64 ∧ ∀ c ∈ Hex.unmarked text.toList, Hex.isDigit c = true := by
  constructor
  · rintro ⟨digits, hpresents, hlength, hdigits⟩
    rw [hpresents.unmarked_eq hdigits]
    exact ⟨hlength, hdigits⟩
  · rintro ⟨hlength, hdigits⟩
    exact ⟨_, Hex.presents_unmarked _, hlength, hdigits⟩

/-- A hash is hexadecimal. -/
theorem IsHash.isHex (h : IsHash text) : IsHex text := by
  obtain ⟨digits, hpresents, -, hdigits⟩ := h
  exact ⟨digits, hpresents, hdigits⟩

/-- Digits after a mark are hexadecimal. -/
theorem isHex_ofList {digits : List Char} (h : ∀ c ∈ digits, Hex.isDigit c = true) :
    IsHex (String.ofList ('0' :: 'x' :: digits)) := by
  refine ⟨digits, ?_, h⟩
  rw [String.toList_ofList]
  exact .small

/-- The text that a hash is written as is one. -/
theorem isHash_toHex (hash : Hash) : IsHash hash.toHex := by
  refine ⟨Hex.digits hash.toBytes, ?_, ?_, Hex.isDigit_of_mem_digits _⟩
  · rw [FixedBytes.toHex, Hex.encode, String.toList_ofList]
    exact .small
  · rw [Hex.length_digits, hash.length_toBytes]

/-! ## How they are tested -/

namespace Argument

/-- A condition that is checked passes when it holds. -/
theorem ensure_eq_ok {condition : Bool} {error : ArgumentError} :
    ensure condition error = .ok () ↔ condition = true := by
  cases condition
  · exact ⟨nofun, nofun⟩
  · exact ⟨fun _ => rfl, fun _ => rfl⟩

/-- A check that stands before another computation has to pass. -/
theorem check_bind_eq_ok {α : Type} {check : Except ArgumentError Unit} {next : Except ArgumentError α} {a : α} :
    (do check; next) = .ok a ↔ check = .ok () ∧ next = .ok a :=
  bind_eq_ok.trans ⟨fun ⟨_, h⟩ => h, fun h => ⟨(), h⟩⟩

/-- The test for hexadecimal data tells it. -/
theorem isHex_eq_true : isHex text = true ↔ IsHex text := by
  rw [isHex_iff, isHex, List.all_eq_true]

/-- Of hexadecimal data, the test for 32 bytes tells the hashes. -/
theorem hasByteLength_eq_true (h : IsHex text) : hasByteLength text 32 = true ↔ IsHash text := by
  have hdigits := isHex_iff.mp h
  rw [isHash_iff, and_iff_left hdigits, hasByteLength, Hex.body, Hex.flatMap_utf8EncodeChar hdigits, List.length_map,
    beq_iff_eq]

/-- The test for marked data tells digits after a mark. -/
theorem isMarkedHex_iff :
    isMarkedHex text = true ↔
      ∃ digits, Hex.marked? text.toList = some digits ∧ ∀ c ∈ digits, Hex.isDigit c = true := by
  unfold isMarkedHex
  cases Hex.marked? text.toList <;> simp

/-- The test for blocks tells them. -/
theorem isBlock_eq_true : isBlock text = true ↔ IsBlock text := by
  rw [isBlock, Bool.or_eq_true, List.contains_iff_mem, isMarkedHex_iff, IsBlock]
  simp only [Hex.marked?_eq_some]
  rfl

/-- What passes for hexadecimal data is it. -/
theorem checkHex_eq_ok : checkHex text = .ok () ↔ IsHex text := ensure_eq_ok.trans isHex_eq_true

/-- What passes for a block names one. -/
theorem checkBlock_eq_ok : checkBlock text = .ok () ↔ IsBlock text := ensure_eq_ok.trans isBlock_eq_true

/-- What passes for a hash is one. -/
theorem checkHash_eq_ok : checkHash text = .ok () ↔ IsHash text := by
  rw [checkHash, check_bind_eq_ok, checkHex_eq_ok, ensure_eq_ok]
  constructor
  · rintro ⟨hhex, hlength⟩
    exact (hasByteLength_eq_true hhex).mp hlength
  · intro hhash
    exact ⟨hhash.isHex, (hasByteLength_eq_true hhash.isHex).mpr hhash⟩

end Argument

end DynamicFeeWallet
