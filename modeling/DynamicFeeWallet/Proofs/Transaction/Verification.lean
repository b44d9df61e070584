import DynamicFeeWallet.Proofs.Curve.Signature
import DynamicFeeWallet.Proofs.Transaction.Encoding
import DynamicFeeWallet.Proofs.Transaction.Memo

/-!
# How much of a transaction is verified

Each level of verification asks something of the signature that was read (`CheckLevel.Admits`), and a stricter one
asks more. What a reading comes to is told by that alone (`Transaction.verify_ofPayload`): a transaction whose
signature is admitted is the one that was read, whatever the level, and any other is refused for its signature.
-/

namespace DynamicFeeWallet

open Secp256k1

/-! ## What is asked of a signature -/

namespace Signature

/-- Both numbers are zero. -/
def Void (sig : Signature) : Prop := sig.r.toNat = 0 ∧ sig.s.toNat = 0

/-- Both numbers lie in `[1, order)`, and `s` is at most half the order. -/
def InRange (sig : Signature) : Prop :=
  (1 ≤ sig.r.toNat ∧ sig.r.toNat < order) ∧ (1 ≤ sig.s.toNat ∧ sig.s.toNat < order) ∧ sig.s.toNat ≤ order / 2

variable {sig : Signature}

theorem isZero_iff : sig.isZero = true ↔ sig.Void := by
  rw [isZero, Bool.and_eq_true, beq_iff_eq, beq_iff_eq, Void]

theorem inRange_iff : sig.InRange ↔ sig.isValid = true ∧ sig.isLowS = true := by
  have hhalf : order / 2 = halfOrder := by decide
  rw [isValid_iff, isLowS_iff, InRange, hhalf]
  constructor
  · rintro ⟨⟨hr, hr'⟩, ⟨hs, hs'⟩, hlow⟩
    exact ⟨⟨hr, hs, hr', hs'⟩, hlow⟩
  · rintro ⟨⟨hr, hs, hr', hs'⟩, hlow⟩
    exact ⟨⟨hr, hr'⟩, ⟨hs, hs'⟩, hlow⟩

end Signature

/-- The signature leads to an address by the digest of the payload. -/
def Payload.Recovers (p : Payload) (sig : Signature) : Prop :=
  ∃ unsigned address, p.encode none = .ok unsigned ∧ sig.signer? (keccak256 unsigned) = some address

/-- What a level asks of the signature that was read with a payload. Of one that is void nothing is asked. -/
def CheckLevel.Admits (p : Payload) (sig : Signature) : CheckLevel → Prop
  | .structureOnly => True
  | .signatureRange => sig.Void ∨ sig.InRange
  | .signer => (sig.Void ∨ sig.InRange) ∧ (sig.Void ∨ p.Recovers sig)

namespace Transaction

variable {p : Payload} {signature : Option Signature} {sig : Signature}

/-! ## What a verification comes to -/

/-- A signature that is not void tells its sender exactly when it leads to an address; otherwise it is bad. -/
theorem computeSender_ofPayload (hpriced : p.isPriced = true) (hvoid : ¬sig.Void) :
    (∃ address, (ofPayload p (some sig)).computeSender = .ok address) ∧ p.Recovers sig ∨
      (ofPayload p (some sig)).computeSender = .error .badSignature ∧ ¬p.Recovers sig := by
  obtain ⟨unsigned, hunsigned⟩ : ∃ unsigned, p.encode none = .ok unsigned := Payload.isPriced_iff.mp hpriced
  have hzero : sig.isZero = false := by
    rw [← Bool.not_eq_true, Signature.isZero_iff]
    exact hvoid
  have hdigest : (ofPayload p (some sig)).signingHash = .ok (keccak256 unsigned) := by
    rw [signingHash, encodeUnsigned]
    exact congrArg (Except.map keccak256) hunsigned
  have hsender : (ofPayload p (some sig)).computeSender =
      (sig.signer? (keccak256 unsigned)).elim (.error .badSignature) .ok := by
    unfold computeSender
    rw [hdigest]
    simp only [ofPayload, hzero, bind, Except.bind]
    cases sig.signer? (keccak256 unsigned) <;> rfl
  rw [hsender]
  cases hsigner : sig.signer? (keccak256 unsigned) with
  | some address => exact Or.inl ⟨⟨address, rfl⟩, unsigned, address, hunsigned, hsigner⟩
  | none =>
    refine Or.inr ⟨rfl, ?_⟩
    rintro ⟨unsigned', address, hunsigned', hsigner'⟩
    cases hunsigned.symm.trans hunsigned'
    rw [hsigner] at hsigner'
    cases hsigner'

/-- The sender of a signed payload is read, and remembered, when there is one. -/
theorem readSender_ofPayload (p : Payload) (sig : Signature) :
    (ofPayload p (some sig)).readSender.1 = (ofPayload p (some sig)).computeSender :=
  (Fresh.of_none rfl rfl).readSender_fst

/-- A void signature is admitted at every level. -/
theorem verify_of_void (hvoid : sig.Void) (level : CheckLevel) :
    (ofPayload p (some sig)).verify level = .ok (ofPayload p (some sig)) := by
  have hzero : sig.isZero = true := Signature.isZero_iff.mpr hvoid
  unfold verify
  cases level <;> simp [ofPayload, hzero]

/-- A signature that is not void and not in range is bad, unless no signature is looked at. -/
theorem verify_of_not_inRange {level : CheckLevel} (hlevel : level ≠ .structureOnly) (hvoid : ¬sig.Void)
    (hrange : ¬sig.InRange) :
    (ofPayload p (some sig)).verify level = .error .badSignature := by
  have hzero : sig.isZero = false := by rwa [← Bool.not_eq_true, Signature.isZero_iff]
  have hbad : (!sig.isValid || !sig.isLowS) = true := by
    rw [Signature.inRange_iff, ← Bool.and_eq_true, Bool.not_eq_true] at hrange
    rw [← Bool.not_and, hrange, Bool.not_false]
  unfold verify
  cases level with
  | structureOnly => exact absurd rfl hlevel
  | signatureRange => simp [ofPayload, hzero, hbad]
  | signer => simp [ofPayload, hzero, hbad]

/-- Of a signature in range no more than that is asked, or its signer. -/
theorem verify_of_inRange (hrange : sig.InRange) :
    (ofPayload p (some sig)).verify .signatureRange = .ok (ofPayload p (some sig)) ∧
      (ofPayload p (some sig)).verify .signer =
        (ofPayload p (some sig)).computeSender.map fun _ => (ofPayload p (some sig)).readSender.2 := by
  obtain ⟨hvalid, hlow⟩ := Signature.inRange_iff.mp hrange
  have hzero := Signature.isZero_eq_false hvalid
  have hread := readSender_ofPayload p sig
  constructor
  · simp [verify, ofPayload, hzero, hvalid, hlow]
  · rw [← hread]
    have hsignature : (ofPayload p (some sig)).signature = some sig := rfl
    unfold verify
    simp only [hsignature, hzero, hvalid, hlow, Bool.not_true, Bool.or_false, Bool.false_eq_true, if_false, if_true]
    generalize (ofPayload p (some sig)).readSender = read
    obtain ⟨sender, t⟩ := read
    cases sender <;> rfl

/-- What is read passes when its signature is admitted, and is left as it is but for what is remembered; otherwise it
is refused for its signature. -/
theorem verify_ofPayload (hpriced : p.isPriced = true) (signature : Option Signature) (level : CheckLevel) :
    (∃ t, (ofPayload p signature).verify level = .ok t ∧ t.bare = (ofPayload p signature).bare) ∧
        (∀ sig ∈ signature, level.Admits p sig) ∨
      (ofPayload p signature).verify level = .error .badSignature ∧ ¬∀ sig ∈ signature, level.Admits p sig := by
  cases signature with
  | none =>
    have hverify : (ofPayload p none).verify level = .ok (ofPayload p none) := by cases level <;> rfl
    exact Or.inl ⟨⟨_, hverify, rfl⟩, nofun⟩
  | some sig =>
    simp only [Option.mem_def, Option.some.injEq, forall_eq']
    by_cases hvoid : sig.Void
    · refine Or.inl ⟨⟨_, verify_of_void hvoid level, rfl⟩, ?_⟩
      cases level with
      | structureOnly => trivial
      | signatureRange => exact Or.inl hvoid
      | signer => exact ⟨Or.inl hvoid, Or.inl hvoid⟩
    by_cases hrange : sig.InRange
    · obtain ⟨hpasses, hasked⟩ := verify_of_inRange (p := p) hrange
      cases level with
      | structureOnly => exact Or.inl ⟨⟨_, rfl, rfl⟩, trivial⟩
      | signatureRange => exact Or.inl ⟨⟨_, hpasses, rfl⟩, Or.inr hrange⟩
      | signer =>
        rcases computeSender_ofPayload hpriced hvoid with ⟨⟨address, hsender⟩, hrecovers⟩ | ⟨hsender, hrecovers⟩
        · rw [hasked, hsender]
          exact Or.inl ⟨⟨_, rfl, bare_readSender _⟩, Or.inr hrange, Or.inr hrecovers⟩
        · rw [hasked, hsender]
          exact Or.inr ⟨rfl, fun hadmits => hadmits.2.elim hvoid hrecovers⟩
    · cases level with
      | structureOnly => exact Or.inl ⟨⟨_, rfl, rfl⟩, trivial⟩
      | signatureRange =>
        exact Or.inr ⟨verify_of_not_inRange (by decide) hvoid hrange, fun hadmits => hadmits.elim hvoid hrange⟩
      | signer =>
        exact Or.inr ⟨verify_of_not_inRange (by decide) hvoid hrange, fun hadmits => hadmits.1.elim hvoid hrange⟩

/-! ## Readings at several levels -/

/-- What cannot be read is read at no level, and for the same reason; what can be is verified. -/
theorem decode_cases (raw : Bytes) :
    (∃ error, Payload.decode raw = .error error ∧ ∀ level, decode level raw = .error error) ∨
      ∃ p signature, Payload.decode raw = .ok (p, signature) ∧ p.isPriced = true ∧
        ∀ level, decode level raw = (ofPayload p signature).verify level := by
  unfold decode
  cases hread : Payload.decode raw with
  | error error => exact Or.inl ⟨error, rfl, fun _ => rfl⟩
  | ok read =>
    obtain ⟨p, signature⟩ := read
    exact Or.inr ⟨p, signature, rfl, Payload.isPriced_iff.mpr ⟨raw, Payload.encode_of_decode hread⟩, fun _ => rfl⟩

/-- An encoding is read at a level exactly when it can be read at all and its signature is admitted. -/
theorem decode_eq_ok_iff (raw : Bytes) (level : CheckLevel) :
    (∃ t, decode level raw = .ok t) ↔
      ∃ p signature, Payload.decode raw = .ok (p, signature) ∧ ∀ sig ∈ signature, level.Admits p sig := by
  rcases decode_cases raw with ⟨error, hread, hdecode⟩ | ⟨p, signature, hread, hpriced, hdecode⟩
  · simp [hread, hdecode]
  · rw [hdecode, hread]
    rcases verify_ofPayload hpriced signature level with ⟨⟨t, hverify, -⟩, hadmits⟩ | ⟨hverify, hadmits⟩
    · exact ⟨fun _ => ⟨p, signature, rfl, hadmits⟩, fun _ => ⟨t, hverify⟩⟩
    · rw [hverify]
      refine ⟨nofun, ?_⟩
      rintro ⟨p', signature', hread', hadmits'⟩
      cases hread'
      exact absurd hadmits' hadmits

/-- What is read is the payload with its signature, which is admitted, and nothing that is remembered is out of date. -/
theorem decode_eq_ok {raw : Bytes} {level : CheckLevel} {t : Transaction} (h : decode level raw = .ok t) :
    ∃ p signature, Payload.decode raw = .ok (p, signature) ∧ p.isPriced = true ∧ (∀ sig ∈ signature, level.Admits p sig) ∧
      t.bare = (ofPayload p signature).bare ∧ t.Fresh := by
  have hfresh := (decode_tracks level raw).fresh t h
  rcases decode_cases raw with ⟨error, hread, hdecode⟩ | ⟨p, signature, hread, hpriced, hdecode⟩
  · rw [hdecode] at h
    nomatch h
  · rw [hdecode] at h
    rcases verify_ofPayload hpriced signature level with ⟨⟨u, hverify, hbare⟩, hadmits⟩ | ⟨hverify, -⟩
    · cases hverify.symm.trans h
      exact ⟨p, signature, hread, hpriced, hadmits, hbare, hfresh⟩
    · rw [hverify] at h
      nomatch h

/-- A signature whose signer was verified tells its sender. -/
theorem exists_sender (hpriced : p.isPriced = true) (hadmits : CheckLevel.signer.Admits p sig) :
    ∃ address, (ofPayload p (some sig)).computeSender = .ok address := by
  by_cases hvoid : sig.Void
  · have hzero : sig.isZero = true := Signature.isZero_iff.mpr hvoid
    exact ⟨.allOnes, by simp [computeSender, ofPayload, hzero]⟩
  · rcases computeSender_ofPayload hpriced hvoid with ⟨hsender, -⟩ | ⟨-, hrecovers⟩
    · exact hsender
    · exact absurd hadmits.2 (not_or.mpr ⟨hvoid, hrecovers⟩)

/-- Transactions that differ in what is remembered, with nothing out of date, answer alike in every run. -/
theorem Fresh.run_eq {t u : Transaction} (ht : t.Fresh) (hu : u.Fresh) (hbare : t.bare = u.bare) (events : List Event) :
    (remembering.run [t] events).1 = (remembering.run [u] events).1 := by
  have hrun {v : Transaction} (hv : v.Fresh) : (remembering.run [v] events).1 = (recomputing.run [v.bare] events).1 :=
    (remembering_simulates.run_eq events (List.forall_mem_singleton.mpr hv)).1
  rw [hrun ht, hrun hu, hbare]

end Transaction

/-! ## Main statement -/

open Transaction in
/-- For every row of bytes: it is read with its structure alone verified exactly when it is an encoding of a payload;
with the range of its signature, exactly when moreover the signature is missing, or is one of two zeros, or has both
numbers in `[1, order)` and a low `s`; and with its signer, exactly when moreover the signature is missing, or is one
of two zeros, or leads to an address by the digest that is signed. What is read at several levels is the same and
answers alike in every run of events; the sender of a signed transaction that was read with its signer is known; and
what fails though it is an encoding fails for its signature. -/
theorem decode_levels (raw : Bytes) :
    ((∃ t, decode .structureOnly raw = .ok t) ↔ ∃ p signature, Payload.decode raw = .ok (p, signature)) ∧
      ((∃ t, decode .signatureRange raw = .ok t) ↔
        ∃ p signature, Payload.decode raw = .ok (p, signature) ∧ ∀ sig ∈ signature, sig.Void ∨ sig.InRange) ∧
      ((∃ t, decode .signer raw = .ok t) ↔
        ∃ p signature, Payload.decode raw = .ok (p, signature) ∧ (∀ sig ∈ signature, sig.Void ∨ sig.InRange) ∧
          ∀ sig ∈ signature, sig.Void ∨ p.Recovers sig) ∧
      (∀ level level' t u, decode level raw = .ok t → decode level' raw = .ok u →
        t.same u = true ∧ t.bare = u.bare ∧ ∀ events, (remembering.run [t] events).1 = (remembering.run [u] events).1) ∧
      (∀ t, decode .signer raw = .ok t → t.signature.isSome = true → ∃ address, t.readSender.1 = .ok address) ∧
      ∀ level error, decode level raw = .error error →
        Payload.decode raw = .error error ∨ (∃ read, Payload.decode raw = .ok read) ∧ error = .badSignature := by
  refine ⟨?_, ?_, ?_, ?_, ?_, ?_⟩
  · rw [decode_eq_ok_iff]
    simp only [CheckLevel.Admits, implies_true, and_true]
  · exact decode_eq_ok_iff raw .signatureRange
  · rw [decode_eq_ok_iff]
    simp only [CheckLevel.Admits, forall_and]
  · intro level level' t u ht hu
    obtain ⟨p, signature, hread, -, -, hbare, hfresh⟩ := decode_eq_ok ht
    obtain ⟨p', signature', hread', -, -, hbare', hfresh'⟩ := decode_eq_ok hu
    cases hread.symm.trans hread'
    have hsame : t.bare = u.bare := hbare.trans hbare'.symm
    refine ⟨same_iff.mpr ⟨congrArg BareTransaction.payload hsame, congrArg BareTransaction.signature hsame⟩, hsame, ?_⟩
    exact hfresh.run_eq hfresh' hsame
  · intro t ht hsigned
    obtain ⟨p, signature, -, hpriced, hadmits, hbare, hfresh⟩ := decode_eq_ok ht
    have hsignature : t.signature = signature := congrArg BareTransaction.signature hbare
    obtain ⟨sig, hsig⟩ := Option.isSome_iff_exists.mp hsigned
    cases hsignature.symm.trans hsig
    obtain ⟨address, hsender⟩ := exists_sender hpriced (hadmits sig rfl)
    refine ⟨address, ?_⟩
    rw [hfresh.readSender_fst, computeSender_congr (congrArg BareTransaction.payload hbare) hsignature]
    exact hsender
  · intro level error h
    rcases decode_cases raw with ⟨error', hread, hdecode⟩ | ⟨p, signature, hread, hpriced, hdecode⟩
    · rw [hdecode] at h
      cases h
      exact Or.inl hread
    · rw [hdecode] at h
      rcases verify_ofPayload hpriced signature level with ⟨⟨t, hverify, -⟩, -⟩ | ⟨hverify, -⟩
      · rw [hverify] at h
        nomatch h
      · rw [hverify] at h
        cases h
        exact Or.inr ⟨⟨_, hread⟩, rfl⟩

/-- A signature of two zeros is out of range and leads to no address, and is read at every level all the same. -/
theorem decode_levels_zeroSigned :
    ∃ t u, Transaction.decode .structureOnly zeroSignedBytes = .ok t ∧
      Transaction.decode .signer zeroSignedBytes = .ok u ∧
      (∀ events, (remembering.run [t] events).1 = (remembering.run [u] events).1) ∧ u.signature.isSome = true ∧
      ∃ address, u.readSender.1 = .ok address := by
  have hstructure : Transaction.decode .structureOnly zeroSignedBytes = .ok zeroSignedTransfer := by decide +kernel
  have hsigner : Transaction.decode .signer zeroSignedBytes = .ok zeroSignedTransfer := by decide +kernel
  obtain ⟨-, -, -, halike, hsender, -⟩ := decode_levels zeroSignedBytes
  obtain ⟨-, -, hanswers⟩ := halike .structureOnly .signer _ _ hstructure hsigner
  exact ⟨_, _, hstructure, hsigner, hanswers, rfl, hsender _ hsigner rfl⟩

end DynamicFeeWallet
