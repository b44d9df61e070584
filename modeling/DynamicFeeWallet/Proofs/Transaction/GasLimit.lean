import DynamicFeeWallet.Proofs.Wallet.LifeCycle

/-!
# Gas limits from estimates

A gas limit is an estimate and a fifth more. Twelve times the estimate is cut at the end of the range before it is
divided (`Transaction.toNat_gasWithMargin`), so the margin is exact as long as that product is in range, and past a
tenth of the range the limit is less than the estimate (`setGas_margin`). That is so wherever a gas limit comes from:
an estimate that is set, a pricing, or the whole life of a transaction that was built
(`Transaction.Reached.gasMeasured`).
-/

namespace DynamicFeeWallet

/-! ## The margin -/

/-- The gas limit is what an estimate leads to: a fifth more, where twelve times the estimate is in range, and a tenth
of the range beyond. -/
structure IsMargin (estimate limit : UInt256) : Prop where
  /-- Twelve times the estimate is cut at the end of the range before it is divided. -/
  value : limit.toNat = min (12 * estimate.toNat) (2 ^ 256 - 1) / 10
  /-- The margin is exact as long as nothing is cut. -/
  exact_iff : limit.toNat = 12 * estimate.toNat / 10 ↔ 12 * estimate.toNat < 2 ^ 256
  /-- The limit is enough as long as the estimate is within a tenth of the range. -/
  enough_iff : estimate.toNat ≤ limit.toNat ↔ 10 * estimate.toNat < 2 ^ 256

namespace Transaction

theorem toNat_gasWithMargin (estimate : UInt256) :
    (gasWithMargin estimate).toNat = min (12 * estimate.toNat) (2 ^ 256 - 1) / 10 := by
  have hsize : UInt256.size = 2 ^ 256 := rfl
  rw [gasWithMargin, UInt256.div, UInt256.satMul]
  dsimp only
  rw [UInt256.toNat_saturate, hsize, Nat.mul_comm]

theorem isMargin_gasWithMargin (estimate : UInt256) : IsMargin estimate (gasWithMargin estimate) := by
  have hvalue := toNat_gasWithMargin estimate
  refine ⟨hvalue, ?_, ?_⟩
  · rw [hvalue]
    omega
  · rw [hvalue]
    omega

/-- The transaction with this gas limit; the signature and what is remembered are dropped. -/
def withGasLimit (t : Transaction) (limit : UInt256) : Transaction :=
  { t with
    payload := { t.payload with gasLimit := some limit }
    signature := none
    hashMemo := none
    senderMemo := none }

end Transaction

/-! ## Pricing -/

/-- A pricing that succeeds sets the gas limit from the estimate that the node gives. -/
theorem Wallet.gasLimit_of_reprice_eq_ok {w : Wallet} {t u : Transaction} {node : Node} {j j' : Journal}
    (h : (w.reprice t).run node j = ((.ok (), u), j')) :
    ∃ estimate : Estimate, ((w.client.estimate t.readCallObject.1).run.run node j).1 = .ok estimate ∧
      u.payload.gasLimit = some (Transaction.gasWithMargin estimate.gas) := by
  rw [run_reprice] at h
  have hrepriced := (Prod.mk.inj h).1
  cases hestimate : ((w.client.estimate t.readCallObject.1).run.run node j).1 with
  | error error =>
    rw [hestimate] at hrepriced
    nomatch hrepriced
  | ok estimate =>
    rw [hestimate] at hrepriced
    dsimp only [repriced] at hrepriced
    cases hfees : t.readCallObject.2.setFees estimate.feeHistory with
    | error error =>
      rw [hfees] at hrepriced
      nomatch hrepriced
    | ok priced =>
      rw [hfees] at hrepriced
      cases hrepriced
      exact ⟨estimate, rfl, rfl⟩

/-! ## Over a life -/

/-- The gas limit, when it is set, is what some estimate leads to. -/
def BareTransaction.GasMeasured (t : BareTransaction) : Prop :=
  ∀ limit, t.payload.gasLimit = some limit → ∃ estimate, limit = Transaction.gasWithMargin estimate

theorem BareTransaction.Turn.gasMeasured {t u : BareTransaction} (hturn : Turn t u)
    (h : t.GasMeasured) : u.GasMeasured := by
  cases hturn with
  | stay => exact h
  | renumber nonce => exact nofun
  | relevel level => exact h
  | gas estimate =>
    rintro limit hlimit
    cases hlimit
    exact ⟨estimate, rfl⟩
  | fees baseFee priorityFee => exact h
  | sign hpriced sig => exact h

/-- Whatever is done with a transaction that was built, its gas limit is what some estimate leads to. -/
theorem Transaction.Reached.gasMeasured {t : Transaction} {sk : Skeleton} {level : FeeLevel} {steps : List Step}
    (h : t.Reached (.built sk level) steps) : t.bare.GasMeasured := by
  obtain ⟨start, hstart, rfl⟩ := h
  cases hstart
  have hunpriced : (ofSkeleton sk level).bare.GasMeasured := fun _ h => nomatch h
  exact bare_after (fun hturn => hturn.gasMeasured) hunpriced steps

/-! ## Main statement -/

/-- An estimate that is set on a transaction leaves its margin as the gas limit: exactly a fifth more when twelve
times the estimate is in range, and never less than the estimate up to a tenth of the range; past it, always less. The
signature and what is remembered are dropped, and nothing else changes. A pricing that succeeds leaves the margin of
the estimate that the node gives, and the gas limit of a transaction that was built, whatever was done with it, is the
margin of some estimate. -/
theorem setGas_margin (t : Transaction) :
    (∀ estimate, ∃ limit, t.act (.setGas estimate) = (.changed (.ok ()), t.withGasLimit limit) ∧
      IsMargin estimate limit) ∧
      (∀ (w : Wallet) (node : Node) (j j' : Journal) (u : Transaction), (w.reprice t).run node j = ((.ok (), u), j') →
        ∃ (estimate : Estimate) (limit : UInt256),
          ((w.client.estimate t.readCallObject.1).run.run node j).1 = .ok estimate ∧
          u.payload.gasLimit = some limit ∧ IsMargin estimate.gas limit) ∧
      ∀ sk level steps, t.Reached (.built sk level) steps →
        ∀ limit, t.payload.gasLimit = some limit → ∃ estimate, IsMargin estimate limit := by
  refine ⟨fun estimate => ⟨_, rfl, Transaction.isMargin_gasWithMargin estimate⟩, ?_, ?_⟩
  · intro w node j j' u hrun
    obtain ⟨estimate, hestimate, hlimit⟩ := Wallet.gasLimit_of_reprice_eq_ok hrun
    exact ⟨estimate, _, hestimate, hlimit, Transaction.isMargin_gasWithMargin estimate.gas⟩
  · intro sk level steps hreached limit hlimit
    obtain ⟨estimate, rfl⟩ := hreached.gasMeasured limit hlimit
    exact ⟨estimate, Transaction.isMargin_gasWithMargin estimate⟩

/-- A node that estimates the largest amount of gas there is. -/
def largestGasNode : Node := fun _ request =>
  if request.method = "eth_estimateGas" then
    .ok ("\x7b\"result\":\"0x" ++ String.ofList (List.replicate 64 'f') ++ "\"\x7d")
  else .ok "\x7b\"result\":\x7b\"baseFeePerGas\":[\"0x64\"],\"reward\":[[\"0x5\",\"0xf\",\"0x1e\"]]\x7d\x7d"

/-- A contract creation is priced by the largest estimate there is, and its gas limit is then a tenth of it; set from
a small estimate afterwards, it is a fifth more. -/
theorem setGas_margin_largest :
    ∃ u j' estimate limit limit',
      ((Wallet.mk ⟨{}⟩).reprice (.ofSkeleton unpricedCreation .high)).run largestGasNode {} = ((.ok (), u), j') ∧
        u.Reached (.built unpricedCreation .high) [.reprice ⟨⟨{}⟩⟩ largestGasNode {}] ∧
        u.payload.gasLimit = some limit ∧ limit.toNat = (2 ^ 256 - 1) / 10 ∧ IsMargin estimate limit ∧
        (∃ estimate, IsMargin estimate limit) ∧
        u.act (.setGas (.ofUInt64 21000)) = (.changed (.ok ()), u.withGasLimit limit') ∧ limit'.toNat = 25200 := by
  have hpriced : ((((Wallet.mk ⟨{}⟩).reprice (.ofSkeleton unpricedCreation .high)).run largestGasNode {}).1.1.toOption,
      (((Wallet.mk ⟨{}⟩).reprice (.ofSkeleton unpricedCreation .high)).run
        largestGasNode {}).1.2.payload.gasLimit.map UInt256.toNat) =
        (some (), some ((2 ^ 256 - 1) / 10)) := by decide +kernel
  have hreached : (((Wallet.mk ⟨{}⟩).reprice (.ofSkeleton unpricedCreation .high)).run largestGasNode {}).1.2.Reached
      (.built unpricedCreation .high) [.reprice ⟨⟨{}⟩⟩ largestGasNode {}] :=
    ⟨Transaction.ofSkeleton unpricedCreation .high, rfl,
      by rw [Transaction.after, List.foldl_cons, List.foldl_nil, Transaction.step]⟩
  obtain ⟨-, hmargin, -⟩ := setGas_margin (.ofSkeleton unpricedCreation .high)
  generalize hrun : ((Wallet.mk ⟨{}⟩).reprice (.ofSkeleton unpricedCreation .high)).run largestGasNode {} =
    run at hpriced hreached
  obtain ⟨⟨outcome, u⟩, j'⟩ := run
  obtain ⟨hok, hvalue⟩ := Prod.mk.inj hpriced
  cases outcome with
  | error error => cases hok
  | ok done =>
    obtain ⟨estimate, limit, -, hlimit, hestimated⟩ := hmargin _ _ _ _ _ hrun
    rw [hlimit] at hvalue
    obtain ⟨hset, -, hlife⟩ := setGas_margin u
    obtain ⟨limit', hact, hsmall⟩ := hset (.ofUInt64 21000)
    refine ⟨u, j', estimate.gas, limit, limit', rfl, hreached, hlimit, Option.some.inj hvalue, hestimated,
      hlife _ _ _ hreached limit hlimit, hact, ?_⟩
    rw [hsmall.value]
    decide +kernel

/-- Half of the range, as an estimate. -/
def halfEstimate : UInt256 := ⟨2 ^ 255, by decide⟩

/-- An estimate can shrink by its margin, and that need not be a fifth more even where a fifth more is in range: half
of the range is cut to a tenth of it. -/
theorem enough_of_setGas_false :
    (¬∀ (t : Transaction) (origin : Transaction.Origin) (steps : List Step), t.Reached origin steps →
      ∀ estimate limit : UInt256,
      (t.setGas estimate).payload.gasLimit = some limit → estimate.toNat ≤ limit.toNat) ∧
    ¬∀ (t : Transaction) (origin : Transaction.Origin) (steps : List Step), t.Reached origin steps →
      ∀ estimate limit : UInt256,
      (t.setGas estimate).payload.gasLimit = some limit → 12 * estimate.toNat / 10 < 2 ^ 256 →
        limit.toNat = 12 * estimate.toNat / 10 := by
  have hreached : (Transaction.ofSkeleton unpricedCreation .high).Reached (.built unpricedCreation .high) [] :=
    ⟨_, rfl, rfl⟩
  have hmargin := Transaction.isMargin_gasWithMargin halfEstimate
  have hhalf : halfEstimate.toNat = 2 ^ 255 := rfl
  constructor
  · intro henough
    have hle := hmargin.enough_iff.mp (henough _ _ _ hreached _ _ rfl)
    omega
  · intro hexact
    have hlt := hmargin.exact_iff.mp (hexact _ _ _ hreached _ _ rfl (by omega))
    omega

end DynamicFeeWallet
