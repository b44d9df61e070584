import DynamicFeeWallet.Proofs.Wallet.LifeCycle

/-!
# Fees from a fee history

What a fee history quotes for a level is said apart from how it is looked for (`Json.Quotes`), and so is what it lacks
when it quotes nothing (`FeeHistoryError.Tells`). A history that quotes prices sets them, and the sum of the most that
is paid is cut once, at the end of the range (`Transaction.toNat_maxFeeFor`); any other is refused for the first thing
that it lacks, and changes nothing (`setFees_cases`).
-/

namespace DynamicFeeWallet

/-! ## What a fee history says -/

/-- The place of the reward for a level: they are told from the lowest percentile to the highest. -/
def FeeLevel.place : FeeLevel → Nat
  | .low => 0
  | .medium => 1
  | .high => 2

namespace Json

/-- The member of this name is a row, and this is its last item. -/
def EndsWith (j : Json) (name : String) (item : Json) : Prop :=
  ∃ items, j.get? name = some (.array items) ∧ items.getLast? = some item

/-- The document has this result, which is not `null`. -/
def Results (document result : Json) : Prop := document.get? "result" = some result ∧ result ≠ .null

/-- The newest base fee is this. -/
def HasBaseFee (result : Json) (baseFee : UInt256) : Prop :=
  ∃ newest, result.EndsWith "baseFeePerGas" newest ∧ Quantity.ofJson? newest = some baseFee

/-- The newest rewards have this one for a level. -/
def HasReward (result : Json) (level : FeeLevel) (reward : Json) : Prop :=
  ∃ rewards, result.EndsWith "reward" (.array rewards) ∧ rewards[level.place]? = some reward

/-- The fee history has a base fee, and for the level this priority fee. -/
def Quotes (history : Json) (level : FeeLevel) (baseFee priorityFee : UInt256) : Prop :=
  ∃ result, history.Results result ∧ result.HasBaseFee baseFee ∧
    ∃ reward, result.HasReward level reward ∧ Quantity.ofJson? reward = some priorityFee

end Json

/-- What a fee history is like of which this is said: all that is looked for before is there. -/
def FeeHistoryError.Tells (level : FeeLevel) (history : Json) : FeeHistoryError → Prop
  | .noResult => ∀ result, ¬history.Results result
  | .noBaseFee => ∃ result, history.Results result ∧ ∀ newest, ¬result.EndsWith "baseFeePerGas" newest
  | .badBaseFee => ∃ result, history.Results result ∧
    ∃ newest, result.EndsWith "baseFeePerGas" newest ∧ Quantity.ofJson? newest = none
  | .noReward => ∃ result, history.Results result ∧ (∃ baseFee, result.HasBaseFee baseFee) ∧
    ∀ newest, ¬result.EndsWith "reward" newest
  | .noPercentile => ∃ result, history.Results result ∧ (∃ baseFee, result.HasBaseFee baseFee) ∧
    (∃ newest, result.EndsWith "reward" newest) ∧ ∀ reward, ¬result.HasReward level reward
  | .badReward => ∃ result, history.Results result ∧ (∃ baseFee, result.HasBaseFee baseFee) ∧
    ∃ reward, result.HasReward level reward ∧ Quantity.ofJson? reward = none

/-! ## How it is read -/

theorem FeeLevel.rewardIndex_eq (level : FeeLevel) : level.rewardIndex = level.place := by
  cases level <;> rfl

namespace Json

variable {j item : Json} {name : String} {level : FeeLevel}

/-- The last item of a row is what is looked up for it. -/
theorem endsWith_iff : j.EndsWith name item ↔ ((j.get? name).bind asArray?).bind List.getLast? = some item := by
  unfold EndsWith
  constructor
  · rintro ⟨items, hitems, hlast⟩
    rw [hitems]
    exact hlast
  · intro h
    obtain ⟨items, harray, hlast⟩ := Option.bind_eq_some_iff.mp h
    obtain ⟨found, hfound, harray⟩ := Option.bind_eq_some_iff.mp harray
    cases found with
    | array row =>
      cases harray
      exact ⟨_, hfound, hlast⟩
    | _ => nomatch harray

/-- Where nothing is looked up, no row ends. -/
theorem not_endsWith (h : ((j.get? name).bind asArray?).bind List.getLast? = none) (item : Json) :
    ¬j.EndsWith name item := by
  rw [endsWith_iff, h]
  exact nofun

theorem endsWith_unique {item' : Json} (h : j.EndsWith name item) (h' : j.EndsWith name item') : item = item' :=
  Option.some.inj ((endsWith_iff.mp h).symm.trans (endsWith_iff.mp h'))

/-- A reward for a level is looked up in the newest rewards. -/
theorem hasReward_iff {newest reward : Json} (h : j.EndsWith "reward" newest) :
    j.HasReward level reward ↔ (newest.asArray?.bind fun rewards => rewards[level.rewardIndex]?) = some reward := by
  unfold HasReward
  rw [level.rewardIndex_eq]
  constructor
  · rintro ⟨rewards, hrewards, hreward⟩
    rw [endsWith_unique h hrewards]
    exact hreward
  · intro hreward
    cases newest with
    | array rewards => exact ⟨rewards, h, hreward⟩
    | _ => nomatch hreward

end Json

namespace Transaction

variable {level : FeeLevel} {history : Json}

/-- Prices that are read are quoted, and when none are read the error tells what is lacking. -/
theorem pricesOf_cases (level : FeeLevel) (history : Json) :
    (∃ baseFee priorityFee, pricesOf level history = .ok (baseFee, priorityFee) ∧
      history.Quotes level baseFee priorityFee) ∨
      ∃ error, pricesOf level history = .error error ∧ error.Tells level history := by
  unfold pricesOf
  split
  · rename_i hnone
    refine Or.inr ⟨.noResult, rfl, ?_⟩
    rintro result ⟨hfound, -⟩
    rw [hnone] at hfound
    nomatch hfound
  · rename_i hnull
    refine Or.inr ⟨.noResult, rfl, ?_⟩
    rintro result ⟨hfound, hresult⟩
    rw [hnull] at hfound
    exact hresult (Option.some.inj hfound).symm
  rename_i result hnull hfound
  have hresult : history.Results result := ⟨hfound, hnull⟩
  cases hfees : ((result.get? "baseFeePerGas").bind Json.asArray?).bind List.getLast? with
  | none => exact Or.inr ⟨.noBaseFee, rfl, result, hresult, Json.not_endsWith hfees⟩
  | some newest =>
    have hnewest := Json.endsWith_iff.mpr hfees
    cases hbase : Quantity.ofJson? newest with
    | none => exact Or.inr ⟨.badBaseFee, by simp only [hbase], result, hresult, newest, hnewest, hbase⟩
    | some baseFee =>
      have hbaseFee : result.HasBaseFee baseFee := ⟨newest, hnewest, hbase⟩
      cases hrows : ((result.get? "reward").bind Json.asArray?).bind List.getLast? with
      | none =>
        refine Or.inr ⟨.noReward, ?_, result, hresult, ⟨baseFee, hbaseFee⟩, Json.not_endsWith hrows⟩
        simp only [hbase]
      | some rewards =>
        have hrewards := Json.endsWith_iff.mpr hrows
        cases hrow : rewards.asArray?.bind fun row => row[level.rewardIndex]? with
        | none =>
          refine Or.inr ⟨.noPercentile, ?_, result, hresult, ⟨baseFee, hbaseFee⟩, ⟨rewards, hrewards⟩, ?_⟩
          · simp only [hbase, hrow]
          · intro reward hreward
            rw [Json.hasReward_iff hrewards, hrow] at hreward
            nomatch hreward
        | some reward =>
          have hreward := (Json.hasReward_iff hrewards).mpr hrow
          cases hprice : Quantity.ofJson? reward with
          | none =>
            refine Or.inr ⟨.badReward, ?_, result, hresult, ⟨baseFee, hbaseFee⟩, reward, hreward, hprice⟩
            simp only [hbase, hrow, hprice]
          | some priorityFee =>
            refine Or.inl ⟨baseFee, priorityFee, ?_, result, hresult, hbaseFee, reward, hreward, hprice⟩
            simp only [hbase, hrow, hprice]

/-- Prices that are quoted are read. -/
theorem pricesOf_of_quotes {baseFee priorityFee : UInt256} (h : history.Quotes level baseFee priorityFee) :
    pricesOf level history = .ok (baseFee, priorityFee) := by
  obtain ⟨result, ⟨hfound, hnull⟩, ⟨newest, hnewest, hbase⟩, reward, ⟨rewards, hrewards, hreward⟩, hprice⟩ := h
  rw [← level.rewardIndex_eq] at hreward
  have hasArray : (Json.array rewards).asArray? = some rewards := rfl
  unfold pricesOf
  split
  · rename_i hnone
    nomatch hfound.symm.trans hnone
  · rename_i hother
    exact absurd (Option.some.inj (hfound.symm.trans hother)) hnull
  · rename_i other _ hother
    cases hfound.symm.trans hother
    simp only [Json.endsWith_iff.mp hnewest, hbase, Json.endsWith_iff.mp hrewards, hasArray,
      Option.bind_some, hreward, hprice]

/-! ## What is set -/

/-- The most that is paid is twice the base fee and the priority fee, cut at the end of the range: to cut the double
first makes no difference. -/
theorem toNat_maxFeeFor (baseFee priorityFee : UInt256) :
    (maxFeeFor baseFee priorityFee).toNat = min (2 * baseFee.toNat + priorityFee.toNat) (2 ^ 256 - 1) := by
  have hsize : UInt256.size = 2 ^ 256 := rfl
  rw [maxFeeFor, UInt256.satAdd, UInt256.satMul, UInt256.toNat_saturate, UInt256.toNat_saturate, hsize]
  omega

/-- The transaction with these fees; the signature and what is remembered are dropped. -/
def withFees (t : Transaction) (priorityFee maxFee : UInt256) : Transaction :=
  { t with
    payload := { t.payload with priorityFee := some priorityFee, maxFee := some maxFee }
    signature := none
    hashMemo := none
    senderMemo := none }

theorem setFees_of_quotes {t : Transaction} {baseFee priorityFee : UInt256}
    (h : history.Quotes t.feeLevel baseFee priorityFee) :
    t.setFees history = .ok (t.withFees priorityFee (maxFeeFor baseFee priorityFee)) := by
  rw [setFees, pricesOf_of_quotes h]
  rfl

end Transaction

/-! ## Main statement -/

/-- The fees of a transaction are set exactly when the history quotes prices at its level. Then the priority fee is
the one quoted, the most that is paid is twice the base fee and the priority fee, cut at the end of the range and so
never below the priority fee, the signature and what is remembered are dropped, and nothing else changes. Any other
history is refused for the first thing that it lacks, and the transaction stays as it is, with its signature and all
that is remembered. -/
theorem setFees_cases (t : Transaction) (history : Json) :
    ((∃ u, t.setFees history = .ok u) ↔ ∃ baseFee priorityFee, history.Quotes t.feeLevel baseFee priorityFee) ∧
      (∀ baseFee priorityFee, history.Quotes t.feeLevel baseFee priorityFee →
        ∃ maxFee : UInt256, maxFee.toNat = min (2 * baseFee.toNat + priorityFee.toNat) (2 ^ 256 - 1) ∧
          priorityFee.toNat ≤ maxFee.toNat ∧
          t.act (.setFees history) = (.changed (.ok ()), t.withFees priorityFee maxFee)) ∧
      ((¬∃ baseFee priorityFee, history.Quotes t.feeLevel baseFee priorityFee) →
        ∃ error : FeeHistoryError, error.Tells t.feeLevel history ∧
          t.act (.setFees history) = (.changed (.error (.badFeeHistory error)), t)) := by
  refine ⟨⟨?_, ?_⟩, ?_, ?_⟩
  · rintro ⟨u, hset⟩
    obtain ⟨baseFee, priorityFee, hread, -⟩ := Transaction.setFees_eq_ok hset
    rcases Transaction.pricesOf_cases t.feeLevel history with ⟨baseFee, priorityFee, -, hquotes⟩ | ⟨error, herror, -⟩
    · exact ⟨baseFee, priorityFee, hquotes⟩
    · nomatch hread.symm.trans herror
  · rintro ⟨baseFee, priorityFee, hquotes⟩
    exact ⟨_, Transaction.setFees_of_quotes hquotes⟩
  · intro baseFee priorityFee hquotes
    have hset := Transaction.setFees_of_quotes hquotes
    exact ⟨_, Transaction.toNat_maxFeeFor baseFee priorityFee, Transaction.toNat_le_maxFeeFor baseFee priorityFee,
      by rw [Transaction.act, hset]⟩
  · intro hquotes
    rcases Transaction.pricesOf_cases t.feeLevel history with ⟨baseFee, priorityFee, -, hfound⟩ | ⟨error, herror, htells⟩
    · exact absurd ⟨baseFee, priorityFee, hfound⟩ hquotes
    · have hset : t.setFees history = .error (.badFeeHistory error) := by rw [Transaction.setFees, herror]
      exact ⟨error, htells, by rw [Transaction.act, hset]⟩

/-- A signed transaction of which the sender is remembered. -/
def rememberedTransfer : Transaction := { zeroSignedTransfer with senderMemo := some .allOnes }

/-- A fee history with these base fees and these newest rewards. -/
def feeHistoryOf (baseFees rewards : List Json) : Json :=
  .members [("result", .members [("baseFeePerGas", .array baseFees), ("reward", .array [.array [], .array rewards])])]

/-- The largest base fee there is. -/
def largestFee : Json := .text ("0x" ++ String.ofList (List.replicate 64 'f'))

/-- The largest base fee leaves no room above it, and a row of rewards that is too short for the level changes nothing. -/
theorem setFees_cases_largest_and_short :
    (∃ maxFee : UInt256, maxFee.toNat = 2 ^ 256 - 1 ∧
      rememberedTransfer.act (.setFees (feeHistoryOf [.null, largestFee] [.null, .natural 2])) =
        (.changed (.ok ()), rememberedTransfer.withFees (.ofUInt64 2) maxFee)) ∧
    ∃ error : FeeHistoryError, error.Tells .medium (feeHistoryOf [largestFee] [.natural 2]) ∧
      rememberedTransfer.act (.setFees (feeHistoryOf [largestFee] [.natural 2])) =
        (.changed (.error (.badFeeHistory error)), rememberedTransfer) := by
  constructor
  · have hbase : Quantity.ofJson? largestFee = some .max := by decide +kernel
    have hquotes : (feeHistoryOf [.null, largestFee] [.null, .natural 2]).Quotes .medium .max (.ofUInt64 2) :=
      ⟨_, ⟨rfl, nofun⟩, ⟨largestFee, ⟨_, rfl, rfl⟩, hbase⟩, .natural 2, ⟨_, ⟨_, rfl, rfl⟩, rfl⟩, rfl⟩
    obtain ⟨-, hset, -⟩ := setFees_cases rememberedTransfer (feeHistoryOf [.null, largestFee] [.null, .natural 2])
    obtain ⟨maxFee, hmax, -, hact⟩ := hset _ _ hquotes
    exact ⟨maxFee, hmax.trans (by decide +kernel), hact⟩
  · have hshort : Transaction.pricesOf .medium (feeHistoryOf [largestFee] [.natural 2]) = .error .noPercentile := rfl
    obtain ⟨-, -, hrefused⟩ := setFees_cases rememberedTransfer (feeHistoryOf [largestFee] [.natural 2])
    refine hrefused ?_
    rintro ⟨baseFee, priorityFee, hquotes⟩
    nomatch hshort.symm.trans (Transaction.pricesOf_of_quotes hquotes)

end DynamicFeeWallet
