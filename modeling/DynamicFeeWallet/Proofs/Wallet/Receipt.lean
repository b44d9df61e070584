import DynamicFeeWallet.Proofs.Wallet.Submission

/-!
# What a receipt is taken for

What is told of a transaction is what its receipt is taken for (`Wallet.statusOf_eq_iff`), and the receipt is the
result that the node grants. A receipt that tells a block and a success is told as a confirmation in that block. The
converse holds of receipts that can be read (`transactionStatus_confirms`): one without a block that can be read is
told as confirmed in block zero, and one with a status that cannot be read passes for a success
(`confirms_of_transactionStatus_false`).
-/

namespace DynamicFeeWallet

/-! ## What a receipt says -/

namespace Json

variable (receipt : Json)

/-- There is a member of this name, and it is this quantity. -/
def HasQuantity (name : String) (amount : UInt256) : Prop :=
  ∃ value, receipt.get? name = some value ∧ Quantity.ofJson? value = some amount

/-- The block is told, and it is this one. -/
def TellsBlock (blockNumber : UInt64) : Prop :=
  ∃ amount, receipt.HasQuantity "blockNumber" amount ∧ amount.toNat = blockNumber.toNat

/-- The status, when there is one other than `null`, is a quantity. -/
def HasLegibleStatus : Prop :=
  ∀ status, receipt.get? "status" = some status → status ≠ .null → ∃ amount, Quantity.ofJson? status = some amount

/-- The status, when there is one other than `null`, is a quantity other than zero. -/
def TellsSuccess : Prop :=
  ∀ status, receipt.get? "status" = some status → status ≠ .null →
    ∃ amount, Quantity.ofJson? status = some amount ∧ amount ≠ .zero

/-- The receipt tells that the transaction was mined in this block and did not fail. -/
def Confirms (blockNumber : UInt64) : Prop := receipt.TellsBlock blockNumber ∧ receipt.TellsSuccess

/-- Some block is told, and the status can be read, if there is one. -/
def Legible : Prop := (∃ blockNumber, receipt.TellsBlock blockNumber) ∧ receipt.HasLegibleStatus

/-- What the receipt is taken for. -/
inductive Means : ConfirmationStatus → Prop where
  | pending (h : receipt = .null) : Means .pending
  | rejected (h : receipt.HasQuantity "status" .zero) : Means (.rejected "Transaction reverted")
  | confirmed {blockNumber : UInt64} (h : ¬receipt.HasQuantity "status" .zero) (hblock : receipt.TellsBlock blockNumber) :
      Means (.confirmed blockNumber)
  /-- Where no block is told, it is taken for block zero. -/
  | unplaced (hnull : receipt ≠ .null) (h : ¬receipt.HasQuantity "status" .zero)
      (hblock : ∀ blockNumber, ¬receipt.TellsBlock blockNumber) : Means (.confirmed 0)

variable {receipt} {name : String} {amount : UInt256} {blockNumber : UInt64}

theorem hasQuantity_iff : receipt.HasQuantity name amount ↔ (receipt.get? name).bind Quantity.ofJson? = some amount := by
  rw [Option.bind_eq_some_iff, HasQuantity]

theorem isNull_iff : receipt.isNull = true ↔ receipt = .null := by
  cases receipt <;> simp [isNull]

/-- A receipt that has a quantity is not `null`. -/
theorem HasQuantity.ne_null (h : receipt.HasQuantity name amount) : receipt ≠ .null := by
  rintro rfl
  obtain ⟨value, hvalue, -⟩ := h
  nomatch hvalue

/-- A block is told when the quantity is in the range of block numbers. -/
theorem tellsBlock_iff :
    receipt.TellsBlock blockNumber ↔
      ((receipt.get? "blockNumber").bind Quantity.ofJson?).bind UInt256.toUInt64? = some blockNumber := by
  simp only [Option.bind_eq_some_iff (x := (receipt.get? "blockNumber").bind Quantity.ofJson?),
    TellsBlock, hasQuantity_iff, UInt256.toUInt64?_eq_some_iff]

theorem TellsBlock.ne_null (h : receipt.TellsBlock blockNumber) : receipt ≠ .null := by
  obtain ⟨amount, hamount, -⟩ := h
  exact hamount.ne_null

/-- Success is told when the status can be read, if there is one, and is not zero. -/
theorem tellsSuccess_iff : receipt.TellsSuccess ↔ ¬receipt.HasQuantity "status" .zero ∧ receipt.HasLegibleStatus := by
  constructor
  · intro h
    refine ⟨?_, ?_⟩
    · rintro ⟨status, hstatus, hzero⟩
      have hnull : status ≠ .null := by
        rintro rfl
        nomatch hzero
      obtain ⟨amount, hamount, hne⟩ := h status hstatus hnull
      exact hne (Option.some.inj (hamount.symm.trans hzero))
    · intro status hstatus hnull
      obtain ⟨amount, hamount, -⟩ := h status hstatus hnull
      exact ⟨amount, hamount⟩
  · rintro ⟨hzero, h⟩ status hstatus hnull
    obtain ⟨amount, hamount⟩ := h status hstatus hnull
    refine ⟨amount, hamount, ?_⟩
    rintro rfl
    exact hzero ⟨status, hstatus, hamount⟩

/-- A receipt that can be read confirms what it is taken for, and a receipt that confirms something can be read. -/
theorem confirms_iff : receipt.Confirms blockNumber ↔ receipt.Legible ∧ receipt.Means (.confirmed blockNumber) := by
  rw [Confirms, tellsSuccess_iff, Legible]
  constructor
  · rintro ⟨hblock, hstatus, hread⟩
    exact ⟨⟨⟨blockNumber, hblock⟩, hread⟩, .confirmed hstatus hblock⟩
  · rintro ⟨⟨⟨told, htold⟩, hread⟩, hmeans⟩
    cases hmeans with
    | confirmed hstatus hblock => exact ⟨hblock, hstatus, hread⟩
    | unplaced hnull hstatus hblock => exact absurd htold (hblock told)

end Json

/-! ## How it is looked for -/

/-- A call that is asked for its result, of which something is told, is decided by the reply. -/
theorem Call.decides_ask {α : Type} (client : Client) (call : Call) (tell : Json → α) :
    call.Decides tell (do return tell (← client.ask call)) := by
  intro node j
  cases hrequest : call.request with
  | error error =>
    rw [Client.ask_eq_throw hrequest]
    rfl
  | ok request =>
    have hdecides : (node j.requests request).Decides tell
        (((node j.requests request).result request.method fun error => .node (.reported error)).map tell) :=
      Reply.decides_result tell fun _ => rfl
    rw [Attempt.run_bind, Client.run_ask node j hrequest]
    revert hdecides
    cases (node j.requests request).result request.method fun error => .node (.reported error) with
    | error error => exact id
    | ok result => exact id

namespace Wallet

/-- The status is one that the receipt is taken for. -/
theorem means_statusOf (receipt : Json) : receipt.Means (statusOf receipt) := by
  unfold statusOf
  split
  · rename_i hnull
    exact .pending (Json.isNull_iff.mp hnull)
  split
  · rename_i hzero
    exact .rejected (Json.hasQuantity_iff.mpr hzero)
  rename_i hnull hzero
  rw [← Json.hasQuantity_iff] at hzero
  cases hblock : ((receipt.get? "blockNumber").bind Quantity.ofJson?).bind UInt256.toUInt64? with
  | some blockNumber => exact .confirmed hzero (Json.tellsBlock_iff.mpr hblock)
  | none =>
    refine .unplaced (fun h => hnull (Json.isNull_iff.mpr h)) hzero fun blockNumber h => ?_
    nomatch hblock.symm.trans (Json.tellsBlock_iff.mp h)

/-- And the only one. -/
theorem statusOf_eq_iff {receipt : Json} {status : ConfirmationStatus} :
    statusOf receipt = status ↔ receipt.Means status := by
  constructor
  · rintro rfl
    exact means_statusOf receipt
  · intro h
    unfold statusOf
    cases h with
    | pending hnull => rw [if_pos (Json.isNull_iff.mpr hnull)]
    | rejected hzero => rw [if_neg (mt Json.isNull_iff.mp hzero.ne_null), if_pos (Json.hasQuantity_iff.mp hzero)]
    | confirmed hstatus hblock =>
      rw [if_neg (mt Json.isNull_iff.mp hblock.ne_null), if_neg (mt Json.hasQuantity_iff.mpr hstatus),
        Json.tellsBlock_iff.mp hblock]
      rfl
    | unplaced hnull hstatus hblock =>
      have hnone : ((receipt.get? "blockNumber").bind Quantity.ofJson?).bind UInt256.toUInt64? = none :=
        Option.eq_none_iff_forall_ne_some.mpr fun blockNumber htold => hblock blockNumber (Json.tellsBlock_iff.mpr htold)
      rw [if_neg (mt Json.isNull_iff.mp hnull), if_neg (mt Json.hasQuantity_iff.mpr hstatus), hnone]
      rfl

/-- The reply decides what is told of a transaction. -/
theorem decides_transactionStatus (w : Wallet) (hash : String) :
    (Call.transactionReceipt (marked hash)).Decides statusOf (w.transactionStatus hash) :=
  Call.decides_ask w.client _ statusOf

/-- What is told of a transaction is what the receipt that the node grants is taken for. -/
theorem transactionStatus_of_grants {w : Wallet} {hash : String} {node : Node} {j : Journal}
    {request : Request} {receipt : Json} (hrequest : (Call.transactionReceipt (marked hash)).request = .ok request)
    (hgrants : (node j.requests request).Grants receipt) :
    ((w.transactionStatus hash).run.run node j).1 = .ok (statusOf receipt) := by
  have hdecides := w.decides_transactionStatus hash node j
  rw [hrequest] at hdecides
  exact Reply.Decides.eq_ok hdecides hgrants

end Wallet

/-! ## Main statements -/

/-- The reply decides what becomes of a transaction: a receipt that the node grants is told as what it is taken for,
and any other reply is an error. It is told as confirmed in a block, when it can be read, exactly when it tells that
block and no failure; it is told as rejected exactly when its status is zero, and as pending exactly when it is
`null`. -/
theorem transactionStatus_confirms (w : Wallet) (hash : String) :
    (Call.transactionReceipt (marked hash)).Decides Wallet.statusOf (w.transactionStatus hash) ∧
      ∀ receipt : Json,
        (∀ status, Wallet.statusOf receipt = status ↔ receipt.Means status) ∧
        ∀ blockNumber, receipt.Confirms blockNumber ↔
          receipt.Legible ∧ Wallet.statusOf receipt = .confirmed blockNumber := by
  refine ⟨w.decides_transactionStatus hash, fun receipt => ⟨fun status => Wallet.statusOf_eq_iff, fun blockNumber => ?_⟩⟩
  rw [Wallet.statusOf_eq_iff]
  exact Json.confirms_iff

/-- The receipt of a transaction that was mined in block 42 confirms it there. -/
theorem transactionStatus_confirms_mined :
    (Json.object [("status", .text "0x1"), ("blockNumber", .text "0x2a")]).Confirms 42 ∧
      Wallet.statusOf (.object [("status", .text "0x1"), ("blockNumber", .text "0x2a")]) = .confirmed 42 := by
  obtain ⟨-, hconfirms⟩ :=
    (transactionStatus_confirms ⟨⟨{}⟩⟩ "").2 (.object [("status", .text "0x1"), ("blockNumber", .text "0x2a")])
  have hblock : (Json.object [("status", .text "0x1"), ("blockNumber", .text "0x2a")]).TellsBlock 42 :=
    Json.tellsBlock_iff.mpr (by decide +kernel)
  have hsuccess : (Json.object [("status", .text "0x1"), ("blockNumber", .text "0x2a")]).TellsSuccess := by
    rintro status hstatus -
    cases hstatus
    exact ⟨.ofUInt64 1, by decide +kernel, by decide⟩
  exact ⟨⟨hblock, hsuccess⟩, ((hconfirms 42).mp ⟨hblock, hsuccess⟩).2⟩

/-- A response whose receipt tells no block, and a status that is no quantity. -/
def illegibleBody : String := "\x7b\"result\":\x7b\"status\":\"failed\"\x7d\x7d"

/-- Its receipt is granted, and tells neither a block nor a success. -/
theorem exists_grants_illegibleBody :
    ∃ receipt, Reply.Grants (.ok illegibleBody) receipt ∧ receipt ≠ .null ∧ ¬receipt.HasQuantity "status" .zero ∧
      (∀ blockNumber, ¬receipt.TellsBlock blockNumber) ∧ ¬receipt.TellsSuccess := by
  have htext : ((Json.parse? illegibleBody).bind (·.get? "result")).any (fun receipt =>
      (receipt.get? "blockNumber").isNone && (receipt.get? "status").any fun status =>
        !status.isNull && (Quantity.ofJson? status).isNone) = true := by decide +kernel
  simp only [Option.any_eq_true, Option.bind_eq_some_iff, Bool.and_eq_true, Bool.not_eq_true',
    Option.isNone_iff_eq_none] at htext
  obtain ⟨receipt, ⟨document, hparse, hresult⟩, hblock, status, hstatus, hnull, hread⟩ := htext
  refine ⟨receipt, ⟨illegibleBody, document, rfl, hparse, Or.inl hresult⟩, ?_, ?_, ?_, ?_⟩
  · rintro rfl
    nomatch hstatus
  · rintro ⟨value, hvalue, hzero⟩
    cases hstatus.symm.trans hvalue
    nomatch hread.symm.trans hzero
  · rintro blockNumber ⟨amount, ⟨value, hvalue, -⟩, -⟩
    nomatch hblock.symm.trans hvalue
  · intro hsuccess
    have hother : status ≠ .null := by
      rintro rfl
      nomatch hnull
    obtain ⟨amount, hamount, -⟩ := hsuccess status hstatus hother
    nomatch hread.symm.trans hamount

/-- A confirmation need not be told by the receipt, neither its block nor that the transaction did not fail. -/
theorem confirms_of_transactionStatus_false :
    (¬∀ (w : Wallet) (hash : String) (node : Node) (j : Journal) (request : Request)
      (receipt : Json) (blockNumber : UInt64),
      (Call.transactionReceipt (marked hash)).request = .ok request → (node j.requests request).Grants receipt →
        ((w.transactionStatus hash).run.run node j).1 = .ok (.confirmed blockNumber) → receipt.TellsBlock blockNumber) ∧
    ¬∀ (w : Wallet) (hash : String) (node : Node) (j : Journal) (request : Request)
      (receipt : Json) (blockNumber : UInt64),
      (Call.transactionReceipt (marked hash)).request = .ok request → (node j.requests request).Grants receipt →
        ((w.transactionStatus hash).run.run node j).1 = .ok (.confirmed blockNumber) → receipt.TellsSuccess := by
  obtain ⟨receipt, hgrants, hnull, hstatus, hblock, hsuccess⟩ := exists_grants_illegibleBody
  have hrequest : (Call.transactionReceipt (marked (FixedBytes.toHex (FixedBytes.replicate 32 0)))).request =
      .ok ⟨"eth_getTransactionReceipt", [.text (FixedBytes.toHex (FixedBytes.replicate 32 0))]⟩ := rfl
  have htold : (((Wallet.mk ⟨{}⟩).transactionStatus (FixedBytes.toHex (FixedBytes.replicate 32 0))).run.run
      (fun _ _ => .ok illegibleBody) {}).1 = .ok (.confirmed 0) := by
    have hmeans : Wallet.statusOf receipt = .confirmed 0 := Wallet.statusOf_eq_iff.mpr (.unplaced hnull hstatus hblock)
    rw [Wallet.transactionStatus_of_grants hrequest hgrants, hmeans]
  constructor
  · intro hconfirmed
    exact hblock 0 (hconfirmed _ _ _ _ _ _ _ hrequest hgrants htold)
  · intro hconfirmed
    exact hsuccess (hconfirmed _ _ _ _ _ _ _ hrequest hgrants htold)

end DynamicFeeWallet
