import DynamicFeeWallet.Proofs.Node.Reply
import DynamicFeeWallet.Wallet.Basic

/-!
# What passes for a success

A call, the sending of a signed transaction and the dropping of a pending one each make one request, and take the
document of its reply for a success exactly when it carries a result, or neither a result nor an error
(`Reply.Grants`); every other reply is a failure of the kind `protocol`. A result beside an error passes for a success
all the same.
-/

namespace DynamicFeeWallet

/-! ## Replies that grant a result -/

/-- A document is a success when it carries a result, or no error. -/
theorem Outcome.ofResponse_eq_success {document result : Json} :
    Outcome.ofResponse document = .success result ↔
      document.get? "result" = some result ∨
        document.get? "result" = none ∧ document.get? "error" = none ∧ result = .null := by
  unfold ofResponse
  cases document.get? "result" with
  | some found => simp
  | none => cases document.get? "error" <;> simp [eq_comm]

/-- The text of a document with this result, or with neither a result nor an error and then the result is `null`. -/
def Reply.Grants (reply : Reply) (result : Json) : Prop :=
  ∃ text document, reply = .ok text ∧ Json.parse? text = some document ∧
    (document.get? "result" = some result ∨
      document.get? "result" = none ∧ document.get? "error" = none ∧ result = .null)

/-- The text of a document with a result and without an error other than `null`. -/
def Reply.Approves (reply : Reply) : Prop :=
  ∃ text document, reply = .ok text ∧ Json.parse? text = some document ∧
    (∃ result, document.get? "result" = some result) ∧ ∀ error, document.get? "error" = some error → error = .null

namespace Reply

variable {reply : Reply} {method : String} {refused : Json → WalletError}

/-- What a reply comes to is the result that it grants. -/
theorem result_eq_ok {result : Json} : reply.result method refused = .ok result ↔ reply.Grants result := by
  simp only [Grants, ← Outcome.ofResponse_eq_success]
  unfold Reply.result
  cases hdocument : reply.document method with
  | error error =>
    constructor
    · intro h
      nomatch h
    · rintro ⟨text, document, hreply, hparse, -⟩
      rw [document_eq_ok.mpr ⟨text, hreply, hparse⟩] at hdocument
      nomatch hdocument
  | ok document =>
    obtain ⟨text, rfl, hparse⟩ := document_eq_ok.mp hdocument
    dsimp only
    constructor
    · intro h
      refine ⟨text, document, rfl, hparse, ?_⟩
      cases houtcome : Outcome.ofResponse document with
      | success found =>
        rw [houtcome] at h
        cases h
        rfl
      | failure error =>
        rw [houtcome] at h
        nomatch h
    · rintro ⟨text', document', htext, hparse', houtcome⟩
      cases htext
      cases hparse.symm.trans hparse'
      rw [houtcome]

/-- When a reply comes to a failure, this is of the kind `protocol` if refusals are. -/
theorem kind_of_result_eq_error (hrefused : ∀ error, (refused error).kind = .protocol) {error : WalletError}
    (h : reply.result method refused = .error error) : error.kind = .protocol := by
  unfold Reply.result at h
  split at h
  · cases h
    exact kind_ofSend _
  · split at h
    · nomatch h
    · cases h
      exact hrefused _

/-- The outcome is the result that the reply grants, or a failure of the kind `protocol` when it grants none. -/
def Decides {α : Type} (reply : Reply) (submit : Json → α) (outcome : Except WalletError α) : Prop :=
  (∃ result, reply.Grants result ∧ outcome = .ok (submit result)) ∨
    (∀ result, ¬reply.Grants result) ∧ ∃ error, outcome = .error error ∧ error.kind = .protocol

/-- A reply that grants a result decides for it. -/
theorem Decides.eq_ok {α : Type} {submit : Json → α} {outcome : Except WalletError α} {result : Json}
    (h : reply.Decides submit outcome) (hgrants : reply.Grants result) : outcome = .ok (submit result) := by
  rcases h with ⟨granted, hgranted, houtcome⟩ | ⟨hnone, -⟩
  · have hresult : reply.result "" (fun error => .node (.reported error)) = .ok result := result_eq_ok.mpr hgrants
    rw [result_eq_ok.mpr hgranted] at hresult
    cases hresult
    exact houtcome
  · exact absurd hgrants (hnone result)

/-- What is told of a reply is what it decides. -/
theorem decides_result {α : Type} (submit : Json → α) (hrefused : ∀ error, (refused error).kind = .protocol) :
    reply.Decides submit ((reply.result method refused).map submit) := by
  cases hresult : reply.result method refused with
  | ok result => exact Or.inl ⟨result, result_eq_ok.mp hresult, rfl⟩
  | error error =>
    refine Or.inr ⟨fun result hgrants => ?_, error, rfl, kind_of_result_eq_error hrefused hresult⟩
    rw [result_eq_ok.mpr hgrants] at hresult
    nomatch hresult

end Reply

/-! ## Operations -/

/-- The attempt makes this call: refused arguments are told and nothing is sent, and otherwise the reply to the
request decides. -/
def Call.Decides {α : Type} (call : Call) (submit : Json → α) (attempt : Attempt α) : Prop :=
  ∀ node j, match call.request with
    | .ok request => (node j.requests request).Decides submit (attempt.run.run node j).1
    | .error error => attempt.run.run node j = (.error (.argument error), j)

/-- What is reported of a call is what the reply to it decides. -/
theorem Call.decides_report {α : Type} (client : Client) (call : Call) (submit : Json → α) {refused : Json → WalletError}
    (hrefused : ∀ error, (refused error).kind = .protocol) :
    call.Decides submit (Client.report (client.sendCall call) submit refused) := by
  intro node j
  rw [Client.run_report_sendCall]
  cases call.request with
  | error error => rfl
  | ok request =>
    dsimp only
    rw [Client.run_report_send]
    exact Reply.decides_result submit hrefused

namespace Wallet

/-- To send a transaction is to report on its call. -/
theorem sendTransaction_eq_report (w : Wallet) (signed : String) :
    w.sendTransaction signed =
      Client.report (w.client.sendCall (.sendRawTransaction (marked signed))) (Submission.mk (marked signed))
        (.sendRefused (marked signed)) := rfl

theorem dropTransaction_eq_report (w : Wallet) (hash : String) :
    w.dropTransaction hash =
      Client.report (w.client.sendCall (.dropTransaction (marked hash))) (Submission.mk (marked hash))
        (.dropRefused (marked hash)) := rfl

end Wallet

/-! ## Main statements -/

/-- The reply decides what a call, the sending of a signed transaction and the dropping of a pending one come to: each
succeeds exactly when the reply is a document that carries a result, which is reported, or neither a result nor an
error, and then `null` is; with any other reply it fails, and the failure is of the kind `protocol`. -/
theorem decides_submission (w : Wallet) :
    (∀ (node : Node) (j : Journal) (request : Request),
      (node j.requests request).Decides id ((w.client.call request).run.run node j).1) ∧
      (∀ signed, (Call.sendRawTransaction (marked signed)).Decides (Wallet.Submission.mk (marked signed))
        (w.sendTransaction signed)) ∧
      ∀ hash, (Call.dropTransaction (marked hash)).Decides (Wallet.Submission.mk (marked hash))
        (w.dropTransaction hash) := by
  refine ⟨?_, ?_, ?_⟩
  · intro node j request
    rw [Client.call_eq_report, Client.run_report_send]
    exact Reply.decides_result id fun _ => rfl
  · intro signed
    rw [Wallet.sendTransaction_eq_report]
    exact Call.decides_report w.client _ _ fun _ => rfl
  · intro hash
    rw [Wallet.dropTransaction_eq_report]
    exact Call.decides_report w.client _ _ fun _ => rfl

/-- A refusal beside a null result. -/
def refusalBody : String := "\x7b\"error\":\x7b\"code\":-32000,\"message\":\"nonce too low\"\x7d,\"id\":1,\"result\":null\x7d"

/-- A success need not carry a result and no error: an empty object passes for the result of a call, and a refusal
beside a null result for a transaction that was taken in. -/
theorem approves_of_ok_false :
    (¬∀ (client : Client) (node : Node) (j : Journal) (request : Request) (result : Json),
      ((client.call request).run.run node j).1 = .ok result → (node j.requests request).Approves) ∧
    ¬∀ (w : Wallet) (signed : String) (node : Node) (j : Journal) (request : Request) (submission : Wallet.Submission),
      (Call.sendRawTransaction (marked signed)).request = .ok request →
        ((w.sendTransaction signed).run.run node j).1 = .ok submission → (node j.requests request).Approves := by
  constructor
  · intro happroved
    have hempty : Json.parse? "\x7b\x7d" = some (.members []) := rfl
    have hcall : (((Client.mk {}).call ⟨"eth_blockNumber", []⟩).run.run (fun _ _ => .ok "\x7b\x7d") {}).1 =
        .ok .null := by
      rw [Client.call_eq_report, Client.run_report_send]
      rfl
    obtain ⟨text, document, htext, hparse, ⟨result, hresult⟩, -⟩ := happroved _ _ _ _ _ hcall
    cases htext
    cases hempty.symm.trans hparse
    nomatch hresult
  · intro happroved
    have hresult : ((Json.parse? refusalBody).bind (·.get? "result")).isSome = true := by decide +kernel
    have herror : ((Json.parse? refusalBody).bind (·.get? "error")).any (!·.isNull) = true := by decide +kernel
    have hrequest : (Call.sendRawTransaction (marked "0x02")).request = .ok ⟨"eth_sendRawTransaction", [.text "0x02"]⟩ :=
      rfl
    obtain ⟨result, hresult⟩ := Option.isSome_iff_exists.mp hresult
    obtain ⟨document, hparse, hresult⟩ := Option.bind_eq_some_iff.mp hresult
    have hgrants : Reply.Grants (.ok refusalBody) result := ⟨refusalBody, document, rfl, hparse, Or.inl hresult⟩
    have hsent : (((Wallet.mk ⟨{}⟩).sendTransaction "0x02").run.run (fun _ _ => .ok refusalBody) {}).1 =
        .ok ⟨"0x02", result⟩ := by
      rw [Wallet.sendTransaction_eq_report, Client.run_report_sendCall, hrequest]
      dsimp only
      rw [Client.run_report_send, Reply.result_eq_ok.mpr hgrants]
      rfl
    obtain ⟨text, document', htext, hparse', -, hnull⟩ := happroved _ _ _ _ _ _ hrequest hsent
    cases htext
    cases hparse.symm.trans hparse'
    rw [hparse, Option.bind_some] at herror
    cases hcarried : document.get? "error" with
    | none =>
      rw [hcarried] at herror
      nomatch herror
    | some error =>
      rw [hcarried, hnull error hcarried] at herror
      nomatch herror

end DynamicFeeWallet
