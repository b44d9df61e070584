import DynamicFeeWallet.Proofs.CommandLine.Script
import DynamicFeeWallet.Proofs.Request.CallObject
import DynamicFeeWallet.Proofs.Wallet.Requests
import DynamicFeeWallet.Proofs.Wallet.Submission

/-!
# A dry run tells what a transfer sends

A transfer is drafted, priced and signed before it is decided whether it is sent, so a dry run and the transfer itself
part only then. Until then they differ at most in the turns of the two requests of the pricing, and these make no
difference to a node that answers each method by itself (`Node.byMethod`).
-/

namespace DynamicFeeWallet

/-! ## Answers by method -/

/-- A node that answers a request by the requests of its method before it. -/
def Node.byMethod (answer : List Request → Request → Reply) : Node :=
  fun past r => answer (past.filter (·.method == r.method)) r

/-- The two requests of an estimation are of different methods. -/
theorem Side.method_request_ne {s s' : Side} (h : s' ≠ s) (object : Json) :
    (s'.request object).method ≠ (s.request object).method := by
  cases s <;> cases s' <;> simp_all [Side.request]

/-- To such a node it makes no difference which of two requests comes first. -/
theorem LegPair.reply_byMethod (object : Json) (answer : List Request → Request → Reply) (j : Journal)
    (order : List Side) (s : Side) :
    (LegPair.mk (Side.request object) (Node.byMethod answer) j).reply order s =
      answer (j.requests.filter (·.method == (s.request object).method)) (s.request object) := by
  have hother : ((order.take (order.idxOf s)).map (Side.request object)).filter
      (·.method == (s.request object).method) = [] := by
    rw [List.filter_eq_nil_iff]
    intro r hr
    obtain ⟨s', hs', rfl⟩ := List.mem_map.mp hr
    have hne : s' ≠ s := by
      rintro rfl
      exact Nat.lt_irrefl _ ((List.mem_take_iff_idxOf_lt (List.mem_of_mem_take hs')).mp hs')
    simpa using Side.method_request_ne hne object
  unfold LegPair.reply Node.byMethod
  dsimp only
  rw [List.filter_append, hother, List.append_nil]

namespace Client

variable (client : Client) (object : Json) (j : Journal)

/-- Whatever the turns, such a node is asked for one estimate. -/
theorem run_estimateWith_byMethod (schedule schedule' : List Side) (answer : List Request → Request → Reply) :
    ((client.estimateWith schedule object).run.run (Node.byMethod answer) j).1 =
      ((client.estimateWith schedule' object).run.run (Node.byMethod answer) j).1 := by
  rw [run_estimateWith, run_estimateWith]
  cases Argument.checkCall object with
  | error error => rfl
  | ok checked => simp only [LegPair.reply_byMethod]

/-- An estimation sends both of its requests or none, and both when there is an estimate. -/
theorem requests_estimateWith (schedule : List Side) (node : Node) :
    ∃ order : List Side,
      ((client.estimateWith schedule object).run.run node j).2.requests = j.requests ++ order.map (Side.request object) ∧
      ∀ estimate, ((client.estimateWith schedule object).run.run node j).1 = .ok estimate → order.Perm [.gas, .fees] := by
  rw [run_estimateWith]
  cases Argument.checkCall object with
  | error error => exact ⟨[], (List.append_nil _).symm, fun estimate h => nomatch h⟩
  | ok checked =>
    obtain ⟨-, hhanded, -⟩ := Progress.Sound.start.turns schedule
    exact ⟨_, LegPair.requests_journal .., fun _ _ => hhanded⟩

end Client

/-! ## Up to the signature -/

/-- The methods that a transfer uses before it is submitted. -/
def draftMethods : List String := ["eth_getTransactionCount", "eth_estimateGas", "eth_feeHistory"]

theorem ne_of_mem_draftMethods {method : String} (h : method ∈ draftMethods) :
    method ≠ "eth_sendRawTransaction" ∧ method ≠ "eth_getTransactionReceipt" := by
  constructor <;> rintro rfl <;> exact absurd h (by decide)

/-- After nonces were asked for, an estimation asks for gas and for fees. -/
theorem Client.methods_estimateWith (client : Client) {object : Json} {j : Journal} {node : Node}
    (hj : ∀ r ∈ j.requests, r.method = "eth_getTransactionCount") (schedule : List Side) :
    ∀ r ∈ ((client.estimateWith schedule object).run.run node j).2.requests, r.method ∈ draftMethods := by
  intro r hr
  obtain ⟨order, hrequests, -⟩ := client.requests_estimateWith object j schedule node
  rw [hrequests] at hr
  rcases List.mem_append.mp hr with hr | hr
  · exact hj r hr ▸ List.mem_cons_self
  · obtain ⟨side, -, rfl⟩ := List.mem_map.mp hr
    cases side <;> simp [Side.request, draftMethods]

namespace Wallet

open Script

variable (w : Wallet) (env : Environment) (t : Transfer)

/-- The key and the skeleton of a transfer. -/
def draftTransfer : Script (String × Skeleton) := do
  match Quantity.ofAnyBase? t.value with
  | none => throw (.badAmount t.value)
  | some value =>
    let key ← give env.readKey
    let sender := (← give (Wallet.readKey key)).address.checksum
    let account ← await (w.getAccount sender "cli" key none)
    let skeleton ← give (w.buildTransaction sender account.nonce t.destination t.data value [])
    return (key, skeleton)

/-- Prices and signs a draft, with the two requests of the pricing in turns as a schedule says. -/
def finishTransfer (schedule : List Side) (level : FeeLevel) (key : String) (sk : Skeleton) :
    Script (Transaction × String) := do
  let transaction ← await (w.estimateTransactionWith schedule sk level)
  let (signed, transaction) := w.signTransaction transaction key
  return (transaction, ← give signed)

/-- Builds, prices and signs a transfer, with the two requests of the pricing in turns as a schedule says. -/
def prepareTransferWith (schedule : List Side) : Script (Transaction × String) := do
  let (key, skeleton) ← w.draftTransfer env t
  w.finishTransfer schedule t.level key skeleton

/-- Carries out a transfer, with the two requests of its pricing in turns as a schedule says. -/
def transferWith (schedule : List Side) : Script Unit := do
  let (transaction, signed) ← w.prepareTransferWith env t schedule
  if t.dryRun then
    say transaction.describe.1
    say signed
  else w.submitTransfer t signed

theorem prepareTransfer_eq_prepareTransferWith :
    w.prepareTransfer env t = w.prepareTransferWith env t Client.bothInFlight := by
  unfold prepareTransfer prepareTransferWith draftTransfer
  cases Quantity.ofAnyBase? t.value with
  | none => rfl
  | some value =>
    simp only [bind_assoc, pure_bind, estimateTransaction_eq_estimateTransactionWith]
    rfl

/-- The wallet prices with both requests in flight. -/
theorem transfer_eq_transferWith : w.transfer env t = w.transferWith env t Client.bothInFlight := by
  unfold transfer transferWith
  rw [prepareTransfer_eq_prepareTransferWith]

/-- A draft asks for nothing but a nonce. -/
theorem prepares_draftTransfer : (w.draftTransfer env t).Prepares (· = "eth_getTransactionCount") := by
  unfold draftTransfer
  cases Quantity.ofAnyBase? t.value with
  | none => exact prepares_throw _
  | some value =>
    refine prepares_bind (prepares_give _) fun key => ?_
    refine prepares_bind (prepares_give _) fun signer => ?_
    refine prepares_bind (prepares_await (w.proceeds_getAccount _ _ _ _ rfl)) fun account => ?_
    exact prepares_bind (prepares_give _) fun skeleton => prepares_pure _

/-- What a draft comes to, once there is an estimate or none. -/
def finished (level : FeeLevel) (key : String) (sk : Skeleton) (outcome : Except WalletError Estimate) :
    Except CommandError (Transaction × String) :=
  match priced sk level outcome with
  | .error error => .error (.wallet error)
  | .ok transaction =>
    match w.signTransaction transaction key with
    | (.error error, _) => .error (.wallet error)
    | (.ok signed, transaction) => .ok (transaction, signed)

/-- A draft is finished by one estimation. -/
theorem perform_finishTransfer (schedule : List Side) (level : FeeLevel) (key : String) (sk : Skeleton) (node : Node)
    (lines : List String) (j : Journal) :
    (w.finishTransfer schedule level key sk).perform node lines j =
      ((w.finished level key sk ((w.client.estimateWith schedule sk.callObject).run.run node j).1, lines),
        ((w.client.estimateWith schedule sk.callObject).run.run node j).2) := by
  unfold finishTransfer finished
  rw [perform_bind, perform_await, run_estimateTransactionWith]
  generalize (w.client.estimateWith schedule sk.callObject).run.run node j = asked
  dsimp only
  cases priced sk level asked.1 with
  | error error => rfl
  | ok transaction =>
    dsimp only [Except.mapError]
    generalize w.signTransaction transaction key = result
    obtain ⟨signed, transaction⟩ := result
    cases signed <;> rfl

/-- A transfer fails with its draft, or its draft is finished by one estimation; until then the turns make no
difference. -/
theorem perform_prepareTransferWith (node : Node) :
    ∃ j : Journal, (∀ r ∈ j.requests, r.method = "eth_getTransactionCount") ∧
      ((∃ error, ∀ schedule, (w.prepareTransferWith env t schedule).perform node [] {} = ((.error error, []), j)) ∨
        ∃ key sk, ∀ schedule, (w.prepareTransferWith env t schedule).perform node [] {} =
          ((w.finished t.level key sk ((w.client.estimateWith schedule sk.callObject).run.run node j).1, []),
            ((w.client.estimateWith schedule sk.callObject).run.run node j).2)) := by
  obtain ⟨outcome, j, hdraft, hcourse⟩ := w.prepares_draftTransfer env t node [] {}
  obtain ⟨before, hbefore, hmethods⟩ := hcourse.requests
  have hrun (schedule : List Side) : (w.prepareTransferWith env t schedule).perform node [] {} = _ :=
    perform_bind node [] {} _ _
  simp only [hdraft] at hrun
  refine ⟨j, fun r hr => hmethods r (by rwa [hbefore] at hr), ?_⟩
  cases outcome with
  | error error => exact Or.inl ⟨error, hrun⟩
  | ok draft => exact Or.inr ⟨draft.1, draft.2, fun schedule => (hrun schedule).trans (perform_finishTransfer ..)⟩

/-- Up to its signature a transfer asks for a nonce, for gas and for fees. -/
theorem methods_prepareTransferWith (schedule : List Side) (node : Node) :
    ∀ r ∈ ((w.prepareTransferWith env t schedule).perform node [] {}).2.requests, r.method ∈ draftMethods := by
  obtain ⟨j, hbefore, ⟨error, hrun⟩ | ⟨key, sk, hrun⟩⟩ := w.perform_prepareTransferWith env t node
  · rw [hrun schedule]
    exact fun r hr => hbefore r hr ▸ List.mem_cons_self
  · rw [hrun schedule]
    exact w.client.methods_estimateWith hbefore schedule

variable {w}

/-- There is something to send when there was an estimate, and it is the text of an encoding. -/
theorem finished_eq_ok {level : FeeLevel} {key signed : String} {sk : Skeleton} {outcome : Except WalletError Estimate}
    {transaction : Transaction} (h : w.finished level key sk outcome = .ok (transaction, signed)) :
    (∃ estimate, outcome = .ok estimate) ∧ ∃ raw, signed = Hex.encode raw := by
  unfold finished at h
  constructor
  · cases outcome with
    | ok estimate => exact ⟨estimate, rfl⟩
    | error error => nomatch h
  · cases hpriced : priced sk level outcome with
    | error error => rw [hpriced] at h; nomatch h
    | ok transaction' =>
      rw [hpriced] at h
      dsimp only at h
      cases hsigned : w.signTransaction transaction' key with
      | mk result u =>
        rw [hsigned] at h
        cases result with
        | error error => nomatch h
        | ok text =>
          obtain ⟨-, -, -, raw, -, hraw⟩ := signTransaction_eq_ok.mp hsigned
          cases h
          exact ⟨raw, hraw.symm⟩

/-! ## Sending what was signed -/

/-- The text of an encoding carries its mark. -/
theorem marked_encode (raw : Bytes) : marked (Hex.encode raw) = Hex.encode raw := by
  unfold marked
  rw [if_pos]
  simp [Hex.encode, Hex.marked?]

theorem request_sendRawTransaction (raw : Bytes) :
    (Call.sendRawTransaction (Hex.encode raw)).request = .ok ⟨"eth_sendRawTransaction", [.text (Hex.encode raw)]⟩ := by
  have hparams : (Call.sendRawTransaction (Hex.encode raw)).params = Call.oneHex (Hex.encode raw) := rfl
  rw [Call.request, hparams, Call.oneHex, Argument.checkHex_encode]
  rfl

/-- The text of an encoding is sent in one request. -/
theorem run_sendTransaction_encode (raw : Bytes) (node : Node) (j : Journal) :
    ∃ outcome j', (w.sendTransaction (Hex.encode raw)).run.run node j = (outcome, j') ∧
      j'.requests = j.requests ++ [⟨"eth_sendRawTransaction", [.text (Hex.encode raw)]⟩] := by
  rw [sendTransaction_eq_report, Client.run_report_sendCall, marked_encode, request_sendRawTransaction]
  dsimp only
  rw [Client.run_report_send]
  exact ⟨_, _, rfl, Journal.requests_send ..⟩

/-- The text of an encoding is sent once, and after it only receipts are asked for. -/
theorem requests_submitTransfer (raw : Bytes) (node : Node) (lines : List String) (j : Journal) :
    ∃ lookups, ((w.submitTransfer t (Hex.encode raw)).perform node lines j).2.requests =
        j.requests ++ ⟨"eth_sendRawTransaction", [.text (Hex.encode raw)]⟩ :: lookups ∧
      ∀ r ∈ lookups, r.method = "eth_getTransactionReceipt" := by
  obtain ⟨outcome, j', hrun, hsent⟩ := run_sendTransaction_encode (w := w) raw node j
  unfold submitTransfer
  rw [perform_bind, perform_await, hrun]
  cases outcome with
  | error error => exact ⟨[], hsent, fun r hr => nomatch hr⟩
  | ok submission =>
    dsimp only [Except.mapError]
    rw [perform_bind, perform_say]
    dsimp only
    split
    · rename_i seconds hash _ _
      have hwatch : (w.waitForConfirmation hash seconds).Proceeds (· = "eth_getTransactionReceipt") :=
        w.proceeds_waitForConfirmation hash seconds rfl
      obtain ⟨lookups, hlookups, hmethods⟩ := (hwatch node j').requests
      refine ⟨lookups, ?_, hmethods⟩
      rw [perform_bind, perform_await]
      -- the status that a watch ends with is only printed
      generalize (w.waitForConfirmation hash seconds).run.run node j' = watched at hlookups
      obtain ⟨status, j''⟩ := watched
      rw [hsent, List.append_assoc] at hlookups
      cases status <;> exact hlookups
    · exact ⟨[], hsent, fun r hr => nomatch hr⟩

end Wallet

/-! ## Main statement -/

/-- What a transfer does over a node with these settings, with the two requests of its pricing in turns as a schedule
says: the lines that it prints, and why it fails if it does. -/
def Transfer.plan (t : Transfer) (schedule : List Side) (s : Settings) (env : Environment) :
    Exchange (List String × Option CommandError) :=
  ((Wallet.mk ⟨s.network⟩).transferWith env t schedule).outcome

namespace Transfer

variable {t : Transfer} {schedule : List Side} {s : Settings} {env : Environment} {node : Node} {j : Journal}

/-- A transfer that cannot be signed ends there. -/
theorem run_plan_of_error {error : CommandError}
    (h : ((Wallet.mk ⟨s.network⟩).prepareTransferWith env t schedule).perform node [] {} = ((.error error, []), j)) :
    (t.plan schedule s env).run node {} = (([], some error), j) := by
  unfold plan Wallet.transferWith
  rw [Script.run_outcome, Script.perform_bind, h]

/-- After the signature a dry run does nothing more with the node. -/
theorem journal_plan_of_dryRun (hdry : t.dryRun = true) :
    ((t.plan schedule s env).run node {}).2 =
      (((Wallet.mk ⟨s.network⟩).prepareTransferWith env t schedule).perform node [] {}).2 := by
  unfold plan Wallet.transferWith
  rw [Script.run_outcome, Script.perform_bind]
  generalize Script.perform _ node [] {} = prepared
  obtain ⟨⟨outcome, lines⟩, j⟩ := prepared
  cases outcome with
  | error error => rfl
  | ok signed =>
    dsimp only
    rw [if_pos hdry]
    rfl

/-- A dry run prints what is signed and does nothing else. -/
theorem run_plan_of_dryRun {transaction : Transaction} {signed : String} (hdry : t.dryRun = true)
    (h : ((Wallet.mk ⟨s.network⟩).prepareTransferWith env t schedule).perform node [] {} =
      ((.ok (transaction, signed), []), j)) :
    (t.plan schedule s env).run node {} = (([transaction.describe.1, signed], none), j) := by
  unfold plan Wallet.transferWith
  rw [Script.run_outcome, Script.perform_bind, h]
  dsimp only
  rw [if_pos hdry]
  rfl

/-- A transfer that is no dry run is sent once it is signed, and then only receipts are asked for. -/
theorem requests_plan {transaction : Transaction} {raw : Bytes} (hdry : t.dryRun = false)
    (h : ((Wallet.mk ⟨s.network⟩).prepareTransferWith env t schedule).perform node [] {} =
      ((.ok (transaction, Hex.encode raw), []), j)) :
    ∃ lookups, ((t.plan schedule s env).run node {}).2.requests =
        j.requests ++ ⟨"eth_sendRawTransaction", [.text (Hex.encode raw)]⟩ :: lookups ∧
      ∀ r ∈ lookups, r.method = "eth_getTransactionReceipt" := by
  obtain ⟨lookups, hlookups, hmethods⟩ := Wallet.requests_submitTransfer (w := ⟨⟨s.network⟩⟩) t raw node [] j
  refine ⟨lookups, ?_, hmethods⟩
  unfold plan Wallet.transferWith
  rw [Script.run_outcome, Script.perform_bind, h]
  dsimp only
  rw [if_neg (by simp [hdry]), ← hlookups]
  generalize Script.perform _ node [] j = submitted
  obtain ⟨⟨outcome, lines⟩, j'⟩ := submitted
  cases outcome <;> rfl

end Transfer

/-- A dry run that ended so foretells the transfer that ended so: the transfer fails before anything is submitted
exactly when the dry run fails, with the same error; or else it sends the requests of the dry run, those of the
pricing in their order or the other, then submits what the dry run prints, and then only asks for receipts. -/
structure Foretells (dry real : (List String × Option CommandError) × Journal) : Prop where
  fails : ∀ error, dry.1.2 = some error ↔
    real.1.2 = some error ∧ ∀ r ∈ real.2.requests, r.method ≠ "eth_sendRawTransaction"
  submits : dry.1.2.isSome ∨
    ∃ (shown signed : String) (object : Json) (before lookups : List Request) (order order' : List Side),
      dry.1 = ([shown, signed], none) ∧ dry.2.requests = before ++ order.map (Side.request object) ∧
        real.2.requests = before ++ order'.map (Side.request object) ++
          ⟨"eth_sendRawTransaction", [.text signed]⟩ :: lookups ∧
        order.Perm [.gas, .fees] ∧ order'.Perm [.gas, .fees] ∧ (∀ r ∈ before, r.method = "eth_getTransactionCount") ∧
        ∀ r ∈ lookups, r.method = "eth_getTransactionReceipt"

theorem foretells_of_error {dry real : (List String × Option CommandError) × Journal} {error : CommandError}
    (hdry : dry.1.2 = some error) (hreal : real.1.2 = some error)
    (hmethods : ∀ r ∈ real.2.requests, r.method ∈ draftMethods) :
    Foretells dry real where
  fails e := by
    rw [hdry, hreal]
    exact ⟨fun h => ⟨h, fun r hr => (ne_of_mem_draftMethods (hmethods r hr)).1⟩, And.left⟩
  submits := Or.inl (by rw [hdry]; rfl)

theorem foretells_of_signed {shown signed : String} {object : Json} {before lookups : List Request}
    {order order' : List Side} {j : Journal} {real : (List String × Option CommandError) × Journal}
    (hdry : j.requests = before ++ order.map (Side.request object))
    (hreal : real.2.requests =
      before ++ order'.map (Side.request object) ++ ⟨"eth_sendRawTransaction", [.text signed]⟩ :: lookups)
    (horder : order.Perm [.gas, .fees]) (horder' : order'.Perm [.gas, .fees])
    (hbefore : ∀ r ∈ before, r.method = "eth_getTransactionCount")
    (hlookups : ∀ r ∈ lookups, r.method = "eth_getTransactionReceipt") :
    Foretells (([shown, signed], none), j) real where
  fails error := by
    constructor
    · intro h
      nomatch h
    · rintro ⟨-, hmethods⟩
      exact absurd rfl (hmethods ⟨"eth_sendRawTransaction", [.text signed]⟩ (by simp [hreal]))
  submits := Or.inr ⟨shown, signed, object, before, lookups, order, order', rfl, hdry, hreal, horder,
    horder', hbefore, hlookups⟩

/-- Over a node that answers each method by itself, a dry run foretells the transfer, each with turns of its own. -/
theorem foretells_byMethod (s : Settings) (env : Environment) (t : Transfer) (schedule schedule' : List Side)
    (answer : List Request → Request → Reply) :
    Foretells ((({ t with dryRun := true } : Transfer).plan schedule s env).run (Node.byMethod answer) {})
      ((({ t with dryRun := false } : Transfer).plan schedule' s env).run (Node.byMethod answer) {}) := by
  obtain ⟨j, hbefore, ⟨error, hrun⟩ | ⟨key, sk, hrun⟩⟩ :=
    (Wallet.mk ⟨s.network⟩).perform_prepareTransferWith env t (Node.byMethod answer)
  · have hdry := Transfer.run_plan_of_error (t := { t with dryRun := true }) (hrun schedule)
    have hreal := Transfer.run_plan_of_error (t := { t with dryRun := false }) (hrun schedule')
    rw [hdry, hreal]
    exact foretells_of_error rfl rfl fun r hr => hbefore r hr ▸ List.mem_cons_self
  · have hdry := hrun schedule
    have hreal := hrun schedule'
    -- the estimate is one and the same, so both end alike up to the signature
    have hestimates := Client.run_estimateWith_byMethod ⟨s.network⟩ sk.callObject j schedule schedule' answer
    rw [← hestimates] at hreal
    cases hfinished : (Wallet.mk ⟨s.network⟩).finished t.level key sk
        ((Client.mk s.network).estimateWith schedule sk.callObject |>.run.run (Node.byMethod answer) j).1 with
    | error error =>
      rw [hfinished] at hdry hreal
      rw [Transfer.run_plan_of_error (t := { t with dryRun := true }) hdry,
        Transfer.run_plan_of_error (t := { t with dryRun := false }) hreal]
      exact foretells_of_error rfl rfl (Client.methods_estimateWith ⟨s.network⟩ hbefore schedule')
    | ok result =>
      obtain ⟨transaction, signed⟩ := result
      obtain ⟨⟨estimate, hestimate⟩, raw, rfl⟩ := Wallet.finished_eq_ok hfinished
      obtain ⟨order, hrequests, horder⟩ :=
        Client.requests_estimateWith ⟨s.network⟩ sk.callObject j schedule (Node.byMethod answer)
      obtain ⟨order', hrequests', horder'⟩ :=
        Client.requests_estimateWith ⟨s.network⟩ sk.callObject j schedule' (Node.byMethod answer)
      rw [hfinished] at hdry hreal
      obtain ⟨lookups, hlookups, hreceipts⟩ := Transfer.requests_plan (t := { t with dryRun := false }) rfl hreal
      rw [Transfer.run_plan_of_dryRun (t := { t with dryRun := true }) rfl hdry]
      refine foretells_of_signed hrequests (hrequests' ▸ hlookups) (horder estimate hestimate)
        (horder' estimate ?_) hbefore hreceipts
      rw [← hestimates, hestimate]

/-- Whatever the settings, the key, the transfer and the node, a dry run neither sends a transaction nor asks for a
receipt; and over a node that answers each method by itself it foretells the transfer, each of the two with the
requests of its pricing in turns of its own, of which those that the wallet takes are one choice. -/
theorem dryRun_foretells (s : Settings) (env : Environment) (t : Transfer) :
    (∀ i : Invocation, ({ i with command := .transfer t } : Invocation).run s env = t.plan Client.bothInFlight s env) ∧
      (∀ schedule node, ∀ r ∈ ((({ t with dryRun := true } : Transfer).plan schedule s env).run node {}).2.requests,
        r.method ≠ "eth_sendRawTransaction" ∧ r.method ≠ "eth_getTransactionReceipt") ∧
      ∀ schedule schedule' answer,
        Foretells ((({ t with dryRun := true } : Transfer).plan schedule s env).run (Node.byMethod answer) {})
          ((({ t with dryRun := false } : Transfer).plan schedule' s env).run (Node.byMethod answer) {}) := by
  refine ⟨fun i => ?_, fun schedule node r hr => ?_, foretells_byMethod s env t⟩
  · unfold Transfer.plan
    rw [← Wallet.transfer_eq_transferWith]
    rfl
  · rw [Transfer.journal_plan_of_dryRun rfl] at hr
    exact ne_of_mem_draftMethods (Wallet.methods_prepareTransferWith _ env _ schedule node r hr)

end DynamicFeeWallet
