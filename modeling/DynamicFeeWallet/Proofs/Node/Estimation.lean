import Mathlib.Data.List.Nodup
import DynamicFeeWallet.Node.Estimation
import DynamicFeeWallet.Proofs.Node.Reply

/-!
# Two legs in any order

The two legs of an estimation take turns as a schedule says. How far they are is told by a `Progress`: the sides that
have handed over their requests, and those that have taken in their replies, each in their order. One turn of a leg is
one turn of its side (`LegPair.run_advance`), and so it goes for a whole schedule (`LegPair.run_takeTurns`). Whatever
the schedule, each request goes out once, and the outcome depends on the two replies alone.
-/

namespace DynamicFeeWallet

/-! ## Progress -/

/-- The sides that have handed over their requests and those that have taken in their replies. -/
structure Progress where
  (handed taken : List Side)

namespace Progress

/-- A turn of one side. -/
def turn (p : Progress) (s : Side) : Progress :=
  if s ∈ p.taken then p
  else if s ∈ p.handed then { p with taken := p.taken ++ [s] }
  else { p with handed := p.handed ++ [s] }

/-- The turns of a schedule, and all that are left after it. -/
def turns (p : Progress) (schedule : List Side) : Progress :=
  (schedule ++ [Side.gas, .gas, .fees, .fees]).foldl turn p

/-- No side comes twice, and a reply is taken in after the request was handed over. -/
structure Sound (p : Progress) : Prop where
  handed : p.handed.Nodup
  taken : p.taken.Nodup
  subset : p.taken ⊆ p.handed

variable {p : Progress}

theorem Sound.start : Sound ⟨[], []⟩ := ⟨List.nodup_nil, List.nodup_nil, List.Subset.refl _⟩

theorem Sound.turn (h : p.Sound) (s : Side) : (p.turn s).Sound := by
  unfold Progress.turn
  split
  · exact h
  · rename_i htaken
    split
    · rename_i hhanded
      exact ⟨h.handed, by simpa using h.taken.concat htaken, List.append_subset.mpr ⟨h.subset, by simp [hhanded]⟩⟩
    · rename_i hhanded
      exact ⟨by simpa using h.handed.concat hhanded, h.taken, List.subset_append_of_subset_left _ h.subset⟩

theorem Sound.foldl (h : p.Sound) (schedule : List Side) : (schedule.foldl Progress.turn p).Sound := by
  induction schedule generalizing p with
  | nil => exact h
  | cons s schedule ih => exact ih (h.turn s)

/-- What was taken in stays so. -/
theorem mem_taken_turn {s : Side} (h : s ∈ p.taken) (s' : Side) : s ∈ (p.turn s').taken := by
  unfold turn
  split
  · exact h
  · split
    · exact List.mem_append_left _ h
    · exact h

/-- After two turns a side has taken in its reply. -/
theorem mem_taken_turn_turn (p : Progress) (s : Side) : s ∈ ((p.turn s).turn s).taken := by
  unfold turn
  by_cases htaken : s ∈ p.taken
  · simp [htaken]
  · by_cases hhanded : s ∈ p.handed <;> simp [htaken, hhanded]

/-- A list of sides that has both, each once. -/
theorem perm_of_nodup {order : List Side} (hnodup : order.Nodup) (h : ∀ s, s ∈ order) : order.Perm [.gas, .fees] := by
  refine (List.perm_ext_iff_of_nodup hnodup (by decide)).mpr fun s => ?_
  cases s <;> simp [h]

/-- In the end both sides have handed over their requests and taken in their replies. -/
theorem Sound.turns (h : p.Sound) (schedule : List Side) :
    (p.turns schedule).Sound ∧ (p.turns schedule).handed.Perm [.gas, .fees] ∧
      (p.turns schedule).taken.Perm [.gas, .fees] := by
  have hsound : (p.turns schedule).Sound := h.foldl _
  have htaken : ∀ s, s ∈ (p.turns schedule).taken := by
    intro s
    rw [Progress.turns, List.foldl_append]
    generalize schedule.foldl Progress.turn p = q
    cases s with
    | gas => exact mem_taken_turn (mem_taken_turn (mem_taken_turn_turn q .gas) .fees) .fees
    | fees => exact mem_taken_turn_turn ((q.turn .gas).turn .gas) .fees
  exact ⟨hsound, perm_of_nodup hsound.handed fun s => hsound.subset (htaken s), perm_of_nodup hsound.taken htaken⟩

end Progress

/-! ## Legs and journals -/

/-- The requests of two legs, the node they go to, and what happened before. -/
structure LegPair where
  (asked : Side → Request) (node : Node) (start : Journal)

/-- Two turns finish a leg. -/
theorem Leg.run_advance_advance (leg : Leg) (node : Node) (j : Journal) :
    (leg.advance >>= Leg.advance).run node j = (.settled (leg.finish.run node j).1, (leg.finish.run node j).2) := by
  cases leg with
  | waiting request => simp [Leg.advance, Leg.finish, Exchange.run_andThen, Exchange.run]
  | underway request ticket => simp [Leg.advance, Leg.finish, Exchange.run_andThen, Exchange.run]
  | settled outcome => rfl

namespace LegPair

variable (q : LegPair) (p : Progress)

/-- The reply to the request of a side, which the node gives knowing the requests before it. -/
def reply (order : List Side) (s : Side) : Reply :=
  q.node (q.start.requests ++ (order.take (order.idxOf s)).map q.asked) (q.asked s)

/-- How far the leg of a side is. -/
def leg (s : Side) : Leg :=
  if s ∈ p.taken then .settled ((q.reply p.handed s).document (q.asked s).method)
  else if s ∈ p.handed then .underway (q.asked s) (q.start.sent.length + p.handed.idxOf s)
  else .waiting (q.asked s)

/-- What happened so far. -/
def journal : Journal where
  sent := q.start.sent ++ p.handed.map fun s => ⟨q.asked s, q.start.clock⟩
  samples := q.start.samples ++ p.taken.flatMap fun s => (q.reply p.handed s).samples (q.asked s).method
  clock := q.start.clock

theorem requests_journal : (q.journal p).requests = q.start.requests ++ p.handed.map q.asked := by
  simp [Journal.requests, journal]

variable {q p}

/-- A reply stays what it is when more requests are handed over. -/
theorem reply_append {order : List Side} {s : Side} (h : s ∈ order) (more : List Side) :
    q.reply (order ++ more) s = q.reply order s := by
  have hlength : order.idxOf s ≤ order.length := List.idxOf_le_length
  rw [reply, reply, List.idxOf_append_of_mem h, List.take_append_of_le_length hlength]

/-- The ticket of a request that was handed over leads to its reply. -/
theorem reply_journal {s : Side} (h : s ∈ p.handed) :
    (q.journal p).reply q.node (q.start.sent.length + p.handed.idxOf s) = q.reply p.handed s := by
  have hplace : p.handed[p.handed.idxOf s]? = some s := List.getElem?_idxOf h
  unfold Journal.reply
  rw [requests_journal, ← Journal.length_requests, List.getElem?_append_right (by omega),
    Nat.add_sub_cancel_left, List.getElem?_map, hplace, List.take_length_add_append, ← List.map_take]
  rfl

/-- What is handed over stays so, with its reply. -/
theorem reply_turn {s : Side} (h : s ∈ p.handed) (s' : Side) :
    s ∈ (p.turn s').handed ∧ q.reply (p.turn s').handed s = q.reply p.handed s := by
  unfold Progress.turn
  split
  · exact ⟨h, rfl⟩
  · split
    · exact ⟨h, rfl⟩
    · exact ⟨List.mem_append_left _ h, reply_append h _⟩

/-- A turn of one side leaves the leg of the other as it is. -/
theorem leg_turn_of_ne (hp : p.Sound) {s s' : Side} (hne : s' ≠ s) : q.leg (p.turn s) s' = q.leg p s' := by
  unfold Progress.turn
  split
  · rfl
  · split
    · simp [leg, hne]
    · by_cases hhanded : s' ∈ p.handed
      · simp [leg, hhanded, reply_append hhanded, List.idxOf_append_of_mem hhanded]
      · have htaken : s' ∉ p.taken := fun h => hhanded (hp.subset h)
        simp [leg, hhanded, htaken, hne]

/-- One turn of a side advances its leg: its request is handed over first, and then its reply taken in. -/
theorem run_advance (hp : p.Sound) (s : Side) :
    (q.leg p s).advance.run q.node (q.journal p) = (q.leg (p.turn s) s, q.journal (p.turn s)) := by
  by_cases htaken : s ∈ p.taken
  · simp [leg, Progress.turn, htaken, Leg.advance, Exchange.run]
  by_cases hhanded : s ∈ p.handed
  · have hleg : q.leg p s = .underway (q.asked s)
        (q.start.sent.length + p.handed.idxOf s) := by simp [leg, htaken, hhanded]
    rw [hleg, Leg.advance, Exchange.run_bind, Client.run_receive, reply_journal hhanded]
    simp [leg, journal, Progress.turn, htaken, hhanded, Journal.count, Exchange.run]
  · have hleg : q.leg p s = .waiting (q.asked s) := by simp [leg, htaken, hhanded]
    -- the replies taken in before are those to requests before this one
    have hreplies : ∀ s' ∈ p.taken, (q.reply p.handed s').samples (q.asked s').method =
        (q.reply (p.handed ++ [s]) s').samples (q.asked s').method := fun s' h => by rw [reply_append (hp.subset h)]
    rw [hleg, Leg.advance, Exchange.run_bind]
    simp [leg, journal, Progress.turn, htaken, hhanded, Exchange.post, Exchange.run, List.idxOf_append_of_notMem hhanded,
      List.flatMap_congr hreplies]

/-- What a side comes to when its leg is finished at once. -/
theorem run_finish (hp : p.Sound) (s : Side) :
    (q.leg p s).finish.run q.node (q.journal p) =
      ((q.reply ((p.turn s).turn s).handed s).document (q.asked s).method, q.journal ((p.turn s).turn s)) := by
  have hturns : ((q.leg p s).advance >>= Leg.advance).run q.node (q.journal p) =
      (q.leg ((p.turn s).turn s) s, q.journal ((p.turn s).turn s)) := by
    rw [Exchange.run_bind, run_advance hp, run_advance (hp.turn s)]
  have hleg : q.leg ((p.turn s).turn s) s =
      .settled ((q.reply ((p.turn s).turn s).handed s).document (q.asked s).method) :=
    if_pos (Progress.mem_taken_turn_turn p s)
  rw [Leg.run_advance_advance, hleg] at hturns
  obtain ⟨houtcome, hjournal⟩ := Prod.mk.inj hturns
  exact Prod.ext (Leg.settled.inj houtcome) hjournal

/-- Whatever the schedule, each leg ends with the document of its reply. -/
theorem run_takeTurns (hp : p.Sound) (schedule : List Side) :
    (takeTurns schedule (q.leg p .gas) (q.leg p .fees)).run q.node (q.journal p) =
      (((q.reply (p.turns schedule).handed .gas).document (q.asked .gas).method,
        (q.reply (p.turns schedule).handed .fees).document (q.asked .fees).method), q.journal (p.turns schedule)) := by
  -- each turn leads from the legs and the journal of one progress to those of the next
  induction schedule generalizing p with
  | nil =>
    have hgas := (hp.turn .gas).turn .gas
    have hmem := hgas.subset (Progress.mem_taken_turn_turn p .gas)
    have hfees : q.leg p .fees = q.leg ((p.turn .gas).turn .gas) .fees := by
      rw [leg_turn_of_ne (hp.turn .gas) (by decide), leg_turn_of_ne hp (by decide)]
    obtain ⟨hmem', hreply⟩ := reply_turn (q := q) hmem .fees
    obtain ⟨-, hreply'⟩ := reply_turn (q := q) hmem' .fees
    rw [takeTurns, Exchange.run_bind, run_finish hp, hfees, Exchange.run_bind, run_finish hgas]
    simp [Exchange.run, Progress.turns, hreply, hreply']
  | cons s schedule ih =>
    have hturns : p.turns (s :: schedule) = (p.turn s).turns schedule := rfl
    cases s with
    | gas =>
      have hfees : q.leg (p.turn .gas) .fees = q.leg p .fees := leg_turn_of_ne hp (by decide)
      rw [takeTurns, Exchange.run_bind, run_advance hp, hturns, ← ih (hp.turn .gas), hfees]
    | fees =>
      have hgas : q.leg (p.turn .fees) .gas = q.leg p .gas := leg_turn_of_ne hp (by decide)
      rw [takeTurns, Exchange.run_bind, run_advance hp, hturns, ← ih (hp.turn .fees), hgas]

end LegPair

/-! ## What two replies come to -/

/-- The request of each leg of an estimation. -/
def Side.request (object : Json) : Side → Request
  | .gas => ⟨"eth_estimateGas", [object]⟩
  | .fees => ⟨"eth_feeHistory", [.text "0x5", .text "latest", .array [.natural 10, .natural 50, .natural 90]]⟩

/-- The document of the reply to one leg, or why the leg failed: there is no answer, it is no document, or the node
reports an error. -/
def Reply.leg (method : String) : Reply → Except NodeError Json
  | .error error => .error (.legFailed method (.transport error))
  | .ok text =>
    match Json.parse? text with
    | none => .error (.legFailed method (.unparseable method))
    | some document =>
      match document.get? "result", document.get? "error" with
      | none, some error => .error (.legReported method error)
      | _, _ => .ok document

/-- The estimate that two replies give: the failure of the gas leg comes first, that of the fee leg next, and then
that of a gas result that is no quantity. -/
def Estimate.ofReplies (gas fees : Reply) : Except NodeError Estimate :=
  match gas.leg "eth_estimateGas", fees.leg "eth_feeHistory" with
  | .error error, _ => .error error
  | .ok _, .error error => .error error
  | .ok document, .ok feeHistory =>
    match Quantity.ofJson? (document.getD "result") with
    | some gas => .ok ⟨gas, feeHistory⟩
    | none => .error (.badGasEstimate (document.getD "result"))

theorem settle_document (method : String) (reply : Reply) :
    settle method (reply.document method) = (reply.leg method).mapError .node := by
  unfold Reply.document Reply.leg settle
  cases reply with
  | error error => rfl
  | ok text =>
    dsimp only
    cases Json.parse? text with
    | none => rfl
    | some document =>
      dsimp only [Outcome.ofResponse]
      cases document.get? "result" <;> cases document.get? "error" <;> rfl

theorem Estimate.ofLegs_document (gas fees : Reply) :
    Estimate.ofLegs (gas.document "eth_estimateGas") (fees.document "eth_feeHistory") =
      (Estimate.ofReplies gas fees).mapError .node := by
  have hgas := settle_document "eth_estimateGas" gas
  have hfees := settle_document "eth_feeHistory" fees
  simp only [ofLegs, ofReplies, Call.method, hgas, hfees]
  cases gas.leg "eth_estimateGas" with
  | error error => rfl
  | ok document =>
    cases fees.leg "eth_feeHistory" with
    | error error => rfl
    | ok feeHistory =>
      dsimp only [Except.mapError]
      cases hgas : Quantity.ofJson? (document.getD "result") <;> simp [bind, Except.bind, hgas] <;> rfl

/-! ## Estimations -/

theorem request_estimateGas (object : Json) :
    (Call.estimateGas object).request = (Argument.checkCall object).map fun _ => Side.request object .gas := by
  have hparams : (Call.estimateGas object).params = Call.oneObject object := rfl
  rw [Call.request, hparams, Call.oneObject]
  cases Argument.checkCall object <;> rfl

theorem request_feeHistory (object : Json) :
    (Call.feeHistory Client.historyBlocks "latest" FeeLevel.percentiles).request = .ok (Side.request object .fees) := rfl

/-- Whether an estimation succeeded, if the observation is of one. -/
def Sample.succeeded? : Sample → Option Bool
  | .estimation succeeded => some succeeded
  | _ => none

/-- The estimations that were counted, and whether each succeeded. -/
def Journal.estimations (j : Journal) : List Bool := j.samples.filterMap Sample.succeeded?

/-- Both requests of an estimation were sent once, in some order, and each reply is what the node gives after the
requests before. -/
def Round (object : Json) (node : Node) (j j' : Journal) (reply : Side → Reply) : Prop :=
  ∃ order : List Side, order.Perm [.gas, .fees] ∧ j'.requests = j.requests ++ order.map (Side.request object) ∧
    ∀ s, reply s = node (j.requests ++ (order.take (order.idxOf s)).map (Side.request object)) (Side.request object s)

namespace Client

/-- Gives the estimate of two legs that have ended, and counts it. -/
def conclude (legs : Except SendError Json × Except SendError Json) : Attempt Estimate :=
  match Estimate.ofLegs legs.1 legs.2 with
  | .ok estimate => do
    Exchange.count (.estimation true)
    return estimate
  | .error error => do
    Exchange.count (.estimation false)
    throw error

/-- An estimation that was counted is decided by its two replies. -/
theorem run_conclude (gas fees : Reply) (node : Node) (j : Journal) :
    (conclude (gas.document "eth_estimateGas", fees.document "eth_feeHistory")).run.run node j =
      ((Estimate.ofReplies gas fees).mapError .node, j.count [.estimation (Estimate.ofReplies gas fees).isOk]) := by
  unfold conclude
  dsimp only
  rw [Estimate.ofLegs_document]
  cases Estimate.ofReplies gas fees <;> rfl

/-- When the call object is in order, both legs take turns until they have ended. -/
theorem estimateWith_eq_of_checkCall {object : Json} (h : Argument.checkCall object = .ok ())
    (client : Client) (schedule : List Side) :
    client.estimateWith schedule object =
      liftM (takeTurns schedule (.waiting (Side.request object .gas))
        (.waiting (Side.request object .fees))) >>= conclude := by
  unfold estimateWith prepare
  rw [request_estimateGas, request_feeHistory object, h]
  rfl

/-- An estimation is refused with its call object, or decided by its two replies and counted. -/
theorem run_estimateWith (client : Client) (schedule : List Side) (object : Json) (node : Node) (j : Journal) :
    (client.estimateWith schedule object).run.run node j =
      match Argument.checkCall object with
      | .error error => (.error (.argument error), j)
      | .ok () =>
        let q : LegPair := ⟨Side.request object, node, j⟩
        let p := (⟨[], []⟩ : Progress).turns schedule
        let outcome := Estimate.ofReplies (q.reply p.handed .gas) (q.reply p.handed .fees)
        (outcome.mapError .node, (q.journal p).count [.estimation outcome.isOk]) := by
  cases hcheck : Argument.checkCall object with
  | error error =>
    unfold estimateWith prepare
    rw [request_estimateGas, hcheck]
    rfl
  | ok checked =>
    have hturns := LegPair.run_takeTurns (q := ⟨Side.request object, node, j⟩) Progress.Sound.start schedule
    have hstart : (LegPair.mk (Side.request object) node j).journal ⟨[], []⟩ = j := by simp [LegPair.journal]
    rw [hstart] at hturns
    rw [estimateWith_eq_of_checkCall hcheck, Attempt.run_bind, Attempt.run_lift]
    dsimp only
    rw [← run_conclude]
    exact congrArg (fun x => (conclude x.1).run.run node x.2) hturns

end Client

namespace LegPair

variable {object : Json} {node : Node} {j : Journal}

/-- The requests of the two legs are those of a round. -/
theorem round_turns (schedule : List Side) (samples : List Sample) :
    let q : LegPair := ⟨Side.request object, node, j⟩
    let p := (⟨[], []⟩ : Progress).turns schedule
    Round object node j ((q.journal p).count samples) (q.reply p.handed) := by
  obtain ⟨-, hhanded, -⟩ := Progress.Sound.start.turns schedule
  exact ⟨_, hhanded, requests_journal .., fun _ => rfl⟩

/-- Taking in replies counts no estimation. -/
theorem estimations_journal (q : LegPair) (p : Progress) (succeeded : Bool) :
    ((q.journal p).count [.estimation succeeded]).estimations = q.start.estimations ++ [succeeded] := by
  have hnone (s : Side) : ((q.reply p.handed s).samples (q.asked s).method).filterMap Sample.succeeded? = [] := rfl
  simp [Journal.estimations, journal, List.filterMap_flatMap, hnone, Sample.succeeded?]

end LegPair

/-! ## Main statement -/

/-- Whatever the turns of the two legs, those of `Client.estimate` among them, an estimation is one function of the
two replies. A call object that is not in order is refused with the error of its check, and nothing happens; otherwise
both requests are sent once, one estimation is counted, and the outcome is that of `Estimate.ofReplies`. Where replies
depend on the requests alone, the turns make no difference. -/
theorem estimateWith_eq_ofReplies (client : Client) (object : Json) :
    (∀ schedule node j,
      match Argument.checkCall object with
      | .error error => (client.estimateWith schedule object).run.run node j = (.error (.argument error), j)
      | .ok () => ∃ reply outcome j',
          (client.estimateWith schedule object).run.run node j = (outcome.mapError .node, j') ∧
            Round object node j j' reply ∧ outcome = Estimate.ofReplies (reply .gas) (reply .fees) ∧
              j'.estimations = j.estimations ++ [outcome.isOk]) ∧
      ∀ schedule schedule' (answer : Request → Reply) j j',
        ((client.estimateWith schedule object).run.run (fun _ => answer) j).1 =
          ((client.estimateWith schedule' object).run.run (fun _ => answer) j').1 := by
  constructor
  · intro schedule node j
    rw [Client.run_estimateWith]
    cases Argument.checkCall object with
    | error error => rfl
    | ok checked => exact ⟨_, _, _, rfl, LegPair.round_turns schedule _, rfl, LegPair.estimations_journal _ _ _⟩
  · intro schedule schedule' answer j j'
    rw [Client.run_estimateWith, Client.run_estimateWith]
    cases Argument.checkCall object <;> rfl

/-- When neither request gets an answer, the failure of the gas leg is told. -/
example (error error' : TransportError) :
    Estimate.ofReplies (.error error) (.error error') = .error (.legFailed "eth_estimateGas" (.transport error)) := rfl

end DynamicFeeWallet
