import Mathlib.Data.List.Basic
import Mathlib.Data.List.Induction
import DynamicFeeWallet.Proofs.Node.Course
import DynamicFeeWallet.Proofs.Node.Estimation
import DynamicFeeWallet.Proofs.Node.Metrics

/-!
# The books of a run

What is counted of requests is, but for the order, what their replies call for (`Journal.Balanced`). Every step of a
course keeps that, and so does an estimation, whatever the turns of its two requests; beside requests an estimation
counts itself once, and a look at the health itself once (`Journal.Books`).
-/

namespace DynamicFeeWallet

/-! ## Answers -/

namespace Node

variable (node : Node) (past : List Request)

/-- The requests with the replies to them, each of which the node gives knowing the requests before. -/
def answers : List (Request × Reply) := past.mapIdx fun i r => (r, node (past.take i) r)

/-- One more request is answered after those before. -/
theorem answers_concat (r : Request) : node.answers (past ++ [r]) = node.answers past ++ [(r, node past r)] := by
  unfold answers
  rw [List.mapIdx_concat, List.take_left]
  congr 1
  refine List.mapIdx_eq_mapIdx_iff.mpr fun i hi => ?_
  rw [List.take_append_of_le_length (Nat.le_of_lt hi)]

theorem map_fst_answers : (node.answers past).map Prod.fst = past := by
  induction past using List.reverseRecOn with
  | nil => rfl
  | append_singleton past r ih =>
    rw [answers_concat, List.map_append, ih]
    rfl

/-- As many requests are answered as are sent, of whatever kind. -/
theorem countP_answers (p : Request → Bool) : ((node.answers past).countP fun a => p a.1) = past.countP p := by
  conv_rhs => rw [← node.map_fst_answers past, List.countP_map]
  rfl

end Node

/-- What is counted for requests with their replies. -/
def traffic (answers : List (Request × Reply)) : List Sample := answers.flatMap fun a => a.2.samples a.1.method

section

variable (answers : List (Request × Reply)) (method : String)

/-- Each request is timed once. -/
theorem count_latency_traffic :
    (traffic answers).count (.latency method) = answers.countP fun a => a.1.method = method := by
  induction answers with
  | nil => rfl
  | cons a answers ih =>
    have htraffic : traffic (a :: answers) = .latency a.1.method :: .request a.1.method a.2.outcome :: traffic answers :=
      rfl
    rw [htraffic, List.count_cons, List.count_cons, List.countP_cons, ih]
    simp

/-- Each request is counted once, with its outcome. -/
theorem count_request_traffic (outcome : RequestOutcome) :
    (traffic answers).count (.request method outcome) =
      answers.countP fun a => a.1.method = method ∧ a.2.outcome = outcome := by
  induction answers with
  | nil => rfl
  | cons a answers ih =>
    have htraffic : traffic (a :: answers) = .latency a.1.method :: .request a.1.method a.2.outcome :: traffic answers :=
      rfl
    rw [htraffic, List.count_cons, List.count_cons, List.countP_cons, ih]
    simp

/-- Every request has one of the four outcomes. -/
theorem countP_outcomes :
    (answers.countP fun a => a.1.method = method) =
      (answers.countP fun a => a.1.method = method ∧ a.2.outcome = .ok) +
        (answers.countP fun a => a.1.method = method ∧ a.2.outcome = .rpcError) +
        (answers.countP fun a => a.1.method = method ∧ a.2.outcome = .parseError) +
        (answers.countP fun a => a.1.method = method ∧ a.2.outcome = .transportError) := by
  induction answers with
  | nil => rfl
  | cons a answers ih =>
    simp only [List.countP_cons, ih]
    by_cases hmethod : a.1.method = method
    · cases houtcome : a.2.outcome <;> simp [hmethod] <;> omega
    · simp [hmethod]

end

/-- A request is counted as answered exactly when its reply is the text of a document that is a success. -/
theorem Reply.outcome_eq_ok {reply : Reply} :
    reply.outcome = .ok ↔
      ∃ text document result, reply = .ok text ∧ Json.parse? text = some document ∧
        Outcome.ofResponse document = .success result := by
  unfold Reply.outcome
  cases reply with
  | error error => simp
  | ok text =>
    cases hparse : Json.parse? text with
    | none => simp [hparse]
    | some document => cases houtcome : Outcome.ofResponse document <;> simp [hparse, houtcome]

/-! ## Balanced journals -/

/-- Whether the observation is of a request. -/
def Sample.isTraffic : Sample → Bool
  | .latency _ | .request .. => true
  | _ => false

namespace Journal

variable {node : Node} {j j' j'' : Journal}

/-- What was counted of requests. -/
def traffic (j : Journal) : List Sample := j.samples.filter Sample.isTraffic

/-- The looks at the health, and what they told. -/
def healths (j : Journal) : List Bool := j.samples.filterMap Sample.reachable?

/-- What was counted of requests is, but for the order, what the replies to them call for. -/
def Balanced (node : Node) (j : Journal) : Prop := j.traffic.Perm (DynamicFeeWallet.traffic (node.answers j.requests))

theorem balanced_empty : Balanced node {} := List.Perm.refl []

/-- When more requests were sent and what was counted of them is, but for the order, what their replies call for, the
balance stays. -/
theorem Balanced.grow {more : List (Request × Reply)} {samples : List Sample} (h : j.Balanced node)
    (hanswers : node.answers j'.requests = node.answers j.requests ++ more) (hsamples : j'.samples = j.samples ++ samples)
    (hcounted : (samples.filter Sample.isTraffic).Perm (DynamicFeeWallet.traffic more)) : j'.Balanced node := by
  unfold Balanced traffic
  rw [hanswers, hsamples, List.filter_append, DynamicFeeWallet.traffic, List.flatMap_append]
  exact h.append hcounted

/-- From one journal to another, what is counted of requests stays balanced, and beside it these estimations and these
looks at the health are counted. -/
structure Books (node : Node) (estimations healths : List Bool) (j j' : Journal) : Prop where
  balanced : j.Balanced node → j'.Balanced node
  estimations : j'.estimations = j.estimations ++ estimations
  healths : j'.healths = j.healths ++ healths

namespace Books

theorem refl (j : Journal) : Books node [] [] j j := ⟨id, (List.append_nil _).symm, (List.append_nil _).symm⟩

theorem trans {e e' h h' : List Bool} (hfirst : Books node e h j j') (hsecond : Books node e' h' j' j'') :
    Books node (e ++ e') (h ++ h') j j'' where
  balanced hj := hsecond.balanced (hfirst.balanced hj)
  estimations := by rw [hsecond.estimations, hfirst.estimations, List.append_assoc]
  healths := by rw [hsecond.healths, hfirst.healths, List.append_assoc]

/-- A request with its reply is booked. -/
theorem ask (j : Journal) (r : Request) :
    Books node [] [] j ((j.send r).count ((node j.requests r).samples r.method)) where
  balanced hj := by
    have hanswers : node.answers (j.send r).requests = node.answers j.requests ++ [(r, node j.requests r)] := by
      rw [requests_send, Node.answers_concat]
    exact hj.grow hanswers (samples_count ..) (List.Perm.refl _)
  estimations := List.filterMap_append ..
  healths := List.filterMap_append ..

/-- A look at the health is booked. -/
theorem health (j : Journal) (reachable : Bool) : Books node [] [reachable] j (j.count [.health reachable]) where
  balanced hj := hj.grow (List.append_nil _).symm (samples_count ..) (List.Perm.refl _)
  estimations := List.filterMap_append ..
  healths := List.filterMap_append ..

/-- Every step of a course is booked. -/
theorem of_course {P : String → Prop} (h : j.Course node P j') : Books node [] [] j j' := by
  induction h with
  | refl => exact refl j
  | tail _ hstep ih =>
    cases hstep with
    | ask r hr => exact ih.trans (ask _ r)
    | wait seconds => exact ⟨ih.balanced, ih.estimations, ih.healths⟩

end Books

end Journal

/-! ## Estimations -/

/-- An estimation that was asked for: its call object, and what came of it. -/
structure Inquiry where
  (object : Json) (outcome : Except WalletError Estimate)

namespace Inquiry

/-- There is an estimate. -/
def succeeded (i : Inquiry) : Bool := i.outcome.isOk

/-- There is none, and it is not for the call object, which is in order. -/
def failed (i : Inquiry) : Bool := !i.outcome.isOk && (Argument.checkCall i.object).isOk

/-- What is counted of it. -/
def counted (i : Inquiry) : List Bool := if i.succeeded then [true] else if i.failed then [false] else []

variable (inquiries : List Inquiry)

theorem count_true_counted : (inquiries.flatMap counted).count true = inquiries.countP succeeded := by
  induction inquiries with
  | nil => rfl
  | cons i inquiries ih =>
    rw [List.flatMap_cons, List.count_append, List.countP_cons, ih, counted, Nat.add_comm]
    cases i.succeeded <;> cases i.failed <;> rfl

theorem count_false_counted : (inquiries.flatMap counted).count false = inquiries.countP failed := by
  induction inquiries with
  | nil => rfl
  | cons i inquiries ih =>
    have hfailed (h : i.failed = true) : i.succeeded = false := Bool.not_eq_true' _ ▸ (Bool.and_eq_true_iff.mp h).1
    rw [List.flatMap_cons, List.count_append, List.countP_cons, ih, counted, Nat.add_comm]
    cases hi : i.failed with
    | true => rw [hfailed hi]; rfl
    | false => cases i.succeeded <;> rfl

end Inquiry

namespace LegPair

variable {q : LegPair}

/-- The requests that the sides hand over are answered by their replies. -/
theorem answers_handed {order : List Side} (h : order.Nodup) :
    q.node.answers (q.start.requests ++ order.map q.asked) =
      q.node.answers q.start.requests ++ order.map fun s => (q.asked s, q.reply order s) := by
  induction order using List.reverseRecOn with
  | nil => simp
  | append_singleton order s ih =>
    obtain ⟨hnodup, -, hnew⟩ := List.nodup_append.mp h
    have hlast : q.reply (order ++ [s]) s = q.node (q.start.requests ++ order.map q.asked) (q.asked s) := by
      have hplace : (order ++ [s]).idxOf s = order.length := by
        rw [List.idxOf_append_of_notMem fun hmem => hnew s hmem s List.mem_cons_self rfl]
        simp
      rw [reply, hplace, List.take_left]
    have hreplies : (order.map fun s' => (q.asked s', q.reply (order ++ [s]) s')) =
        order.map fun s' => (q.asked s', q.reply order s') :=
      List.map_congr_left fun s' hs' => by rw [reply_append hs']
    rw [List.map_append, List.map_append, ← List.append_assoc, List.map_singleton,
      Node.answers_concat, ih hnodup, hreplies, List.map_singleton, hlast, List.append_assoc]

/-- What two legs leave behind is booked, with the estimation. -/
theorem books_journal {p : Progress} (hp : p.Sound) (hall : p.taken.Perm p.handed) (succeeded : Bool) :
    Journal.Books q.node [succeeded] [] q.start ((q.journal p).count [.estimation succeeded]) where
  balanced hj := by
    have hanswers := answers_handed (q := q) hp.handed
    rw [← requests_journal] at hanswers
    refine hj.grow hanswers (List.append_assoc ..) ?_
    have htraffic (s : Side) : ((q.reply p.handed s).samples (q.asked s).method).filter Sample.isTraffic =
        (q.reply p.handed s).samples (q.asked s).method := rfl
    have hnone : [Sample.estimation succeeded].filter Sample.isTraffic = [] := rfl
    simpa only [traffic, List.flatMap_map, List.filter_append, List.filter_flatMap, htraffic, hnone,
      List.append_nil] using hall.flatMap_right _
  estimations := estimations_journal q p succeeded
  healths := by
    have hnone (s : Side) : ((q.reply p.handed s).samples (q.asked s).method).filterMap Sample.reachable? = [] := rfl
    simp [Journal.healths, journal, List.filterMap_flatMap, hnone, Sample.reachable?]

end LegPair

namespace Client

variable (client : Client) (node : Node) (j : Journal)

/-- An estimation that a client is asked for. -/
def inquire (schedule : List Side) (object : Json) : Inquiry :=
  ⟨object, ((client.estimateWith schedule object).run.run node j).1⟩

/-- An estimation is booked once, unless its call object is refused. -/
theorem books_estimateWith (schedule : List Side) (object : Json) :
    Journal.Books node (client.inquire node j schedule object).counted [] j
      ((client.estimateWith schedule object).run.run node j).2 := by
  unfold inquire
  rw [run_estimateWith]
  cases hcheck : Argument.checkCall object with
  | error error =>
    have hnone : Inquiry.counted ⟨object, .error (.argument error)⟩ = [] := by
      simp [Inquiry.counted, Inquiry.succeeded, Inquiry.failed, hcheck, Except.isOk, Except.toBool]
    dsimp only
    rw [hnone]
    exact .refl j
  | ok checked =>
    obtain ⟨hsound, hhanded, htaken⟩ := Progress.Sound.start.turns schedule
    dsimp only
    generalize Estimate.ofReplies _ _ = outcome
    have hcounted : Inquiry.counted ⟨object, outcome.mapError WalletError.node⟩ = [outcome.isOk] := by
      cases outcome <;> simp [Inquiry.counted, Inquiry.succeeded, Inquiry.failed, hcheck, Except.mapError,
        Except.isOk, Except.toBool]
    rw [hcounted]
    exact LegPair.books_journal (q := ⟨_, node, j⟩) hsound (htaken.trans hhanded.symm) outcome.isOk

/-- A look at the health is booked with its answer, beside its request. -/
theorem books_isHealthy :
    Journal.Books node [] [(client.isHealthy.run node j).1] j (client.isHealthy.run node j).2 := by
  have hproceeds : (client.ask .blockNumber).Proceeds (· = "eth_blockNumber") := client.proceeds_ask rfl
  have hask := Journal.Books.of_course (hproceeds node j)
  unfold isHealthy
  rw [Exchange.run_bind]
  exact hask.trans (.health _ _)

end Client

/-! ## What the series read -/

namespace Journal

variable {node : Node} {j : Journal}

/-- What the series of an observation reads. -/
def reading (j : Journal) (x : Sample) : Nat := Sample.reading j.samples x.series

/-- What is read of requests is what their replies call for. -/
theorem Balanced.reading_eq_count (h : j.Balanced node) {x : Sample} (hx : x.isTraffic) :
    j.reading x = (DynamicFeeWallet.traffic (node.answers j.requests)).count x := by
  have hseries : x.reachable? = none := by cases x <;> first | rfl | nomatch hx
  rw [reading, Sample.reading_eq_count _ hseries, ← h.count_eq, traffic, List.count_filter hx]

theorem Balanced.reading_latency (h : j.Balanced node) (method : String) :
    j.reading (.latency method) = (node.answers j.requests).countP fun a => a.1.method = method := by
  rw [h.reading_eq_count rfl, count_latency_traffic]

theorem Balanced.reading_request (h : j.Balanced node) (method : String) (outcome : RequestOutcome) :
    j.reading (.request method outcome) =
      (node.answers j.requests).countP fun a => a.1.method = method ∧ a.2.outcome = outcome := by
  rw [h.reading_eq_count rfl, count_request_traffic]

theorem reading_estimation (j : Journal) (succeeded : Bool) :
    j.reading (.estimation succeeded) = j.estimations.count succeeded := by
  have hseries : (Sample.estimation succeeded).reachable? = none := rfl
  rw [reading, Sample.reading_eq_count _ hseries, estimations, List.count_filterMap, List.count_eq_countP]
  refine List.countP_congr fun x _ => ?_
  cases x <;> simp [Sample.succeeded?]

end Journal

end DynamicFeeWallet
