import DynamicFeeWallet.Proofs.Node.Reply
import DynamicFeeWallet.Proofs.Request.Argument
import DynamicFeeWallet.Wallet.Basic
import Mathlib.Data.Nat.Find

/-!
# Waiting for a confirmation

A wait looks for the receipt at once and again at each tick of a clock, and ends with the first look that fails or
that finds a receipt, or when its time is up. A tick on the deadline comes first. So the looks are those at the
multiples of the pause up to the deadline, as far as they are pending: one more than the deadline holds pauses
(`waitForConfirmation_polls`).
-/

namespace DynamicFeeWallet

/-! ## The request for a receipt -/

/-- The request for the receipt of a transaction. -/
def receiptRequest (hash : String) : Request := ⟨"eth_getTransactionReceipt", [.text (marked hash)]⟩

/-- A mark in front changes nothing of what comes after it. -/
theorem unmarked_marked (text : String) : Hex.unmarked (marked text).toList = Hex.unmarked text.toList := by
  unfold marked
  split
  · rfl
  · rename_i h
    have hmarked : Hex.marked? ("0x" ++ text).toList = some text.toList := by
      rw [String.toList_append]
      rfl
    rw [Option.not_isSome_iff_eq_none] at h
    rw [Hex.unmarked, Hex.unmarked, hmarked, h]
    rfl

/-- A hash is one after a mark, too. -/
theorem IsHash.marked {hash : String} (h : IsHash hash) : IsHash (marked hash) := by
  rwa [isHash_iff, unmarked_marked, ← isHash_iff]

/-- A hash is asked for as it is, but for its mark. -/
theorem request_transactionReceipt {hash : String} (h : IsHash hash) :
    (Call.transactionReceipt (marked hash)).request = .ok (receiptRequest hash) := by
  have hparams : (Call.transactionReceipt (marked hash)).params = Call.oneHash (marked hash) := rfl
  rw [Call.request, hparams, Call.oneHash, Argument.checkHash_eq_ok.mpr h.marked]
  rfl

/-! ## The looks of a wait -/

/-- What is said of a transaction by the reply to the request for its receipt. -/
def Reply.status (reply : Reply) : Except WalletError ConfirmationStatus :=
  (reply.result "eth_getTransactionReceipt" fun error => .node (.reported error)).map Wallet.statusOf

/-- What the look after `k` others says, when the same is asked for each time. -/
def Node.look (node : Node) (past : List Request) (request : Request) (k : Nat) : Except WalletError ConfirmationStatus :=
  (node (past ++ List.replicate k request) request).status

/-- What comes of looking every `period` seconds up to a deadline: the outcome, the number of looks, and the seconds
that pass. -/
inductive Polls (look : Nat → Except WalletError ConfirmationStatus) (period deadline : Nat) :
    Except WalletError ConfirmationStatus → Nat → Nat → Prop where
  /-- Some looks are pending, and the next one, in time, is not. -/
  | decided {last : Nat} (hbefore : ∀ k < last, look k = .ok .pending) (htime : last * period ≤ deadline)
      (hlast : look last ≠ .ok .pending) : Polls look period deadline (look last) (last + 1) (last * period)
  /-- All looks that are in time are pending. -/
  | expired (h : ∀ k, k * period ≤ deadline → look k = .ok .pending) :
      Polls look period deadline (.ok .pending) (deadline / period + 1) deadline

namespace Polls

variable {look : Nat → Except WalletError ConfirmationStatus} {period deadline : Nat}

/-- The looks are all pending, or there is a first one that is not. -/
theorem exists_polls (look : Nat → Except WalletError ConfirmationStatus) (period deadline : Nat) :
    ∃ outcome looks elapsed, Polls look period deadline outcome looks elapsed := by
  classical
  by_cases h : ∃ k, k * period ≤ deadline ∧ look k ≠ .ok .pending
  · obtain ⟨htime, hlast⟩ := Nat.find_spec h
    refine ⟨_, _, _, .decided (fun k hk => ?_) htime hlast⟩
    have hsooner := Nat.find_min h hk
    rw [not_and_not_right] at hsooner
    exact hsooner (Nat.le_trans (Nat.mul_le_mul_right period (Nat.le_of_lt hk)) htime)
  · refine ⟨_, _, _, .expired fun k hk => ?_⟩
    by_contra hother
    exact h ⟨k, hk, hother⟩

variable {outcome : Except WalletError ConfirmationStatus} {looks elapsed : Nat}

/-- It comes out in one way only. -/
theorem unique {outcome' : Except WalletError ConfirmationStatus} {looks' elapsed' : Nat}
    (h : Polls look period deadline outcome looks elapsed) (h' : Polls look period deadline outcome' looks' elapsed') :
    outcome = outcome' ∧ looks = looks' ∧ elapsed = elapsed' := by
  cases h with
  | @decided last hbefore htime hlast =>
    cases h' with
    | @decided last' hbefore' htime' hlast' =>
      obtain hlt | rfl | hlt := Nat.lt_trichotomy last last'
      · exact absurd (hbefore' last hlt) hlast
      · exact ⟨rfl, rfl, rfl⟩
      · exact absurd (hbefore last' hlt) hlast'
    | expired h' => exact absurd (h' last htime) hlast
  | expired h =>
    cases h' with
    | decided hbefore' htime' hlast' => exact absurd (h _ htime') hlast'
    | expired => exact ⟨rfl, rfl, rfl⟩

/-- No look comes after the deadline. -/
theorem mul_le (h : Polls look period deadline outcome looks elapsed) {k : Nat} (hk : k < looks) :
    k * period ≤ deadline := by
  cases h with
  | decided hbefore htime hlast => exact Nat.le_trans (Nat.mul_le_mul_right period (Nat.le_of_lt_succ hk)) htime
  | expired h =>
    have hlast : k * period ≤ deadline / period * period := Nat.mul_le_mul_right period (Nat.le_of_lt_succ hk)
    exact Nat.le_trans hlast (Nat.div_mul_le_self deadline period)

/-- The outcome is pending when every look is that would be in time. -/
theorem outcome_eq_pending_iff (h : Polls look period deadline outcome looks elapsed) (hperiod : 0 < period) :
    outcome = .ok .pending ↔ ∀ k ≤ deadline / period, look k = .ok .pending := by
  simp only [Nat.le_div_iff_mul_le hperiod]
  cases h with
  | decided hbefore htime hlast => exact ⟨fun hpending => absurd hpending hlast, fun hall => absurd (hall _ htime) hlast⟩
  | expired h => exact ⟨fun _ => h, fun _ => rfl⟩

end Polls

/-! ## The journal of a wait -/

namespace Journal

variable (node : Node) (request : Request) (period : Nat) (j : Journal)

/-- After a look. -/
def looked : Journal := (j.send request).count ((node j.requests request).samples request.method)

/-- After some looks, each with the pause after it. -/
def polled : Nat → Journal
  | 0 => j
  | k + 1 => ((polled k).looked node request).wait period

theorem clock_polled (k : Nat) : (j.polled node request period k).clock = j.clock + k * period := by
  induction k with
  | zero => rw [Nat.zero_mul, Nat.add_zero]; rfl
  | succ k ih =>
    have hclock : (j.polled node request period (k + 1)).clock = (j.polled node request period k).clock + period := rfl
    rw [hclock, ih, Nat.succ_mul, Nat.add_assoc]

/-- The looks follow each other after a pause each. -/
theorem sent_polled (k : Nat) :
    (j.polled node request period k).sent = j.sent ++ (List.range k).map fun i => ⟨request, j.clock + i * period⟩ := by
  induction k with
  | zero => rw [List.range_zero, List.map_nil, List.append_nil]; rfl
  | succ k ih =>
    have hsent : (j.polled node request period (k + 1)).sent =
        (j.polled node request period k).sent ++ [⟨request, (j.polled node request period k).clock⟩] := rfl
    rw [hsent, ih, clock_polled, List.range_succ, List.map_append, List.append_assoc, List.map_singleton]

theorem requests_polled (k : Nat) :
    (j.polled node request period k).requests = j.requests ++ List.replicate k request := by
  have hrequests : Dispatch.request ∘ (fun i => ⟨request, j.clock + i * period⟩) = fun _ : Nat => request := rfl
  rw [requests, sent_polled, List.map_append, List.map_map, hrequests, List.map_const', List.length_range]
  rfl

end Journal

namespace Wallet

variable (w : Wallet) {hash : String} (node : Node) (j : Journal)

/-- A look asks for the receipt, and tells what the reply says. -/
theorem run_transactionStatus (h : IsHash hash) :
    (w.transactionStatus hash).run.run node j =
      ((node j.requests (receiptRequest hash)).status, j.looked node (receiptRequest hash)) := by
  unfold transactionStatus
  rw [Attempt.run_bind, Client.run_ask node j (request_transactionReceipt h)]
  have hstatus : (node j.requests (receiptRequest hash)).status =
      ((node j.requests (receiptRequest hash)).result (receiptRequest hash).method fun error =>
        .node (.reported error)).map statusOf := rfl
  rw [hstatus]
  cases (node j.requests (receiptRequest hash)).result (receiptRequest hash).method fun error =>
    .node (.reported error) <;> rfl

/-! ## The ticks of a wait -/

variable {w node j} {deadline tick : Nat} {look : Nat → Except WalletError ConfirmationStatus}
  {outcome : Except WalletError ConfirmationStatus} {looks elapsed : Nat}

/-- A pending look is followed by a pause and the next tick, or by the deadline. -/
theorem run_watch_of_pending (h : IsHash hash)
    (hpending : (node j.requests (receiptRequest hash)).status = .ok .pending) :
    (w.watch hash deadline tick).run.run node j =
      if tick + w.pollSeconds ≤ deadline then
        (w.watch hash deadline (tick + w.pollSeconds)).run.run node
          ((j.looked node (receiptRequest hash)).wait w.pollSeconds)
      else (.ok .pending, (j.looked node (receiptRequest hash)).wait (deadline - tick)) := by
  rw [watch.eq_def, Attempt.run_bind, w.run_transactionStatus node j h, hpending]
  dsimp only
  split
  · rw [Attempt.run_sleep_bind]
  · rw [Attempt.run_sleep_bind]
    rfl

/-- Any other look ends the wait. -/
theorem run_watch_of_ne_pending (h : IsHash hash)
    (hother : (node j.requests (receiptRequest hash)).status ≠ .ok .pending) :
    (w.watch hash deadline tick).run.run node j =
      ((node j.requests (receiptRequest hash)).status, j.looked node (receiptRequest hash)) := by
  rw [watch.eq_def, Attempt.run_bind, w.run_transactionStatus node j h]
  cases hstatus : (node j.requests (receiptRequest hash)).status with
  | error error => rfl
  | ok status =>
    cases status with
    | pending => exact absurd hstatus hother
    | confirmed blockNumber => rfl
    | rejected reason => rfl

/-- The wait goes on over looks that are pending and in time. -/
theorem run_watch_polled (h : IsHash hash) {n : Nat}
    (hpending : ∀ k < n, node.look j.requests (receiptRequest hash) k = .ok .pending)
    (htime : n * w.pollSeconds ≤ deadline) :
    (w.watch hash deadline 0).run.run node j =
      (w.watch hash deadline (n * w.pollSeconds)).run.run node (j.polled node (receiptRequest hash) w.pollSeconds n) := by
  induction n with
  | zero =>
    rw [Nat.zero_mul]
    rfl
  | succ n ih =>
    rw [Nat.succ_mul] at htime
    have hlast := hpending n (Nat.lt_succ_self n)
    rw [Node.look, ← Journal.requests_polled node _ w.pollSeconds] at hlast
    rw [ih (fun k hk => hpending k (Nat.lt_succ_of_lt hk)) (by omega), run_watch_of_pending h hlast,
      if_pos htime, ← Nat.succ_mul]
    rfl

/-- What comes of the looks comes of the wait: the same outcome after as many looks and as much time. -/
theorem run_watch_of_polls (h : IsHash hash)
    (hpolls : Polls (node.look j.requests (receiptRequest hash)) w.pollSeconds deadline outcome looks elapsed) :
    ∃ j', (w.watch hash deadline 0).run.run node j = (outcome, j') ∧
      j'.sent = j.sent ++ ((List.range looks).map fun k => ⟨receiptRequest hash, j.clock + k * w.pollSeconds⟩) ∧
      j'.clock = j.clock + elapsed := by
  cases hpolls with
  | @decided last hbefore htime hlast =>
    rw [Node.look, ← Journal.requests_polled node _ w.pollSeconds] at hlast ⊢
    refine ⟨_, (run_watch_polled h hbefore htime).trans (run_watch_of_ne_pending h hlast), ?_, ?_⟩
    · exact j.sent_polled node _ w.pollSeconds (last + 1)
    · exact j.clock_polled node _ w.pollSeconds last
  | expired hpending =>
    have hpos := w.pollSeconds_pos
    have htime : deadline / w.pollSeconds * w.pollSeconds ≤ deadline := Nat.div_mul_le_self _ _
    have hlate : ¬deadline / w.pollSeconds * w.pollSeconds + w.pollSeconds ≤ deadline :=
      Nat.not_le.mpr (Nat.lt_div_mul_add hpos)
    have hlast := hpending _ htime
    rw [Node.look, ← Journal.requests_polled node _ w.pollSeconds] at hlast
    have hbefore : ∀ k < deadline / w.pollSeconds, node.look j.requests (receiptRequest hash) k = .ok .pending :=
      fun k hk => hpending k (Nat.le_trans (Nat.mul_le_mul_right _ (Nat.le_of_lt hk)) htime)
    have hrun := (run_watch_polled h hbefore htime).trans (run_watch_of_pending h hlast)
    rw [if_neg hlate] at hrun
    refine ⟨_, hrun, ?_, ?_⟩
    · exact j.sent_polled node _ w.pollSeconds (deadline / w.pollSeconds + 1)
    · change (j.polled node (receiptRequest hash) w.pollSeconds (deadline / w.pollSeconds)).clock +
        (deadline - deadline / w.pollSeconds * w.pollSeconds) = j.clock + deadline
      rw [Journal.clock_polled]
      omega

/-! ## Main statement -/

/-- A wait for the confirmation of a hash looks for its receipt at the start and after each pause, as long as the
looks are pending and no later than the timeout, and sends nothing else; the pause is what is configured, and at least
a second. It ends with the first look that is not pending, and says just what that look says. It ends without an
answer, when the time is up, exactly when every look is pending that would be in time. -/
theorem waitForConfirmation_polls (w : Wallet) {hash : String} (h : IsHash hash) (timeoutSecs : UInt64)
    (node : Node) (j : Journal) {period : Nat} (hperiod : period = max 1 w.client.settings.confirmationPollSecs.toNat) :
    ∃ outcome looks elapsed j', (w.waitForConfirmation hash timeoutSecs).run.run node j = (outcome, j') ∧
      Polls (node.look j.requests (receiptRequest hash)) period timeoutSecs.toNat outcome looks elapsed ∧
      j'.sent = j.sent ++ ((List.range looks).map fun k => ⟨receiptRequest hash, j.clock + k * period⟩) ∧
      (∀ k < looks, k * period ≤ timeoutSecs.toNat) ∧ j'.clock = j.clock + elapsed ∧
      (outcome = .ok .pending ↔
        ∀ k < timeoutSecs.toNat / period + 1, node.look j.requests (receiptRequest hash) k = .ok .pending) := by
  obtain rfl : period = w.pollSeconds := hperiod.trans (Nat.max_comm _ _)
  obtain ⟨outcome, looks, elapsed, hpolls⟩ :=
    Polls.exists_polls (node.look j.requests (receiptRequest hash)) w.pollSeconds timeoutSecs.toNat
  obtain ⟨j', hrun, hsent, hclock⟩ := run_watch_of_polls h hpolls
  simp only [Nat.lt_succ_iff]
  exact ⟨outcome, looks, elapsed, j', hrun, hpolls, hsent, fun _ => hpolls.mul_le, hclock,
    hpolls.outcome_eq_pending_iff w.pollSeconds_pos⟩

/-- A node that knows nothing of a receipt at first and again, and is gone when it is asked a third time. -/
def tiringNode : Node := fun past _ => if past.length < 2 then .ok "\x7b\x7d" else .error (.exhausted 1)

/-- Of a node that tires, looks in time come out in this way only. -/
theorem polls_tiringNode {request : Request} {period deadline looks elapsed : Nat} (htime : 2 * period ≤ deadline)
    {outcome : Except WalletError ConfirmationStatus}
    (hpolls : Polls (Node.look tiringNode [] request) period deadline outcome looks elapsed) :
    outcome = .error (.transport (.exhausted 1)) ∧ looks = 3 ∧ elapsed = 2 * period := by
  have hpending : ∀ k < 2, Node.look tiringNode [] request k = .ok .pending := by
    intro k hk
    obtain rfl | rfl : k = 0 ∨ k = 1 := by omega
    · rfl
    · rfl
  exact hpolls.unique (.decided hpending htime nofun)

/-- A wait of six seconds, with a pause of three configured, looks three times, the last time on the deadline. With no
pause configured, a wait of two seconds does. -/
theorem waitForConfirmation_polls_to_the_end :
    (∃ (w : Wallet) (hash : String) (j' : Journal), w.client.settings.confirmationPollSecs = 3 ∧ IsHash hash ∧
      (w.waitForConfirmation hash 6).run.run tiringNode {} = (.error (.transport (.exhausted 1)), j') ∧
      j'.sent = [⟨receiptRequest hash, 0⟩, ⟨receiptRequest hash, 3⟩, ⟨receiptRequest hash, 6⟩] ∧ j'.clock = 6) ∧
    ∃ (w : Wallet) (hash : String) (j' : Journal), w.client.settings.confirmationPollSecs = 0 ∧ IsHash hash ∧
      (w.waitForConfirmation hash 2).run.run tiringNode {} = (.error (.transport (.exhausted 1)), j') ∧
      j'.sent = [⟨receiptRequest hash, 0⟩, ⟨receiptRequest hash, 1⟩, ⟨receiptRequest hash, 2⟩] ∧ j'.clock = 2 := by
  have hhash := isHash_toHex (FixedBytes.replicate 32 0)
  constructor
  · have hperiod : 3 = max 1 (3 : UInt64).toNat := rfl
    obtain ⟨outcome, looks, elapsed, j', hrun, hpolls, hsent, -, hclock, -⟩ :=
      waitForConfirmation_polls ⟨⟨{ confirmationPollSecs := 3 }⟩⟩ hhash 6 tiringNode {} hperiod
    obtain ⟨rfl, rfl, rfl⟩ := polls_tiringNode (by decide) hpolls
    exact ⟨_, _, j', rfl, hhash, hrun, hsent, hclock⟩
  · have hperiod : 1 = max 1 (0 : UInt64).toNat := rfl
    obtain ⟨outcome, looks, elapsed, j', hrun, hpolls, hsent, -, hclock, -⟩ :=
      waitForConfirmation_polls ⟨⟨{ confirmationPollSecs := 0 }⟩⟩ hhash 2 tiringNode {} hperiod
    obtain ⟨rfl, rfl, rfl⟩ := polls_tiringNode (by decide) hpolls
    exact ⟨_, _, j', rfl, hhash, hrun, hsent, hclock⟩

end Wallet

end DynamicFeeWallet
