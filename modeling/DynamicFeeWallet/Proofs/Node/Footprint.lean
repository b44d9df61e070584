import DynamicFeeWallet.Proofs.Node.Estimation

/-!
# What attempts leave behind

An attempt is put together of checks that send nothing (`Footprint.offline`), of requests (`Footprint.sends`), and of
what is made of their replies, which is no longer refused for a local cause (`Footprint.online`). How these go
together is said once (`Attempt.Leaves.bind`), and so it can be told of a failure whether anything was sent before it
(`Footprint.truthful`).
-/

namespace DynamicFeeWallet

/-! ## Causes -/

/-- The kinds of failures that lie with arguments, settings, transactions and keys. -/
def localKinds : List ErrorKind := [.validation, .build, .sign, .configuration, .unsigned]

/-- A local cause does not lie with the node. -/
theorem ne_protocol_of_mem_localKinds {kind : ErrorKind} (h : kind ∈ localKinds) : kind ≠ .protocol := by
  rintro rfl
  exact absurd h (by decide)

/-- A failure has a local cause. -/
def OnlyLocal {α : Type} : Except WalletError α → Prop
  | .ok _ => True
  | .error error => error.kind ∈ localKinds

/-- A failure has no local cause. -/
def NeverLocal {α : Type} : Except WalletError α → Prop
  | .ok _ => True
  | .error error => error.kind ∉ localKinds

section

variable {α β ε : Type} {outcome : Except WalletError α}

/-- Two parts that fail for local causes alone do so one after the other. -/
theorem OnlyLocal.bind {f : α → Except WalletError β} (h : OnlyLocal outcome) (hf : ∀ a, OnlyLocal (f a)) :
    OnlyLocal (outcome >>= f) := by
  cases outcome with
  | ok a => exact hf a
  | error error => exact h

/-- What is made of a result adds no cause of failure. -/
theorem OnlyLocal.map (h : OnlyLocal outcome) (f : α → β) : OnlyLocal (outcome.map f) := by
  cases outcome with
  | ok a => trivial
  | error error => exact h

/-- An error that is given a local cause has one. -/
theorem onlyLocal_mapError {cause : ε → WalletError} (h : ∀ error, (cause error).kind ∈ localKinds) (found : Except ε α) :
    OnlyLocal (found.mapError cause) := by
  cases found with
  | ok a => trivial
  | error error => exact h error

end

/-- Something more was sent. -/
def Journal.SentMore (j j' : Journal) : Prop := ∃ first rest, j'.sent = j.sent ++ first :: rest

namespace Journal.SentMore

variable {j j' j'' : Journal}

/-- What comes afterwards takes nothing back. -/
theorem grow (h : j.SentMore j') (h' : j'.sent <+: j''.sent) : j.SentMore j'' := by
  obtain ⟨first, rest, hsent⟩ := h
  obtain ⟨more, hmore⟩ := h'
  exact ⟨first, rest ++ more, by rw [← hmore, hsent, List.append_assoc, List.cons_append]⟩

/-- What comes before without sending makes no difference. -/
theorem of_eq (h : j'.sent = j.sent) (h' : j'.SentMore j'') : j.SentMore j'' := by
  obtain ⟨first, rest, hsent⟩ := h'
  exact ⟨first, rest, by rw [hsent, h]⟩

end Journal.SentMore

/-! ## What an attempt leaves -/

/-- What may come of an attempt: its outcome and the journal after it, by the journal before. -/
def Footprint (α : Type) := Journal → Except WalletError α → Journal → Prop

namespace Footprint

variable {α : Type}

/-- Nothing is sent, and a failure has a local cause. -/
def offline : Footprint α := fun j outcome j' => j'.sent = j.sent ∧ OnlyLocal outcome

/-- What was sent stays so, and a failure has no local cause. -/
def online : Footprint α := fun j outcome j' => j.sent <+: j'.sent ∧ NeverLocal outcome

/-- Something is sent, and a failure has no local cause. -/
def sends : Footprint α := fun j outcome j' => j.SentMore j' ∧ NeverLocal outcome

/-- Something is sent, unless there is a failure with a local cause; then nothing is. -/
def asks : Footprint α
  | j, .ok _, j' => j.SentMore j'
  | j, .error error, j' => error.kind ∈ localKinds ∧ j'.sent = j.sent ∨ error.kind ∉ localKinds ∧ j.SentMore j'

/-- A failure with a local cause comes before anything is sent, and one put on the node comes after something was. -/
def truthful : Footprint α
  | _, .ok _, _ => True
  | j, .error error, j' => (error.kind ∈ localKinds → j'.sent = j.sent) ∧ (error.kind = .protocol → j.SentMore j')

end Footprint

namespace Attempt

open Footprint

variable {α β : Type}

/-- Whatever the node does, this comes of the attempt. -/
structure Leaves (x : Attempt α) (R : Footprint α) : Prop where
  run : ∀ node j, R j (x.run.run node j).1 (x.run.run node j).2

variable {x : Attempt α} {f : α → Attempt β}

/-- What comes of an attempt may be said in weaker terms. -/
theorem Leaves.mono {P R : Footprint α} (h : x.Leaves P) (himp : ∀ {j outcome j'}, P j outcome j' → R j outcome j') :
    x.Leaves R :=
  ⟨fun node j => himp (h.run node j)⟩

/-- What comes of two parts of an attempt is what comes of the second one after the first, or of the first one alone
if it fails. -/
theorem Leaves.bind {P : Footprint α} {Q R : Footprint β} (hx : x.Leaves P) (hf : ∀ a, (f a).Leaves Q)
    (hok : ∀ {j a j' outcome j''}, P j (.ok a) j' → Q j' outcome j'' → R j outcome j'')
    (herror : ∀ {j error j'}, P j (.error error) j' → R j (.error error) j') : (x >>= f).Leaves R := by
  refine ⟨fun node j => ?_⟩
  have hfirst := hx.run node j
  rw [run_bind]
  generalize x.run.run node j = first at hfirst
  obtain ⟨outcome, j'⟩ := first
  cases outcome with
  | ok a => exact hok hfirst ((hf a).run node j')
  | error error => exact herror hfirst

theorem online_of_sends (h : x.Leaves sends) : x.Leaves online := by
  refine h.mono fun ⟨⟨first, rest, hsent⟩, hnever⟩ => ?_
  exact ⟨hsent ▸ List.prefix_append _ _, hnever⟩

/-- An attempt that sends asks. -/
theorem asks_of_sends (h : x.Leaves sends) : x.Leaves asks := by
  refine h.mono fun {j outcome j'} ⟨hmore, hnever⟩ => ?_
  cases outcome with
  | ok a => exact hmore
  | error error => exact Or.inr ⟨hnever, hmore⟩

/-- Where nothing is sent, no failure is put on the node, and each tells so. -/
theorem truthful_of_offline (h : x.Leaves offline) : x.Leaves truthful := by
  refine h.mono fun {j outcome j'} ⟨hsent, hlocal⟩ => ?_
  cases outcome with
  | ok a => trivial
  | error error => exact ⟨fun _ => hsent, fun hprotocol => absurd hprotocol (ne_protocol_of_mem_localKinds hlocal)⟩

/-- Where something is sent unless there is a local cause, every failure tells which it was. -/
theorem truthful_of_asks (h : x.Leaves asks) : x.Leaves truthful := by
  refine h.mono fun {j outcome j'} hasks => ?_
  cases outcome with
  | ok a => trivial
  | error error =>
    rcases hasks with ⟨hlocal, hsent⟩ | ⟨hnever, hmore⟩
    · exact ⟨fun _ => hsent, fun hprotocol => absurd hprotocol (ne_protocol_of_mem_localKinds hlocal)⟩
    · exact ⟨fun hlocal => absurd hlocal hnever, fun _ => hmore⟩

/-! ## Parts put together -/

theorem online_pure (a : α) : (pure a : Attempt α).Leaves online := ⟨fun _ _ => ⟨List.prefix_refl _, trivial⟩⟩

/-- A failure that has no local cause may come at any time. -/
theorem online_throw {error : WalletError} (h : error.kind ∉ localKinds) : (throw error : Attempt α).Leaves online :=
  ⟨fun _ _ => ⟨List.prefix_refl _, h⟩⟩

/-- Waiting sends nothing. -/
theorem online_sleep (seconds : Nat) : (liftM (Exchange.sleep seconds) : Attempt Unit).Leaves online :=
  ⟨fun _ _ => ⟨List.prefix_refl _, trivial⟩⟩

theorem offline_pure (a : α) : (pure a : Attempt α).Leaves offline := ⟨fun _ _ => ⟨rfl, trivial⟩⟩

/-- A failure that has a local cause may come before anything is sent. -/
theorem offline_throw {error : WalletError} (h : error.kind ∈ localKinds) : (throw error : Attempt α).Leaves offline :=
  ⟨fun _ _ => ⟨rfl, h⟩⟩

/-- An outcome that needs no node, as an attempt. -/
def ofOutcome (outcome : Except WalletError α) : Attempt α := ExceptT.mk (pure outcome)

/-- An outcome that needs no node sends nothing. -/
theorem offline_ofOutcome {outcome : Except WalletError α} (h : OnlyLocal outcome) : (ofOutcome outcome).Leaves offline :=
  ⟨fun _ _ => ⟨rfl, h⟩⟩

/-- Two parts that are not refused for a local cause are not, one after the other. -/
theorem online_bind (hx : x.Leaves online) (hf : ∀ a, (f a).Leaves online) : (x >>= f).Leaves online :=
  hx.bind hf (fun h h' => ⟨h.1.trans h'.1, h'.2⟩) (fun h => h)

/-- What was sent is not refused for a local cause afterwards. -/
theorem sends_bind (hx : x.Leaves sends) (hf : ∀ a, (f a).Leaves online) : (x >>= f).Leaves sends :=
  hx.bind hf (fun h h' => ⟨h.1.grow h'.1, h'.2⟩) (fun h => h)

/-- What was asked is not refused for a local cause afterwards. -/
theorem asks_bind (hx : x.Leaves asks) (hf : ∀ a, (f a).Leaves online) : (x >>= f).Leaves asks := by
  refine hx.bind hf (fun {j a j' outcome j''} hmore h' => ?_) (fun h => h)
  have hmore' := Journal.SentMore.grow hmore h'.1
  cases outcome with
  | ok b => exact hmore'
  | error error => exact Or.inr ⟨h'.2, hmore'⟩

/-- After a check that sends nothing, what is asked is asked as before. -/
theorem asks_bind_of_offline (hx : x.Leaves offline) (hf : ∀ a, (f a).Leaves asks) : (x >>= f).Leaves asks := by
  refine hx.bind hf (fun {j a j' outcome j''} hquiet h' => ?_) (fun h => Or.inl ⟨h.2, h.1⟩)
  cases outcome with
  | ok b => exact .of_eq hquiet.1 h'
  | error error =>
    rcases h' with ⟨hlocal, hsent⟩ | ⟨hnever, hmore⟩
    · exact Or.inl ⟨hlocal, hsent.trans hquiet.1⟩
    · exact Or.inr ⟨hnever, .of_eq hquiet.1 hmore⟩

/-- After a check that sends nothing, failures tell the same as before. -/
theorem truthful_bind_of_offline (hx : x.Leaves offline) (hf : ∀ a, (f a).Leaves truthful) :
    (x >>= f).Leaves truthful := by
  refine hx.bind hf (fun {j a j' outcome j''} hquiet h' => ?_) (fun {j error j'} h => ?_)
  · cases outcome with
    | ok b => trivial
    | error error => exact ⟨fun hlocal => (h'.1 hlocal).trans hquiet.1, fun hprotocol => .of_eq hquiet.1 (h'.2 hprotocol)⟩
  · exact ⟨fun _ => h.1, fun hprotocol => absurd hprotocol (ne_protocol_of_mem_localKinds h.2)⟩

/-- A condition with a local cause is checked first. -/
theorem truthful_unless {refused : Prop} [Decidable refused] {error : WalletError} (h : error.kind ∈ localKinds)
    {rest : Unit → Attempt α} (hrest : (rest ()).Leaves truthful) :
    Leaves (if refused then throw error >>= rest else rest ()) truthful := by
  split
  · exact truthful_bind_of_offline (offline_throw h) fun _ => hrest
  · exact hrest

end Attempt

open Attempt

/-! ## Requests -/

namespace Client

variable (client : Client)

/-- A call whose arguments are refused sends nothing. -/
theorem offline_prepare (call : Call) : (prepare call).Leaves .offline := by
  unfold prepare
  cases call.request with
  | ok request => exact ⟨fun _ _ => ⟨rfl, trivial⟩⟩
  | error error => exact offline_throw List.mem_cons_self

/-- A request that is sent off is sent, whatever comes of it. -/
theorem sends_send (request : Request) : (client.send request).Leaves .sends := by
  refine ⟨fun node j => ?_⟩
  rw [run_send]
  refine ⟨⟨⟨request, j.clock⟩, [], rfl⟩, ?_⟩
  cases (node j.requests request).document request.method with
  | ok document => trivial
  | error error =>
    intro hlocal
    exact ne_protocol_of_mem_localKinds hlocal (Reply.kind_ofSend error)

/-- What is made of a response document has no local cause, if a refusal of the node has none. -/
theorem online_verdict {α : Type} (submit : Json → α) {refused : Json → WalletError}
    (hrefused : ∀ error, (refused error).kind = .protocol) (document : Json) :
    (match Outcome.ofResponse document with
      | .success result => return submit result
      | .failure error => throw (refused error) : Attempt α).Leaves .online := by
  cases Outcome.ofResponse document with
  | success result => exact online_pure _
  | failure error => exact online_throw fun hlocal => ne_protocol_of_mem_localKinds hlocal (hrefused error)

/-- A request for a result is sent, and that the node refuses it is no local cause. -/
theorem sends_call (request : Request) : (client.call request).Leaves .sends :=
  sends_bind (client.sends_send request) (online_verdict id fun _ => rfl)

/-- A call is refused for its arguments, or sent. -/
theorem asks_sendCall (call : Call) : (client.sendCall call).Leaves .asks :=
  asks_bind_of_offline (offline_prepare call) fun request => asks_of_sends (client.sends_send request)

/-- A call for its result is refused for its arguments, or sent. -/
theorem asks_ask (call : Call) : (client.ask call).Leaves .asks :=
  asks_bind_of_offline (offline_prepare call) fun request => asks_of_sends (client.sends_call request)

/-- A chain number that cannot be read is put on the node. -/
theorem asks_fetchChainId : client.fetchChainId.Leaves .asks := by
  refine asks_bind (client.asks_ask .chainId) fun result => ?_
  cases result.asText?.bind fun s => readChainId (dropMarks s.toList) with
  | some id => exact online_pure id
  | none => exact online_throw (by simp [WalletError.kind, localKinds])

theorem asks_verifyChainId : client.verifyChainId.Leaves .asks := by
  refine asks_bind client.asks_fetchChainId fun actual => ?_
  split
  · exact online_pure ()
  · exact online_throw (by simp [WalletError.kind, localKinds])

/-- Whatever the turns of the two legs, both requests are sent, or the call object is refused and neither is. -/
theorem asks_estimateWith (schedule : List Side) (object : Json) :
    (client.estimateWith schedule object).Leaves .asks := by
  refine ⟨fun node j => ?_⟩
  rw [run_estimateWith]
  cases Argument.checkCall object with
  | error error => exact Or.inl ⟨List.mem_cons_self, rfl⟩
  | ok checked =>
    obtain ⟨-, hhanded, -⟩ := Progress.Sound.start.turns schedule
    have hmore : j.SentMore ((LegPair.mk (Side.request object) node j).journal
        ((⟨[], []⟩ : Progress).turns schedule)) := by
      cases hsides : ((⟨[], []⟩ : Progress).turns schedule).handed with
      | nil => exact absurd (hsides ▸ hhanded) (by decide)
      | cons side sides => exact ⟨_, _, by rw [LegPair.journal, hsides, List.map_cons]⟩
    dsimp only
    cases Estimate.ofReplies _ _ with
    | ok estimate => exact hmore
    | error error => exact Or.inr ⟨by simp [WalletError.kind, localKinds], hmore⟩

end Client

end DynamicFeeWallet
