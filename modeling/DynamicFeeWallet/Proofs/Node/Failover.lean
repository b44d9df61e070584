import DynamicFeeWallet.Node.Failover

/-!
# Endpoints in turn

The endpoints are the primary one and, of the texts for others, those that are URLs (`Url.Listed`,
`Endpoints.ofSettings_eq_ok`). A request goes to them in their order, to each once, up to and including the first that
succeeds, whose text is the reply; when none does, all of them were tried (`Endpoints.run_send_eq_iff`). Whether an
endpoint succeeds may depend on all that was delivered before, so an endpoint is judged by what it answers after those
in front of it were tried (`Web.Fails`, `Web.FailsOver`).
-/

namespace DynamicFeeWallet

/-! ## Which endpoints there are -/

/-- These are the URLs among some texts, in the order of the texts; a text that is no URL is left out. -/
inductive Url.Listed : List String → List Url → Prop where
  | nil : Listed [] []
  | url {text : String} {texts : List String} {url : Url} {urls : List Url} (h : Url.parse text = .ok url)
      (rest : Listed texts urls) : Listed (text :: texts) (url :: urls)
  | other {text : String} {texts : List String} {error : UrlError} {urls : List Url} (h : Url.parse text = .error error)
      (rest : Listed texts urls) : Listed (text :: texts) urls

/-- The URLs among some texts are found by reading each text. -/
theorem Url.listed_iff {texts : List String} {urls : List Url} :
    Listed texts urls ↔ (texts.filterMap fun text => (Url.parse text).toOption) = urls := by
  constructor
  · intro h
    induction h with
    | nil => rfl
    | url h _ ih => rw [List.filterMap_cons, h, ← ih]; rfl
    | other h _ ih => rw [List.filterMap_cons, h, ← ih]; rfl
  · rintro rfl
    induction texts with
    | nil => exact .nil
    | cons text texts ih =>
      rw [List.filterMap_cons]
      cases h : Url.parse text with
      | ok url => exact .url h ih
      | error error => exact .other h ih

/-- Settings lead to endpoints exactly when the first text is a URL, which is the primary one; the others are those
among the other texts. -/
theorem Endpoints.ofSettings_eq_ok {s : NetworkSettings} {e : Endpoints} :
    ofSettings s = .ok e ↔ Url.parse s.rpcUrl = .ok e.primary ∧ Url.Listed s.failoverUrls e.others := by
  rw [Url.listed_iff, ofSettings]
  cases Url.parse s.rpcUrl with
  | error error => simp
  | ok primary =>
    simp only [Except.ok.injEq]
    constructor
    · rintro rfl
      exact ⟨rfl, rfl⟩
    · rintro ⟨rfl, hothers⟩
      rw [hothers]

/-! ## What the endpoints answer -/

/-- There is an answer in time, with this text and a status of success. -/
def Answer.Succeeds (answer : Answer) (text : String) : Prop :=
  ∃ status, answer = .answered status text ∧ 200 ≤ status ∧ status ≤ 299

/-- The deliveries of a request to some endpoints, one after the other. -/
def Request.deliveredTo (request : Request) (urls : List Url) : List Delivery := urls.map fun url => ⟨url, request⟩

/-- None of the endpoints succeeds, each being asked after those in front of it. -/
def Web.Fails (web : Web) (past : List Delivery) (request : Request) (urls : List Url) : Prop :=
  ∀ before url after, urls = before ++ url :: after →
    ∀ text, ¬(web (past ++ request.deliveredTo before) ⟨url, request⟩).Succeeds text

/-- What comes of a request to some endpoints: the reply, and the endpoints that were tried. -/
inductive Web.FailsOver (web : Web) (past : List Delivery) (request : Request) (urls : List Url) :
    Reply → List Url → Prop where
  /-- Some endpoints fail, the next one succeeds, and those after it are left alone. -/
  | answered {before after : List Url} {url : Url} {text : String} (hurls : urls = before ++ url :: after)
      (hbefore : web.Fails past request before)
      (htext : (web (past ++ request.deliveredTo before) ⟨url, request⟩).Succeeds text) :
      FailsOver web past request urls (.ok text) (before ++ [url])
  /-- All endpoints fail. -/
  | exhausted (h : web.Fails past request urls) : FailsOver web past request urls (.error (.exhausted urls.length)) urls

/-- An answer counts when it succeeds. -/
theorem Answer.success?_eq_some {answer : Answer} {text : String} :
    answer.success? = some text ↔ answer.Succeeds text := by
  unfold success? Succeeds
  cases answer with
  | answered status found =>
    dsimp only
    split
    · rename_i hstatus
      constructor
      · intro h
        exact ⟨status, congrArg _ (Option.some.inj h), hstatus⟩
      · rintro ⟨_, hanswer, -⟩
        cases hanswer
        rfl
    · rename_i hstatus
      constructor
      · intro h
        nomatch h
      · rintro ⟨_, hanswer, hother⟩
        cases hanswer
        exact absurd hother hstatus
  | failed reason => simp
  | timedOut => simp

/-- An answer does not count when it does not succeed. -/
theorem Answer.success?_eq_none {answer : Answer} : answer.success? = none ↔ ∀ text, ¬answer.Succeeds text := by
  simp only [Option.eq_none_iff_forall_ne_some, ne_eq, success?_eq_some]

theorem Request.deliveredTo_append (request : Request) (urls others : List Url) :
    request.deliveredTo (urls ++ others) = request.deliveredTo urls ++ request.deliveredTo others := List.map_append

namespace Web

variable {web : Web} {past : List Delivery} {request : Request} {url : Url} {urls rest : List Url}

/-- Where there are no endpoints, all have failed. -/
theorem fails_nil : web.Fails past request [] := by
  intro before url after h
  simp at h

/-- Endpoints fail when the first one does, and the others after it. -/
theorem fails_cons :
    web.Fails past request (url :: rest) ↔
      (∀ text, ¬(web past ⟨url, request⟩).Succeeds text) ∧ web.Fails (past ++ [⟨url, request⟩]) request rest := by
  constructor
  · intro h
    refine ⟨?_, fun before next after hrest => ?_⟩
    · simpa [Request.deliveredTo] using h [] url rest rfl
    · simpa [Request.deliveredTo] using h (url :: before) next after (by rw [hrest, List.cons_append])
  · rintro ⟨hfirst, hothers⟩ before next after h
    cases before with
    | nil =>
      cases h
      simpa [Request.deliveredTo] using hfirst
    | cons first before =>
      cases h
      simpa [Request.deliveredTo] using hothers before next after rfl

/-- Endpoints fail, or there is a first one among them that succeeds. -/
theorem fails_or_exists_succeeds (web : Web) (past : List Delivery) (request : Request) (urls : List Url) :
    web.Fails past request urls ∨
      ∃ before url after text, urls = before ++ url :: after ∧ web.Fails past request before ∧
        (web (past ++ request.deliveredTo before) ⟨url, request⟩).Succeeds text := by
  induction urls generalizing past with
  | nil => exact Or.inl fails_nil
  | cons url rest ih =>
    cases hanswer : (web past ⟨url, request⟩).success? with
    | some text =>
      refine Or.inr ⟨[], url, rest, text, rfl, fails_nil, ?_⟩
      simpa [Request.deliveredTo] using Answer.success?_eq_some.mp hanswer
    | none =>
      have hfirst := Answer.success?_eq_none.mp hanswer
      rcases ih (past ++ [⟨url, request⟩]) with hfails | ⟨before, next, after, text, hrest, hbefore, htext⟩
      · exact Or.inl (fails_cons.mpr ⟨hfirst, hfails⟩)
      · refine Or.inr ⟨url :: before, next, after,
          text, by rw [hrest, List.cons_append], fails_cons.mpr ⟨hfirst, hbefore⟩, ?_⟩
        simpa [Request.deliveredTo] using htext

/-- Some endpoint succeeds after those before it, or all fail. -/
theorem exists_failsOver (web : Web) (past : List Delivery) (request : Request) (urls : List Url) :
    ∃ reply tried, web.FailsOver past request urls reply tried := by
  rcases web.fails_or_exists_succeeds past request urls with hfails | ⟨before, url, after, text, hurls, hbefore, htext⟩
  · exact ⟨_, _, .exhausted hfails⟩
  · exact ⟨_, _, .answered hurls hbefore htext⟩

end Web

/-! ## How a request is sent -/

namespace Endpoints

variable {web : Web} {past : List Delivery} {request : Request} {url : Url} {urls rest : List Url} {text : String}

/-- One endpoint is asked, and the others only if it fails. -/
theorem run_sendTo_cons :
    (sendTo web.post request (url :: rest)).run past =
      match (web past ⟨url, request⟩).success? with
      | some text => (some text, past ++ [⟨url, request⟩])
      | none => (sendTo web.post request rest).run (past ++ [⟨url, request⟩]) := by
  have hpost : (web.post url request).run past = (web past ⟨url, request⟩, past ++ [⟨url, request⟩]) := rfl
  rw [sendTo, StateT.run_bind, hpost]
  dsimp only [Id.run, bind]
  cases (web past ⟨url, request⟩).success? <;> rfl

/-- Endpoints that fail are tried, and leave the request to those after them. -/
theorem run_sendTo_append (h : web.Fails past request urls) :
    (sendTo web.post request (urls ++ rest)).run past =
      (sendTo web.post request rest).run (past ++ request.deliveredTo urls) := by
  induction urls generalizing past with
  | nil => rw [Request.deliveredTo, List.map_nil, List.append_nil, List.nil_append]
  | cons url urls ih =>
    obtain ⟨hfirst, hrest⟩ := Web.fails_cons.mp h
    rw [List.cons_append, run_sendTo_cons, Answer.success?_eq_none.mpr hfirst]
    dsimp only
    rw [ih hrest, List.append_assoc]
    rfl

/-- What comes of a request is what sending it does. -/
theorem run_send_of_failsOver (e : Endpoints) {reply : Reply} {tried : List Url}
    (h : web.FailsOver past request e.all reply tried) :
    (e.send web.post request).run past = (reply, past ++ request.deliveredTo tried) := by
  rw [send, StateT.run_bind]
  cases h with
  | answered hurls hbefore htext =>
    rw [hurls, run_sendTo_append hbefore, run_sendTo_cons, Answer.success?_eq_some.mpr htext, Request.deliveredTo_append,
      ← List.append_assoc]
    rfl
  | exhausted hfails =>
    rw [← List.append_nil e.all, run_sendTo_append hfails, List.append_nil]
    rfl

/-! ## Main statement -/

/-- The endpoints of settings are the URL of the first text and those of the texts for others that are URLs, in their
order. A request is delivered to them in this order, to each at most once, as it is: up to and including the first
that answers in time with a status of success, and the reply is the text of that answer as it is; when there is none,
to all of them, of which there is at least one, and the reply tells how many there are. -/
theorem run_send_eq_iff (e : Endpoints) :
    (∀ s, ofSettings s = .ok e ↔ Url.parse s.rpcUrl = .ok e.primary ∧ Url.Listed s.failoverUrls e.others) ∧
      (∀ (web : Web) (past deliveries : List Delivery) (request : Request) (reply : Reply),
        (e.send web.post request).run past = (reply, deliveries) ↔
          ∃ tried, web.FailsOver past request (e.primary :: e.others) reply tried ∧
            deliveries = past ++ request.deliveredTo tried) ∧
      1 ≤ (e.primary :: e.others).length := by
  refine ⟨fun s => ofSettings_eq_ok, fun web past deliveries request reply => ⟨fun h => ?_, ?_⟩, Nat.le_add_left 1 _⟩
  · obtain ⟨told, tried, hcourse⟩ := web.exists_failsOver past request e.all
    rw [run_send_of_failsOver e hcourse] at h
    cases h
    exact ⟨tried, hcourse, rfl⟩
  · rintro ⟨tried, hcourse, rfl⟩
    exact run_send_of_failsOver e hcourse

/-- A web that does not answer in time at first, is busy then, and from then on answers with an error document. -/
def recoveringWeb : Web := fun past _ =>
  match past.length with
  | 0 => .timedOut
  | 1 => .answered 503 "busy"
  | _ => .answered 200 "\x7b\"error\":1\x7d"

/-- Of four texts one is no URL. The first endpoint is too slow, the second one refuses, and the reply is the text of
the third; when nothing is ever answered, the three of them were tried. -/
theorem run_send_eq_iff_three_endpoints :
    ∃ (first second third : Url) (e : Endpoints) (request : Request),
      ofSettings { rpcUrl := "http://a", failoverUrls := ["http://b", "b", "http://c"] } = .ok e ∧
        Url.parse "http://a" = .ok first ∧ Url.parse "http://b" = .ok second ∧ Url.parse "http://c" = .ok third ∧
        (e.send recoveringWeb.post request).run [] =
          (.ok "\x7b\"error\":1\x7d", [⟨first, request⟩, ⟨second, request⟩, ⟨third, request⟩]) ∧
        (e.send (Web.post fun _ _ => .timedOut) request).run [] =
          (.error (.exhausted 3), [⟨first, request⟩, ⟨second, request⟩, ⟨third, request⟩]) := by
  have hurl (text : String) (h : (Url.parse text).toOption.isSome = true) : ∃ url, Url.parse text = .ok url := by
    cases hparse : Url.parse text with
    | ok url => exact ⟨url, rfl⟩
    | error error =>
      rw [hparse] at h
      nomatch h
  obtain ⟨first, hfirst⟩ := hurl "http://a" (by decide +kernel)
  obtain ⟨second, hsecond⟩ := hurl "http://b" (by decide +kernel)
  obtain ⟨third, hthird⟩ := hurl "http://c" (by decide +kernel)
  have hothers : Url.Listed ["http://b", "b", "http://c"] [second, third] := by
    have hnone : (Url.parse "b").toOption = none := by decide +kernel
    rw [Url.listed_iff, List.filterMap_cons, List.filterMap_cons, List.filterMap_cons, hsecond, hnone, hthird]
    rfl
  obtain ⟨hsettings, hrun, -⟩ := run_send_eq_iff ⟨first, [second, third]⟩
  refine ⟨first, second, third, ⟨first, [second, third]⟩, ⟨"eth_blockNumber", []⟩, ?_, hfirst, hsecond, hthird, ?_, ?_⟩
  · exact (hsettings _).mpr ⟨hfirst, hothers⟩
  · have hbusy : ∀ text, ¬(Answer.answered 503 "busy").Succeeds text := by
      rintro text ⟨status, hanswer, -, hle⟩
      cases hanswer
      exact absurd hle (by decide)
    have hfails : recoveringWeb.Fails [] ⟨"eth_blockNumber", []⟩ [first, second] :=
      Web.fails_cons.mpr ⟨nofun, Web.fails_cons.mpr ⟨hbusy, Web.fails_nil⟩⟩
    exact (hrun _ _ _ _ _).mpr ⟨[first, second, third], .answered rfl hfails ⟨200, rfl, by decide⟩, rfl⟩
  · have hfails : Web.Fails (fun _ _ => .timedOut) [] ⟨"eth_blockNumber", []⟩ [first, second, third] := by
      rintro before url after - text ⟨status, hanswer, -⟩
      nomatch hanswer
    exact (hrun _ _ _ _ _).mpr ⟨[first, second, third], .exhausted hfails, rfl⟩

end Endpoints

end DynamicFeeWallet
