import DynamicFeeWallet.Proofs.Request.CallObject
import DynamicFeeWallet.Proofs.Wallet.AddressText
import DynamicFeeWallet.Proofs.Wallet.Polling
import DynamicFeeWallet.Proofs.Wallet.Signing
import DynamicFeeWallet.Proofs.Wallet.Submission

/-!
# Accounts over any run

What an action on an account comes to against any node is said once, with the requests that it makes (`Account.Turn`,
`Account.turn_act`), and from it what any actions come to (`Account.turns_carryOut`). The key and the address of an
account are never changed, and its nonce is the one that it was loaded with until the node tells another
(`Account.Origin.keeps_account`).
-/

namespace DynamicFeeWallet

/-! ## What a reply tells -/

namespace Reply

/-- The reply grants a result from which this is read. -/
def Tells {α : Type} (reply : Reply) (read : Json → Option α) (a : α) : Prop :=
  ∃ result, reply.Grants result ∧ read result = some a

/-- The reply tells a quantity that is this number of 64 bits. -/
def TellsNonce (reply : Reply) (nonce : UInt64) : Prop :=
  ∃ quantity, reply.Tells Quantity.ofJson? quantity ∧ quantity.toNat = nonce.toNat

/-- The amount is the quantity that the reply tells, or zero when it tells none. -/
def TellsBalance (reply : Reply) (amount : UInt256) : Prop :=
  reply.Tells Quantity.ofJson? amount ∨ (∀ quantity, ¬reply.Tells Quantity.ofJson? quantity) ∧ amount = .zero

/-- What is read from the result of the reply to a request of this method, or why there is nothing. -/
def told {α : Type} (method : String) (read : Json → Option α) (illegible : Json → NodeError) (reply : Reply) :
    Except WalletError α :=
  match reply.result method fun error => .node (.reported error) with
  | .error error => .error error
  | .ok result =>
    match read result with
    | some a => .ok a
    | none => .error (.node (illegible result))

variable {α : Type} {method : String} {read : Json → Option α} {illegible : Json → NodeError} {reply : Reply}

/-- What is told is what the reply tells. -/
theorem told_eq_ok {a : α} : reply.told method read illegible = .ok a ↔ reply.Tells read a := by
  have hgrants (result : Json) :
      reply.Grants result ↔ (reply.result method fun error => .node (.reported error)) = .ok result :=
    result_eq_ok.symm
  unfold told Tells
  simp only [hgrants]
  cases reply.result method fun error => .node (.reported error) with
  | error error => simp
  | ok result => cases hread : read result <;> simp [hread]

/-- A reply of which nothing is told tells nothing. -/
theorem not_tells_of_told_eq_error {error : WalletError} (h : reply.told method read illegible = .error error) (a : α) :
    ¬reply.Tells read a := fun ha => by nomatch h.symm.trans (told_eq_ok.mpr ha)

/-- A number of 64 bits is told by a quantity below `2 ^ 64`. -/
theorem tellsNonce_iff {nonce : UInt64} :
    reply.TellsNonce nonce ↔ reply.Tells (fun result => (Quantity.ofJson? result).bind UInt256.toUInt64?) nonce := by
  simp only [TellsNonce, Tells, Option.bind_eq_some_iff, UInt256.toUInt64?_eq_some_iff]
  constructor
  · rintro ⟨quantity, ⟨result, hgrants, hread⟩, hnonce⟩
    exact ⟨result, hgrants, quantity, hread, hnonce⟩
  · rintro ⟨result, hgrants, quantity, hread, hnonce⟩
    exact ⟨quantity, ⟨result, hgrants, hread⟩, hnonce⟩

end Reply

/-! ## Asking -/

theorem Journal.requests_looked (node : Node) (j : Journal) (request : Request) :
    (j.looked node request).requests = j.requests ++ [request] := j.requests_send request

namespace Client

variable {α : Type} (client : Client) (node : Node) (j : Journal)

/-- Makes a call and reads its result. -/
def askFor (call : Call) (read : Json → Option α) (illegible : Json → NodeError) : Attempt α := do
  let result ← client.ask call
  match read result with
  | some a => return a
  | none => throw (.node (illegible result))

/-- What is asked for is what the reply to the request tells. -/
theorem run_askFor {call : Call} {request : Request} (h : call.request = .ok request) (read : Json → Option α)
    (illegible : Json → NodeError) :
    (client.askFor call read illegible).run.run node j =
      ((node j.requests request).told request.method read illegible,
        (j.send request).count ((node j.requests request).samples request.method)) := by
  unfold askFor Reply.told
  rw [Attempt.run_bind, run_ask node j h]
  cases (node j.requests request).result request.method fun error => .node (.reported error) with
  | error error => rfl
  | ok result =>
    dsimp only
    cases read result <;> rfl

end Client

/-! ## Actions -/

namespace Account

/-- What can be done with an account. -/
inductive Action where
  /-- Fetches the nonce anew. -/
  | refreshNonce
  /-- Asks for the balance. -/
  | balance
  /-- Credits an amount. -/
  | addBalance (amount : UInt256)
  /-- Sets the balance. -/
  | setBalance (amount : UInt256)
  /-- Gives an amount of a token. -/
  | dealErc20 (token : Address) (amount : UInt256)

/-- What an action tells. -/
inductive Answer where
  /-- The new nonce, or why there is none. -/
  | nonce (outcome : Except WalletError UInt64)
  /-- A balance. -/
  | balance (amount : UInt256)
  /-- A response document, or why there is none. -/
  | document (outcome : Except WalletError Json)

namespace Action

/-- The request that an action on the account of an address begins with. -/
def request (address : Address) : Action → Request
  | refreshNonce => ⟨"eth_getTransactionCount", [.text address.checksum, .text "latest"]⟩
  | balance => ⟨"eth_getBalance", [.text address.checksum, .text "latest"]⟩
  | addBalance amount => ⟨"anvil_addBalance", [.text address.checksum, Call.amount amount]⟩
  | setBalance amount => ⟨"anvil_setBalance", [.text address.checksum, Call.amount amount]⟩
  | dealErc20 token amount => ⟨"anvil_dealERC20", [.text address.checksum, .text token.checksum, Call.amount amount]⟩

/-- The action changes the balance and tells the new one. -/
inductive Updates : Action → Prop where
  | addBalance (amount : UInt256) : Updates (.addBalance amount)
  | setBalance (amount : UInt256) : Updates (.setBalance amount)

/-- The call that an action on the account of an address begins with. -/
def call (address : Address) : Action → Call
  | refreshNonce => .transactionCount address.checksum "latest"
  | balance => .balance address.checksum "latest"
  | addBalance amount => .addBalance address.checksum amount
  | setBalance amount => .setBalance address.checksum amount
  | dealErc20 token amount => .dealErc20 address.checksum token.checksum amount

/-- The arguments of the call are in order. -/
theorem request_call (action : Action) (address : Address) :
    (action.call address).request = .ok (action.request address) := by
  have hlatest : Argument.checkBlock "latest" = .ok () := rfl
  cases action with
  | refreshNonce | balance =>
    simp only [call, Call.request, Call.params, Call.addressAndBlock, Argument.checkAddress_checksum, hlatest]
    rfl
  | addBalance amount | setBalance amount | dealErc20 token amount =>
    simp only [call, Call.request, Call.params, Argument.checkAddress_checksum]
    rfl

end Action

variable (account : Account)

/-- Carries out an action. The account given back is the one to go on with, whether the action succeeded or not. -/
def act (account : Account) : Action → Exchange (Answer × Account)
  | .refreshNonce => do
    match ← account.refreshNonce.run with
    | .ok refreshed => return (.nonce (.ok refreshed.nonce), refreshed)
    | .error error => return (.nonce (.error error), account)
  | .balance => do return (.balance (← account.balance), account)
  | .addBalance amount => do return (.balance (← account.addBalance amount), account)
  | .setBalance amount => do return (.balance (← account.setBalance amount), account)
  | .dealErc20 token amount => do return (.document (← (account.dealErc20 token amount).run), account)

/-- Carries out actions, one after the other. -/
def carryOut (account : Account) : List Action → Exchange (List Answer × Account)
  | [] => return ([], account)
  | action :: actions => do
    let (answer, account) ← account.act action
    let (answers, account) ← account.carryOut actions
    return (answer :: answers, account)

/-! ### What an action comes to -/

/-- What one action on an account comes to, after some requests: what it tells, the account then, and the requests
that it makes. -/
inductive Turn (node : Node) (before : List Request) (account : Account) :
    Action → Answer → Account → List Request → Prop where
  /-- The nonce is the one that the node tells. -/
  | refreshed {nonce : UInt64} (h : (node before (Action.refreshNonce.request account.address)).TellsNonce nonce) :
    Turn node before account .refreshNonce
      (.nonce (.ok nonce)) { account with nonce } [Action.refreshNonce.request account.address]
  /-- The node tells no nonce, and nothing changes. -/
  | unrefreshed (error : WalletError)
    (h : ∀ nonce, ¬(node before (Action.refreshNonce.request account.address)).TellsNonce nonce) :
    Turn node before account .refreshNonce (.nonce (.error error)) account [Action.refreshNonce.request account.address]
  /-- The balance is told. -/
  | balance {amount : UInt256} (h : (node before (Action.balance.request account.address)).TellsBalance amount) :
    Turn node before account .balance (.balance amount) account [Action.balance.request account.address]
  /-- The node grants a change of the balance, and is asked for the balance then. -/
  | updated {action : Action} {result : Json} {amount : UInt256} (hupdates : action.Updates)
    (hgrants : (node before (action.request account.address)).Grants result)
    (h : (node (before ++ [action.request account.address])
      (Action.balance.request account.address)).TellsBalance amount) :
    Turn node before account action
      (.balance amount) account [action.request account.address, Action.balance.request account.address]
  /-- The node does not grant a change of the balance, and is not asked for the balance. -/
  | notUpdated {action : Action} (hupdates : action.Updates)
    (h : ∀ result, ¬(node before (action.request account.address)).Grants result) :
    Turn node before account action (.balance .zero) account [action.request account.address]
  /-- A token is given, and the document of the reply is told. -/
  | dealt {token : Address} {amount : UInt256} {outcome : Except WalletError Json}
    (h : ∀ document, outcome = .ok document ↔
      ∃ text, node before ((Action.dealErc20 token amount).request account.address) = .ok text ∧
        Json.parse? text = some document) :
    Turn node before account (.dealErc20 token amount) (.document outcome) account
      [(Action.dealErc20 token amount).request account.address]

variable (node : Node) (j : Journal)

/-- The nonce that a result writes. -/
def readNonce (result : Json) : Option UInt64 := (Quantity.ofJson? result).bind UInt256.toUInt64?

/-- A nonce is what the reply to its request tells. -/
theorem run_fetchNonce (client : Client) (address : Address) :
    (fetchNonce client address).run.run node j =
      ((node j.requests (Action.refreshNonce.request address)).told "eth_getTransactionCount"
        readNonce .badTransactionCount,
        j.looked node (Action.refreshNonce.request address)) := by
  have hask : fetchNonce client address =
      client.askFor (Action.refreshNonce.call address) readNonce .badTransactionCount := by
    refine bind_congr fun result => ?_
    unfold readNonce
    cases (Quantity.ofJson? result).bind UInt256.toUInt64? <;> rfl
  rw [hask]
  exact client.run_askFor node j (Action.refreshNonce.request_call address) readNonce .badTransactionCount

/-- A balance is what the reply to its request tells. -/
theorem run_fetchBalance :
    account.fetchBalance.run.run node j =
      ((node j.requests (Action.balance.request account.address)).told "eth_getBalance" Quantity.ofJson? .badBalance,
        j.looked node (Action.balance.request account.address)) := by
  have hask : account.fetchBalance =
      account.client.askFor (Action.balance.call account.address) Quantity.ofJson? .badBalance := by
    refine bind_congr fun result => ?_
    cases Quantity.ofJson? result <;> rfl
  rw [hask]
  exact account.client.run_askFor node j (Action.balance.request_call account.address) Quantity.ofJson? .badBalance

/-- The balance is asked for once. -/
theorem run_balance :
    ∃ amount, account.balance.run node j = (amount, j.looked node (Action.balance.request account.address)) ∧
      (node j.requests (Action.balance.request account.address)).TellsBalance amount := by
  unfold balance
  rw [Exchange.run_bind, run_fetchBalance]
  cases htold : (node j.requests (Action.balance.request account.address)).told "eth_getBalance"
    Quantity.ofJson? .badBalance with
  | ok amount => exact ⟨amount, rfl, Or.inl (Reply.told_eq_ok.mp htold)⟩
  | error error => exact ⟨.zero, rfl, Or.inr ⟨Reply.not_tells_of_told_eq_error htold, rfl⟩⟩

/-- A change of the balance is asked for, and when it is granted the balance is. -/
theorem turn_balanceAfter {action : Action} (h : action.Updates) :
    ∃ amount sent j', (account.balanceAfter (action.call account.address)).run node j = (amount, j') ∧
      j'.requests = j.requests ++ sent ∧ Turn node j.requests account action (.balance amount) account sent := by
  unfold balanceAfter
  rw [Exchange.run_bind, Client.run_ask node j (action.request_call account.address)]
  cases hresult : (node j.requests (action.request account.address)).result (action.request account.address).method
    fun error => .node (.reported error) with
  | error error =>
    have hnone : ∀ result, ¬(node j.requests (action.request account.address)).Grants result :=
      fun result hgrants => by nomatch hresult.symm.trans (Reply.result_eq_ok.mpr hgrants)
    exact ⟨.zero, _, _, rfl, j.requests_looked node _, .notUpdated h hnone⟩
  | ok result =>
    obtain ⟨amount, hrun, htells⟩ := account.run_balance node (j.looked node (action.request account.address))
    rw [Journal.requests_looked] at htells
    refine ⟨amount, _, _, hrun, ?_, .updated h (Reply.result_eq_ok.mp hresult) htells⟩
    rw [Journal.requests_looked, Journal.requests_looked, List.append_assoc]
    rfl

/-- An action that changes the balance is one turn. -/
theorem turn_of_updates {action : Action} (h : action.Updates) :
    ∃ answer account' sent j', (account.act action).run node j = ((answer, account'), j') ∧
      j'.requests = j.requests ++ sent ∧ Turn node j.requests account action answer account' sent := by
  have hact : account.act action = do
      return (.balance (← account.balanceAfter (action.call account.address)), account) := by
    cases h <;> rfl
  obtain ⟨amount, sent, j', hrun, hsent, hturn⟩ := account.turn_balanceAfter node j h
  rw [hact, Exchange.run_bind, hrun]
  exact ⟨_, _, _, _, rfl, hsent, hturn⟩

/-- An action is one turn. -/
theorem turn_act (action : Action) :
    ∃ answer account' sent j', (account.act action).run node j = ((answer, account'), j') ∧
      j'.requests = j.requests ++ sent ∧ Turn node j.requests account action answer account' sent := by
  cases action with
  | refreshNonce =>
    rw [act, Exchange.run_bind, refreshNonce, Attempt.run_bind, run_fetchNonce]
    cases htold : (node j.requests (Action.refreshNonce.request account.address)).told "eth_getTransactionCount" readNonce
      .badTransactionCount with
    | ok nonce =>
      have htells := Reply.tellsNonce_iff.mpr (Reply.told_eq_ok.mp htold)
      exact ⟨_, _, _, _, rfl, j.requests_looked node _, .refreshed htells⟩
    | error error =>
      have hnone := fun nonce => mt Reply.tellsNonce_iff.mp (Reply.not_tells_of_told_eq_error htold nonce)
      exact ⟨_, _, _, _, rfl, j.requests_looked node _, .unrefreshed error hnone⟩
  | balance =>
    obtain ⟨amount, hrun, htells⟩ := account.run_balance node j
    rw [act, Exchange.run_bind, hrun]
    exact ⟨_, _, _, _, rfl, j.requests_looked node _, .balance htells⟩
  | addBalance amount => exact account.turn_of_updates node j (.addBalance amount)
  | setBalance amount => exact account.turn_of_updates node j (.setBalance amount)
  | dealErc20 token amount =>
    have hrequest := (Action.dealErc20 token amount).request_call account.address
    rw [act, Exchange.run_bind, dealErc20, ← Action.call, Client.sendCall_eq_send hrequest, Client.run_send]
    refine ⟨_, _, _, _, rfl, j.requests_looked node _, .dealt fun document => ?_⟩
    exact mapError_eq_ok.trans Reply.document_eq_ok

/-! ### What any actions come to -/

/-- What actions on an account come to, after some requests: what they tell, the account then, and all requests then. -/
inductive Turns (node : Node) : List Request → Account → List Action → List Answer → Account → List Request → Prop where
  | done (before : List Request) (account : Account) : Turns node before account [] [] account before
  | step {before sent after : List Request} {account account' account'' : Account} {action : Action} {answer : Answer}
    {actions : List Action} {answers : List Answer} (turn : Turn node before account action answer account' sent)
    (rest : Turns node (before ++ sent) account' actions answers account'' after) :
    Turns node before account (action :: actions) (answer :: answers) account'' after

/-- Actions are one turn each. -/
theorem turns_carryOut (actions : List Action) :
    ∃ answers account' j', (account.carryOut actions).run node j = ((answers, account'), j') ∧
      Turns node j.requests account actions answers account' j'.requests := by
  induction actions generalizing account j with
  | nil => exact ⟨[], account, j, rfl, .done _ _⟩
  | cons action actions ih =>
    obtain ⟨answer, next, sent, j', hact, hsent, hturn⟩ := account.turn_act node j action
    obtain ⟨answers, account', j'', hrest, hturns⟩ := ih next j'
    refine ⟨answer :: answers, account', j'', ?_, .step hturn (hsent ▸ hturns)⟩
    rw [carryOut, Exchange.run_bind, hact]
    dsimp only
    rw [Exchange.run_bind, hrest]
    rfl

/-- The nonce after an answer: the one that it tells, or else the one before. -/
def Answer.nonceAfter (nonce : UInt64) : Answer → UInt64
  | .nonce (.ok refreshed) => refreshed
  | _ => nonce

/-- The nonce after some answers: the last one that they tell, or else the one before. -/
def lastNonce (nonce : UInt64) (answers : List Answer) : UInt64 := answers.foldl Answer.nonceAfter nonce

variable {node account} {before after sent : List Request} {account' : Account} {answer : Answer} {answers : List Answer}

/-- A turn changes nothing but the nonce. -/
theorem Turn.eq {action : Action} (h : Turn node before account action answer account' sent) :
    account' = { account with nonce := answer.nonceAfter account.nonce } := by
  cases h with
  | refreshed _ | unrefreshed _ _ | balance _ | updated _ _ _ | notUpdated _ _ | dealt _ => rfl

/-- Turns change nothing but the nonce. -/
theorem Turns.eq {actions : List Action} (h : Turns node before account actions answers account' after) :
    account' = { account with nonce := lastNonce account.nonce answers } := by
  induction h with
  | done _ _ => rfl
  | step turn _ ih =>
    rw [ih, turn.eq]
    rfl

/-! ### Obtaining an account -/

/-- A key that does not control the address is refused, and nothing is sent. -/
theorem run_load_of_ne {client : Client} {address : Address} {name : String} {key : PrivateKey} {nonce : Option UInt64}
    (h : key.address ≠ address) :
    (load client address name key nonce).run.run node j = (.error (.keyMismatch address), j) := by
  unfold load
  rw [if_pos h]
  rfl

/-- The nonce that is given is taken, and nothing is sent. -/
theorem run_load_some (client : Client) (name : String) (key : PrivateKey) (nonce : UInt64) :
    (load client key.address name key (some nonce)).run.run node j =
      (.ok ⟨key.address, name, key, nonce, client⟩, j) := by
  unfold load
  rw [if_neg (not_not_intro rfl)]
  rfl

/-- The nonce that is not given is fetched. -/
theorem run_load_none (client : Client) (name : String) (key : PrivateKey) :
    (load client key.address name key none).run.run node j =
      (((node j.requests (Action.refreshNonce.request key.address)).told "eth_getTransactionCount"
        readNonce .badTransactionCount).map fun nonce => ⟨key.address, name, key, nonce, client⟩,
        j.looked node (Action.refreshNonce.request key.address)) := by
  have hload : load client key.address name key none = do
      return ⟨key.address, name, key, ← fetchNonce client key.address, client⟩ := by
    unfold load
    rw [if_neg (not_not_intro rfl)]
  rw [hload, Attempt.run_bind, run_fetchNonce]
  cases (node j.requests (Action.refreshNonce.request key.address)).told "eth_getTransactionCount" readNonce
    .badTransactionCount <;> rfl

/-! ## Main statement -/

/-- Where an account comes from. -/
inductive Origin where
  /-- It is made of a recovery phrase. -/
  | phrase (w : Wallet) (name words : String)
  /-- It is that of an address and a key, with a nonce or with the one that the node tells. -/
  | key (w : Wallet) (address name text : String) (nonce : Option UInt64)

namespace Origin

/-- The attempt to obtain the account. -/
def attempt : Origin → Attempt Account
  | phrase w name words => ExceptT.mk (pure (w.createAccount name words))
  | key w address name text nonce => w.getAccount address name text nonce

/-- The account that is obtained after some requests: its key is that of the phrase or of the text, and the nonce is
zero, the given one, or the one that the node tells. -/
inductive Yields (node : Node) (before : List Request) : Origin → Account → Prop where
  | phrase {w : Wallet} {name words : String} {key : PrivateKey} (hkey : Phrase.privateKey words = .ok key) :
    Yields node before (.phrase w name words) ⟨key.address, name, key, 0, w.client⟩
  | given {w : Wallet} {name address text : String} {key : PrivateKey}
    (haddress : Address.parse address = .ok key.address) (hkey : PrivateKey.parse text = .ok key) (nonce : UInt64) :
    Yields node before (.key w address name text (some nonce)) ⟨key.address, name, key, nonce, w.client⟩
  | fetched {w : Wallet} {name address text : String} {key : PrivateKey}
    (haddress : Address.parse address = .ok key.address) (hkey : PrivateKey.parse text = .ok key) {nonce : UInt64}
    (h : (node before (Action.refreshNonce.request key.address)).TellsNonce nonce) :
    Yields node before (.key w address name text none) ⟨key.address, name, key, nonce, w.client⟩

variable {origin : Origin} {node : Node} {before : List Request} {j j' : Journal} {account : Account}

/-- The address is that of the key. -/
theorem Yields.address_eq (h : Yields node before origin account) : account.address = account.key.address := by
  cases h with
  | phrase _ | given _ _ _ | fetched _ _ _ => rfl

/-- An account that is loaded has the address of its key, and the nonce that is given or told. -/
theorem yields_of_attempt (h : origin.attempt.run.run node j = (.ok account, j')) :
    Yields node j.requests origin account := by
  cases origin with
  | phrase w name words =>
    have hcreate : w.createAccount name words = .ok account := congrArg Prod.fst h
    unfold Wallet.createAccount at hcreate
    cases hkey : Phrase.privateKey words with
    | error error =>
      rw [hkey] at hcreate
      nomatch hcreate
    | ok key =>
      rw [hkey] at hcreate
      cases hcreate
      exact .phrase hkey
  | key w text name keyText nonce =>
    rw [attempt] at h
    cases haddress : Address.isAddress text with
    | false =>
      rw [w.getAccount_of_not_isAddress name keyText nonce haddress] at h
      nomatch h
    | true =>
      obtain ⟨-, -, address, hparse, -⟩ := Address.exists_parse_of_isAddress haddress
      rw [w.getAccount_of_isAddress name keyText nonce haddress hparse, Attempt.run_bind] at h
      cases hkey : Wallet.readKey keyText with
      | error error =>
        rw [hkey] at h
        nomatch h
      | ok key =>
        rw [hkey] at h
        replace h : (load w.client address name key nonce).run.run node j = (.ok account, j') := h
        by_cases hcontrols : key.address = address
        · subst hcontrols
          cases nonce with
          | some nonce =>
            rw [run_load_some] at h
            cases h
            exact .given hparse (mapError_eq_ok.mp hkey) nonce
          | none =>
            rw [run_load_none] at h
            obtain ⟨nonce, htold, hloaded⟩ := map_eq_ok.mp (congrArg Prod.fst h)
            cases hloaded
            exact .fetched hparse (mapError_eq_ok.mp hkey) (Reply.tellsNonce_iff.mpr (Reply.told_eq_ok.mp htold))
        · rw [run_load_of_ne j hcontrols] at h
          nomatch h

end Origin

/-- An account that is obtained has the key of its origin and the address of that key, and its nonce is zero, the
given one, or the one that the node tells. Whatever is done with it, over any node and at any time, neither is
changed, and the nonce is the last one that the node told, a quantity below `2 ^ 64`; an action that fails changes
nothing, and after a change of the balance the balance is asked for only when the change was granted. -/
theorem Origin.keeps_account {origin : Origin} {node : Node} {j j' : Journal} {account : Account}
    (h : origin.attempt.run.run node j = (.ok account, j')) :
    origin.Yields node j.requests account ∧
      ∀ (node : Node) (j : Journal) (actions : List Action),
        ∃ answers account' j', (account.carryOut actions).run node j = ((answers, account'), j') ∧
          account'.address = account'.key.address ∧
          account' = { account with nonce := lastNonce account.nonce answers } ∧
          Turns node j.requests account actions answers account' j'.requests := by
  have hyields := Origin.yields_of_attempt h
  refine ⟨hyields, fun node j actions => ?_⟩
  obtain ⟨answers, account', j', hrun, hturns⟩ := account.turns_carryOut node j actions
  refine ⟨answers, account', j', hrun, ?_, hturns.eq, hturns⟩
  rw [hturns.eq]
  exact hyields.address_eq

/-- A node that answers the first request with seven and no other. -/
def sevenThenSilent : Node := fun before _ => if before.isEmpty then .ok "\x7b\"result\":7\x7d" else .error (.exhausted 0)

/-- The origin of an account of the smallest key whose nonce is to be fetched. -/
def fetchedOrigin : Origin := .key ⟨⟨{}⟩⟩ smallestKey.address.checksum "hot" smallestKeyText none

/-- An account whose nonce was fetched keeps to the same. -/
theorem Origin.keeps_account_fetched :
    ∃ account j', fetchedOrigin.attempt.run.run sevenThenSilent {} = (.ok account, j') ∧ account.nonce = 7 ∧
      fetchedOrigin.Yields sevenThenSilent [] account ∧
      ∀ (node : Node) (j : Journal) (actions : List Action),
        ∃ answers account' j', (account.carryOut actions).run node j = ((answers, account'), j') ∧
          account'.address = account'.key.address ∧
          account' = { account with nonce := lastNonce account.nonce answers } ∧
          Turns node j.requests account actions answers account' j'.requests := by
  have hkey : PrivateKey.parse smallestKeyText = .ok smallestKey := by decide +kernel
  have htext : ((Json.parse? "\x7b\"result\":7\x7d").bind (·.get? "result")).bind readNonce = some 7 := by decide +kernel
  obtain ⟨result, hresult, hread⟩ := Option.bind_eq_some_iff.mp htext
  obtain ⟨document, hparse, hmember⟩ := Option.bind_eq_some_iff.mp hresult
  have htold : (sevenThenSilent [] (Action.refreshNonce.request smallestKey.address)).told "eth_getTransactionCount"
      readNonce .badTransactionCount = .ok 7 :=
    Reply.told_eq_ok.mpr ⟨result, ⟨_, document, rfl, hparse, Or.inl hmember⟩, hread⟩
  -- the address need not be worked out, since its checksum is read back
  have haddress := smallestKey.address.isAddress_checksum
  have hattempt : fetchedOrigin.attempt.run.run sevenThenSilent {} =
      (load ⟨{}⟩ smallestKey.address "hot" smallestKey none).run.run sevenThenSilent {} := by
    rw [fetchedOrigin, Origin.attempt,
      Wallet.getAccount_of_isAddress _ _ _ _ haddress smallestKey.address.parse_checksum.1,
      Attempt.run_bind, Wallet.readKey, hkey]
    rfl
  replace hattempt := hattempt.trans (run_load_none {} ⟨{}⟩ "hot" smallestKey)
  rw [show Journal.requests {} = [] from rfl, htold] at hattempt
  obtain ⟨hyields, hkept⟩ := Origin.keeps_account hattempt
  exact ⟨_, _, hattempt, rfl, hyields, hkept⟩

end Account

end DynamicFeeWallet
