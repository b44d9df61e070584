import DynamicFeeWallet.Proofs.Quantity
import DynamicFeeWallet.Proofs.Wallet.AccountRun

/-!
# Two readings of the number of a network

The number of the network is not read as the other numbers of a node are. Its digits stand after any number of marks
and perhaps a plus (`Client.Announces`), where every other number stands after one mark of either case, may have low
lines among its digits, and may be a number of the document. On a text of one mark and digits the two readings agree,
and on nothing else do both give a number (`Client.readChain_and_readNonce`).
-/

namespace DynamicFeeWallet

namespace Quantity

/-- Hexadecimal digits, at least one, that write the number. -/
def DigitsOf (digits : List Char) (n : UInt64) : Prop :=
  digits ≠ [] ∧ (∀ c ∈ digits, Hex.isDigit c = true) ∧ value digits = n.toNat

variable {digits : List Char} {n : UInt64}

/-- Digits and low lines are read as a number of 64 bits when they write one. -/
theorem ofDigits?_bind_toUInt64? :
    (ofDigits? 16 digits).bind UInt256.toUInt64? = some n ↔
      (∀ c ∈ digits, Hex.isDigit c = true ∨ c = '_') ∧ value digits = n.toNat := by
  simp only [Option.bind_eq_some_iff, ofDigits?_eq_some, UInt256.toUInt64?_eq_some_iff]
  constructor
  · rintro ⟨amount, ⟨hall, hvalue⟩, hn⟩
    exact ⟨hall, hvalue.trans hn⟩
  · rintro ⟨hall, hvalue⟩
    exact ⟨.ofUInt64 n, ⟨hall, hvalue⟩, rfl⟩

/-- What is read of nothing but digits. -/
theorem digitsOf_iff :
    (if digits.isEmpty || !digits.all Hex.isDigit then none else (ofDigits? 16 digits).bind UInt256.toUInt64?) = some n ↔
      DigitsOf digits n := by
  split
  · rename_i hbad
    refine ⟨nofun, fun ⟨hsome, hall, _⟩ => ?_⟩
    rw [List.all_eq_true.mpr hall, List.isEmpty_eq_false_iff.mpr hsome] at hbad
    nomatch hbad
  · rename_i hgood
    rw [Bool.not_eq_true, Bool.or_eq_false_iff, Bool.not_eq_false', List.isEmpty_eq_false_iff, List.all_eq_true] at hgood
    rw [ofDigits?_bind_toUInt64?]
    exact ⟨fun h => ⟨hgood.1, hgood.2, h.2⟩, fun h => ⟨fun c hc => .inl (h.2.1 c hc), h.2.2⟩⟩

end Quantity

namespace Reply

variable {reply : Reply}

/-- What is told as a nonce is read as one. -/
theorem tellsNonce_iff_readNonce {nonce : UInt64} :
    reply.TellsNonce nonce ↔ reply.Tells Account.readNonce nonce := tellsNonce_iff

/-- A reply grants one result at most. -/
theorem Grants.unique {a b : Json} (ha : reply.Grants a) (hb : reply.Grants b) : a = b := by
  have hresult : reply.result "" (fun error => .node (.reported error)) = .ok a := result_eq_ok.mpr ha
  exact Except.ok.inj (hresult.symm.trans (result_eq_ok.mpr hb))

/-- What is told is read from the result that is granted. -/
theorem Grants.tells_iff {α : Type} {read : Json → Option α} {result : Json} {a : α} (h : reply.Grants result) :
    reply.Tells read a ↔ read result = some a := by
  constructor
  · rintro ⟨result', h', hread⟩
    cases h.unique h'
    exact hread
  · intro hread
    exact ⟨result, h, hread⟩

/-- The result of a document is granted. -/
theorem grants_of_get? {body : String} {result : Json} (h : (Json.parse? body).bind (·.get? "result") = some result) :
    Reply.Grants (.ok body) result := by
  obtain ⟨document, hparse, hresult⟩ := Option.bind_eq_some_iff.mp h
  exact ⟨body, document, rfl, hparse, .inl hresult⟩

/-- Two readings of one reply are readings of one result. -/
theorem tells_and_tells {α β : Type} {read : Json → Option α} {read' : Json → Option β} {a : α} {b : β} :
    reply.Tells read a ∧ reply.Tells read' b ↔
      ∃ result, reply.Grants result ∧ read result = some a ∧ read' result = some b := by
  constructor
  · rintro ⟨⟨result, hgrants, ha⟩, hb⟩
    exact ⟨result, hgrants, ha, hgrants.tells_iff.mp hb⟩
  · rintro ⟨result, hgrants, ha, hb⟩
    exact ⟨⟨result, hgrants, ha⟩, result, hgrants, hb⟩

end Reply

open Quantity

namespace Account

/-- A nonce is a number of the document, or stands in a text after one mark, with low lines among its digits or
without. -/
theorem readNonce_eq_some {result : Json} {n : UInt64} :
    readNonce result = some n ↔ result = .number (.natural n) ∨
      ∃ text digits, result = .text text ∧ (text.toList = '0' :: 'x' :: digits ∨ text.toList = '0' :: 'X' :: digits) ∧
        digits ≠ [] ∧ (∀ c ∈ digits, Hex.isDigit c = true ∨ c = '_') ∧ value digits = n.toNat := by
  unfold readNonce
  simp only [← Hex.marked?_eq_some]
  cases result with
  | null | bool b | array items | members fields => simp [ofJson?]
  | number m =>
    cases m with
    | natural m => simp [ofJson?, UInt256.toUInt64?_eq_some_iff, UInt256.ofUInt64, UInt64.toNat_inj]
    | _ => simp [ofJson?]
  | text s =>
    simp only [ofJson?, Option.bind_eq_some_iff, ofText?_eq_some, UInt256.toUInt64?_eq_some_iff]
    constructor
    · rintro ⟨amount, ⟨digits, hmarked, hsome, hall, hvalue⟩, hn⟩
      exact .inr ⟨s, digits, rfl, hmarked, hsome, hall, hvalue.trans hn⟩
    · rintro (h | ⟨text, digits, h, hmarked, hsome, hall, hvalue⟩)
      · cases h
      · cases h
        exact ⟨.ofUInt64 n, ⟨digits, hmarked, hsome, hall, hvalue⟩, rfl⟩

end Account

namespace Client

/-! ## The reading of the number of a network -/

variable {text : List Char} {id : UInt64}

/-- The number of the network that a result writes. -/
def readChain (result : Json) : Option UInt64 := result.asText?.bind fun s => readChainId (dropMarks s.toList)

/-- A text that leads to digits: any number of marks, a plus or none, and the digits. -/
inductive Announces (digits : List Char) : List Char → Prop where
  | bare : Announces digits digits
  | plus : Announces digits ('+' :: digits)
  | mark {text : List Char} (h : Announces digits text) : Announces digits ('0' :: 'x' :: text)

/-- A plus in front of the digits does not count. -/
theorem readChainId_eq_some :
    readChainId text = some id ↔ ∃ digits, (text = digits ∨ text = '+' :: digits) ∧ DigitsOf digits id := by
  unfold readChainId
  split
  · rename_i rest
    rw [digitsOf_iff]
    refine ⟨fun h => ⟨rest, .inr rfl, h⟩, ?_⟩
    rintro ⟨digits, rfl | h, hdigits⟩
    · nomatch hdigits.2.1 '+' List.mem_cons_self
    · cases h
      exact hdigits
  · rename_i hplus
    rw [digitsOf_iff]
    refine ⟨fun h => ⟨text, .inl rfl, h⟩, ?_⟩
    rintro ⟨digits, rfl | rfl, hdigits⟩
    · exact hdigits
    · exact absurd rfl (hplus digits)

theorem dropMarks_of_isDigit (h : ∀ c ∈ text, Hex.isDigit c = true) : dropMarks text = text := by
  rw [dropMarks]
  rintro rest rfl
  nomatch h 'x' (by simp)

/-- And neither do marks before it. -/
theorem readChainId_dropMarks :
    readChainId (dropMarks text) = some id ↔ ∃ digits, Announces digits text ∧ DigitsOf digits id := by
  constructor
  · intro h
    induction text using dropMarks.induct with
    | case1 rest ih =>
      obtain ⟨digits, hannounces, hdigits⟩ := ih h
      exact ⟨digits, .mark hannounces, hdigits⟩
    | case2 text hmark =>
      rw [dropMarks] at h
      · obtain ⟨digits, rfl | rfl, hdigits⟩ := readChainId_eq_some.mp h
        · exact ⟨_, .bare, hdigits⟩
        · exact ⟨digits, .plus, hdigits⟩
      · exact hmark
  · rintro ⟨digits, hannounces, hdigits⟩
    induction hannounces with
    | bare =>
      rw [dropMarks_of_isDigit hdigits.2.1]
      exact readChainId_eq_some.mpr ⟨digits, .inl rfl, hdigits⟩
    | plus => exact readChainId_eq_some.mpr ⟨digits, .inr rfl, hdigits⟩
    | mark _ ih => exact ih

theorem readChain_eq_some {result : Json} :
    readChain result = some id ↔ ∃ text digits, result = .text text ∧
      Announces digits text.toList ∧ DigitsOf digits id := by
  unfold readChain
  cases result with
  | text s => simp [Json.asText?, readChainId_dropMarks]
  | null | bool b | number n | array items | members fields => simp [Json.asText?]

/-! ## The two readings -/

/-- Nothing stands before digits and low lines that lead to digits. -/
theorem Announces.eq_of_digits {digits : List Char} (h : Announces digits text)
    (hall : ∀ c ∈ text, Hex.isDigit c = true ∨ c = '_') : text = digits := by
  cases h with
  | bare => rfl
  | plus => nomatch hall '+' (by simp)
  | mark _ => nomatch hall 'x' (by simp)

/-- Both readings give a number only on a text of one mark and digits, and it is the number that the digits write. -/
theorem readChain_and_readNonce {result : Json} {n : UInt64} :
    readChain result = some id ∧ Account.readNonce result = some n ↔
      id = n ∧ ∃ digits, result = .text (String.ofList ('0' :: 'x' :: digits)) ∧ DigitsOf digits id := by
  rw [readChain_eq_some, Account.readNonce_eq_some]
  constructor
  · rintro ⟨⟨text, digits, rfl, hannounces, hdigits⟩, h | ⟨text', digits', h, hmarked, hsome, hall, hvalue⟩⟩
    · nomatch h
    cases h
    rcases hmarked with hsmall | hcapital
    · rw [hsmall] at hannounces
      -- the first mark is the only one
      cases hannounces with
      | bare => nomatch hdigits.2.1 'x' (by simp)
      | mark hannounces =>
        obtain rfl := hannounces.eq_of_digits hall
        refine ⟨UInt64.toNat_inj.mp (hdigits.2.2.symm.trans hvalue), digits', ?_, hdigits⟩
        rw [← hsmall, String.ofList_toList]
    · rw [hcapital] at hannounces
      cases hannounces with
      | bare => nomatch hdigits.2.1 'X' (by simp)
  · rintro ⟨rfl, digits, rfl, hdigits⟩
    refine ⟨⟨_, digits, rfl, ?_, hdigits⟩, .inr ⟨_, digits, rfl, .inl String.toList_ofList, hdigits.1,
      fun c hc => .inl (hdigits.2.1 c hc), hdigits.2.2⟩⟩
    rw [String.toList_ofList]
    exact .mark .bare

/-! ## Asking for the number -/

variable (client : Client) (node : Node) (j : Journal)

/-- The request for the number of the network. -/
def chainIdRequest : Request := ⟨"eth_chainId", []⟩

theorem run_fetchChainId :
    client.fetchChainId.run.run node j =
      ((node j.requests chainIdRequest).told "eth_chainId" readChain .badChainId, j.looked node chainIdRequest) := by
  have hask : client.fetchChainId = client.askFor .chainId readChain .badChainId := by
    refine bind_congr fun result => ?_
    unfold readChain
    cases result.asText?.bind fun s => readChainId (dropMarks s.toList) <;> rfl
  rw [hask]
  exact client.run_askFor node j rfl readChain .badChainId

theorem fetchChainId_eq_ok {id : UInt64} :
    (client.fetchChainId.run.run node j).1 = .ok id ↔ (node j.requests chainIdRequest).Tells readChain id := by
  rw [run_fetchChainId]
  exact Reply.told_eq_ok

/-- The network is the right one when its number is fetched and is that of the settings. -/
theorem verifyChainId_eq_ok :
    (client.verifyChainId.run.run node j).1 = .ok () ↔
      (client.fetchChainId.run.run node j).1 = .ok client.settings.chainId := by
  unfold verifyChainId
  rw [Attempt.run_bind]
  generalize client.fetchChainId.run.run node j = first
  obtain ⟨outcome, j'⟩ := first
  cases outcome with
  | error error => exact ⟨nofun, nofun⟩
  | ok actual =>
    dsimp only
    rw [Except.ok.injEq]
    split
    · rename_i heq
      exact ⟨fun _ => heq, fun _ => rfl⟩
    · rename_i hne
      exact ⟨nofun, fun heq => absurd heq hne⟩

/-! ## What a reply tells of it -/

variable {reply : Reply} {id n : UInt64}

theorem tells_readChain_iff :
    reply.Tells readChain id ↔
      ∃ text digits, reply.Grants (.text text) ∧ Announces digits text.toList ∧ DigitsOf digits id := by
  unfold Reply.Tells
  simp only [readChain_eq_some]
  constructor
  · rintro ⟨-, hgrants, text, digits, rfl, hannounces, hdigits⟩
    exact ⟨text, digits, hgrants, hannounces, hdigits⟩
  · rintro ⟨text, digits, hgrants, hannounces, hdigits⟩
    exact ⟨.text text, hgrants, text, digits, rfl, hannounces, hdigits⟩

theorem tellsNonce_iff_written :
    reply.TellsNonce n ↔ reply.Grants (.number (.natural n)) ∨
      ∃ text digits, reply.Grants (.text text) ∧
        (text.toList = '0' :: 'x' :: digits ∨ text.toList = '0' :: 'X' :: digits) ∧
        digits ≠ [] ∧ (∀ c ∈ digits, Hex.isDigit c = true ∨ c = '_') ∧ value digits = n.toNat := by
  rw [Reply.tellsNonce_iff_readNonce, Reply.Tells]
  simp only [Account.readNonce_eq_some]
  constructor
  · rintro ⟨-, hgrants, rfl | ⟨text, digits, rfl, hwritten⟩⟩
    · exact .inl hgrants
    · exact .inr ⟨text, digits, hgrants, hwritten⟩
  · rintro (hgrants | ⟨text, digits, hgrants, hwritten⟩)
    · exact ⟨_, hgrants, .inl rfl⟩
    · exact ⟨_, hgrants, .inr ⟨text, digits, rfl, hwritten⟩⟩

/-- A number of the network and a nonce are told by one reply only when they are one number, and digits after one mark
write it. -/
theorem tells_readChain_and_tellsNonce :
    reply.Tells readChain id ∧ reply.TellsNonce n ↔
      id = n ∧ ∃ digits, reply.Grants (.text (String.ofList ('0' :: 'x' :: digits))) ∧ DigitsOf digits id := by
  rw [Reply.tellsNonce_iff_readNonce, Reply.tells_and_tells]
  simp only [readChain_and_readNonce]
  constructor
  · rintro ⟨-, hgrants, rfl, digits, rfl, hdigits⟩
    exact ⟨rfl, digits, hgrants, hdigits⟩
  · rintro ⟨rfl, digits, hgrants, hdigits⟩
    exact ⟨_, hgrants, rfl, digits, rfl, hdigits⟩

/-! ## Main statement -/

/-- The number of the network is fetched exactly when the node grants a text that leads to digits which write it, and
the check of the network passes exactly when that is the number of the settings. A number is told as all others are by
a number of the document, or by a text of something after one mark, of digits and low lines only. Both are so only by
a text of one mark and digits, and then they are the same number. -/
theorem fetchChainId_reads (client : Client) (node : Node) (j : Journal) :
    (∀ id, (client.fetchChainId.run.run node j).1 = .ok id ↔
      ∃ text digits, (node j.requests chainIdRequest).Grants (.text text) ∧
        Announces digits text.toList ∧ DigitsOf digits id) ∧
    ((client.verifyChainId.run.run node j).1 = .ok () ↔
      (client.fetchChainId.run.run node j).1 = .ok client.settings.chainId) ∧
    (∀ n, (node j.requests chainIdRequest).TellsNonce n ↔
      (node j.requests chainIdRequest).Grants (.number (.natural n)) ∨
        ∃ text digits, (node j.requests chainIdRequest).Grants (.text text) ∧
          (text.toList = '0' :: 'x' :: digits ∨ text.toList = '0' :: 'X' :: digits) ∧ digits ≠ [] ∧
            (∀ c ∈ digits, Hex.isDigit c = true ∨ c = '_') ∧ value digits = n.toNat) ∧
    ∀ id n, (client.fetchChainId.run.run node j).1 = .ok id ∧ (node j.requests chainIdRequest).TellsNonce n ↔
      id = n ∧ ∃ digits, (node j.requests chainIdRequest).Grants (.text (String.ofList ('0' :: 'x' :: digits))) ∧
        DigitsOf digits id := by
  refine ⟨?_, client.verifyChainId_eq_ok node j, fun n => tellsNonce_iff_written, ?_⟩
  · intro id
    rw [fetchChainId_eq_ok]
    exact tells_readChain_iff
  · intro id n
    rw [fetchChainId_eq_ok]
    exact tells_readChain_and_tellsNonce

/-- The response whose result is a text of one digit without a mark. -/
def unmarkedBody : String := "\x7b\"result\":\"1\"\x7d"

/-- The response whose result is the number one. -/
def numberBody : String := "\x7b\"result\":1\x7d"

/-- A network is taken for the right one though no number is told, and a number is told that is not fetched. -/
theorem tellsNonce_of_verifyChainId_false :
    (¬∀ (client : Client) (node : Node) (j : Journal), (client.verifyChainId.run.run node j).1 = .ok () ↔
      (node j.requests chainIdRequest).TellsNonce client.settings.chainId) ∧
    ¬∀ (client : Client) (node : Node) (j : Journal) (id : UInt64), (client.fetchChainId.run.run node j).1 = .ok id ↔
      (node j.requests chainIdRequest).TellsNonce id := by
  constructor
  · intro h
    have hchain : ((Json.parse? unmarkedBody).bind (·.get? "result")).bind readChain = some 1 := by decide +kernel
    have hnonce : ((Json.parse? unmarkedBody).bind (·.get? "result")).bind Account.readNonce = none := by decide +kernel
    obtain ⟨result, hresult, hread⟩ := Option.bind_eq_some_iff.mp hchain
    have hgrants := Reply.grants_of_get? hresult
    have hverified : (((Client.mk {}).verifyChainId).run.run (fun _ _ => .ok unmarkedBody) {}).1 = .ok () :=
      (verifyChainId_eq_ok _ _ _).mpr ((fetchChainId_eq_ok _ _ _).mpr (hgrants.tells_iff.mpr hread))
    have htold := hgrants.tells_iff.mp (Reply.tellsNonce_iff_readNonce.mp ((h _ _ _).mp hverified))
    rw [hresult, Option.bind_some, htold] at hnonce
    nomatch hnonce
  · intro h
    have hnonce : ((Json.parse? numberBody).bind (·.get? "result")).bind Account.readNonce = some 1 := by decide +kernel
    have hchain : ((Json.parse? numberBody).bind (·.get? "result")).bind readChain = none := by decide +kernel
    obtain ⟨result, hresult, hread⟩ := Option.bind_eq_some_iff.mp hnonce
    have hgrants := Reply.grants_of_get? hresult
    have hfetched := (h ⟨{}⟩ (fun _ _ => .ok numberBody) {} 1).mpr
      (Reply.tellsNonce_iff_readNonce.mpr (hgrants.tells_iff.mpr hread))
    have htold := hgrants.tells_iff.mp ((fetchChainId_eq_ok _ _ _).mp hfetched)
    rw [hresult, Option.bind_some, htold] at hchain
    nomatch hchain

end Client

end DynamicFeeWallet
