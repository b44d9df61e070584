import DynamicFeeWallet.Proofs.Address
import DynamicFeeWallet.Proofs.Json.Members
import DynamicFeeWallet.Proofs.Node.Estimation
import DynamicFeeWallet.Proofs.Request.Argument
import DynamicFeeWallet.Proofs.Wallet.Steps

/-!
# The call objects of transactions pass the check of requests

Call objects are written in one place and checked in another. What is written passes, member by member: addresses with
their checksums, quantities, data, and the storage keys of any access list. The sender alone may be missing, and then
the object is refused for it (`Argument.checkCall_callObject`) and nothing is sent.
-/

namespace DynamicFeeWallet

/-! ## Texts -/

namespace Argument

/-- A row passes when every item does. -/
theorem forM_eq_ok {α : Type} {check : α → Except ArgumentError Unit} {items : List α} :
    items.forM check = .ok () ↔ ∀ item ∈ items, check item = .ok () := by
  induction items with
  | nil => exact ⟨fun _ => nofun, fun _ => rfl⟩
  | cons item items ih =>
    have hcons : (item :: items).forM check = check item >>= fun _ => items.forM check := rfl
    rw [hcons, List.forall_mem_cons, ← ih]
    cases check item with
    | error error => exact ⟨nofun, fun h => nomatch h.1⟩
    | ok checked => exact ⟨fun h => ⟨rfl, h⟩, fun h => h.2⟩

/-- A quantity passes for hexadecimal data. -/
theorem checkHex_render (n : Nat) : checkHex (Quantity.render n) = .ok () :=
  checkHex_eq_ok.mpr (isHex_ofList (Hex.isDigit_of_mem_toDigits n))

/-- Bytes pass for hexadecimal data. -/
theorem checkHex_encode (bytes : Bytes) : checkHex (Hex.encode bytes) = .ok () :=
  checkHex_eq_ok.mpr (isHex_ofList (Hex.isDigit_of_mem_digits bytes))

/-- A hash passes for one. -/
theorem checkHash_toHex (hash : Hash) : checkHash hash.toHex = .ok () := checkHash_eq_ok.mpr (isHash_toHex hash)

theorem checkAddress_checksum (a : Address) : checkAddress a.checksum = .ok () := ensure_eq_ok.mpr a.isAddress_checksum

/-! ## Access lists -/

/-- An item of an access list passes as it is written. -/
theorem checkAccessItem_written (a : Address) (keys : List Hash) :
    checkAccessItem
      (.members [("address", .text a.checksum), ("storageKeys", .array (keys.map fun key => .text key.toHex))]) =
      .ok () := by
  have hkeys : (keys.map fun key => Json.text key.toHex).forM checkStorageKey = .ok () := by
    refine forM_eq_ok.mpr fun key hkey => ?_
    obtain ⟨hash, -, rfl⟩ := List.mem_map.mp hkey
    exact checkHash_toHex hash
  have haddress := checkAddress_checksum a
  unfold checkAccessItem
  change (do checkAddress a.checksum; (keys.map fun key : Hash => Json.text key.toHex).forM checkStorageKey) = _
  rw [haddress, hkeys]
  rfl

/-- An access list of any length passes. -/
theorem checkAccessList_written (items : List AccessItem) : checkAccessList (some (accessListJson items)) = .ok () := by
  refine forM_eq_ok.mpr fun item hitem => ?_
  obtain ⟨announced, -, rfl⟩ := List.mem_map.mp hitem
  exact checkAccessItem_written announced.address announced.storageKeys

end Argument

/-! ## Members -/

/-- The members of a call object by their names. -/
def callMember (sender destination : Option Address) (value : UInt256) (data : Bytes) (nonce : UInt256) (chainId : UInt64)
    (accessList : List AccessItem) : String → Option Json
  | "accessList" => if accessList.isEmpty then none else some (accessListJson accessList)
  | "chainId" => some (quantityJson chainId.toNat)
  | "data" => if data.isEmpty then none else some (.text (Hex.encode data))
  | "from" => sender.map fun a => .text a.checksum
  | "nonce" => some (quantityJson nonce.toNat)
  | "to" => destination.map fun a => .text a.checksum
  | "value" => some (quantityJson value.toNat)
  | _ => none

namespace Members

variable (name n : String)

theorem get?_singleton (v : Json) : get? [(n, v)] name = if name = n then some v else none := get?_cons n name v []

/-- A member that may be left out is found when it is not. -/
theorem get?_unless (v : Json) (c : Bool) :
    get? (if c then [] else [(n, v)]) name = if name = n then (if c then none else some v) else none := by
  cases c
  · exact get?_singleton name n v
  · exact (ite_self none).symm

/-- A member that may be missing is found when it is there. -/
theorem get?_option {α : Type} (o : Option α) (f : α → Json) :
    get? (o.toList.map fun a => (n, f a)) name = if name = n then o.map f else none := by
  cases o
  · exact (ite_self none).symm
  · exact get?_singleton name n _

/-- Of two rows of members, the first one is searched first. -/
theorem get?_append (fields fields' : Members) :
    get? (fields ++ fields') name = (get? fields name).or (get? fields' name) :=
  List.lookup_append

end Members

section

variable (sender destination : Option Address) (value : UInt256) (data : Bytes) (nonce : UInt256) (chainId : UInt64)
  (accessList : List AccessItem)

/-- A call object has these members and no others. -/
theorem get?_callObject (name : String) :
    (callObject sender destination value data nonce chainId accessList).get? name =
      callMember sender destination value data nonce chainId accessList name := by
  unfold callMember
  -- one case for each name that a call object may have, and one for all others
  split
  all_goals
    simp only [callObject, Json.get?, Members.get?_append, Members.get?_unless,
      Members.get?_singleton, Members.get?_option]
    simp_all

namespace Argument

/-- Quantities and data pass, and so do members that are missing. -/
theorem checkHex_callMember {name : String} (h : name ∈ callHexFields) :
    checkOptionalText checkHex (.badField name) (callMember sender destination value data nonce chainId accessList name) =
      .ok () := by
  have hquantity (n : Nat) : checkOptionalText checkHex (.badField name) (some (quantityJson n)) =
      .ok () := checkHex_render n
  unfold callMember
  split
  case h_1 => exact absurd h (by decide)
  case h_2 => exact hquantity _
  case h_3 =>
    cases data.isEmpty
    · exact checkHex_encode data
    · rfl
  case h_4 => exact absurd h (by decide)
  case h_5 => exact hquantity _
  case h_6 => exact absurd h (by decide)
  case h_7 => exact hquantity _
  case h_8 => rfl

/-- A call object passes when it has a sender, and is refused for the lack of one otherwise. -/
theorem checkCall_callObject :
    checkCall (callObject sender destination value data nonce chainId accessList) =
      if sender.isSome then .ok () else .error .notAddress := by
  obtain ⟨fields, hfields⟩ : ∃ fields : Members,
      callObject sender destination value data nonce chainId accessList = .members fields := ⟨_, rfl⟩
  have hmember (name : String) :
      Members.get? fields name = callMember sender destination value data nonce chainId accessList name := by
    rw [← get?_callObject, hfields]
    rfl
  have hsender : checkSender (Members.get? fields "from") = if sender.isSome then .ok () else .error .notAddress := by
    rw [hmember]
    cases sender with
    | none => rfl
    | some a => exact checkAddress_checksum a
  have hdestination : checkOptionalText checkAddress (.badField "to") (Members.get? fields "to") = .ok () := by
    rw [hmember]
    cases destination with
    | none => rfl
    | some a => exact checkAddress_checksum a
  have hhex :
      (callHexFields.forM fun name => checkOptionalText checkHex (.badField name) (Members.get? fields name)) =
      .ok () := by
    refine forM_eq_ok.mpr fun name hname => ?_
    rw [hmember]
    exact checkHex_callMember sender destination value data nonce chainId accessList hname
  have haccess : checkAccessList (Members.get? fields "accessList") = .ok () := by
    rw [hmember, callMember]
    cases accessList.isEmpty
    · exact checkAccessList_written accessList
    · rfl
  rw [hfields, checkCall, hsender, hdestination, hhex, haccess]
  cases sender <;> rfl

end Argument

end

/-! ## Main statement -/

/-- It is known who sends the transaction: a sender was declared, or one is found by the signature. -/
def Transaction.HasSender (t : Transaction) : Prop := t.declaredSender.isSome = true ∨ ∃ a, t.readSender.1 = .ok a

namespace Transaction

variable (t : Transaction)

/-- A sender is known when one is declared or can be read. -/
theorem hasSender_iff : t.HasSender ↔ (t.declaredSender.or t.readSender.1.toOption).isSome = true := by
  unfold HasSender
  cases t.declaredSender with
  | some a => simp
  | none => cases t.readSender.1 <;> simp [Except.toOption]

/-- The call object passes its check exactly when it is known who sends the transaction. -/
theorem checkCall_readCallObject [Decidable t.HasSender] :
    Argument.checkCall t.readCallObject.1 = if t.HasSender then .ok () else .error .notAddress := by
  rw [readCallObject_fst, callObjectOf, Argument.checkCall_callObject]
  simp only [hasSender_iff]

end Transaction

/-- The call object of every skeleton is taken for the request of a gas estimation as it is. So is that of every
transaction, whatever was done with it, if it is known who sends it; otherwise the request is refused for the lack of
an address, and so is the pricing of the transaction, which sends nothing then. -/
theorem request_estimateGas_callObject :
    (∀ sk : Skeleton, (Call.estimateGas sk.callObject).request = .ok ⟨"eth_estimateGas", [sk.callObject]⟩) ∧
      ∀ t : Transaction,
        (t.HasSender ∧ (Call.estimateGas t.readCallObject.1).request = .ok ⟨"eth_estimateGas", [t.readCallObject.1]⟩) ∨
          (¬t.HasSender ∧ (Call.estimateGas t.readCallObject.1).request = .error .notAddress ∧
            ∀ (w : Wallet) (node : Node) (j : Journal),
              (w.reprice t).run node j = ((.error (.argument .notAddress), t.readCallObject.2), j)) := by
  classical
  constructor
  · intro sk
    rw [request_estimateGas, Skeleton.callObject, Argument.checkCall_callObject]
    rfl
  · intro t
    have hcheck := t.checkCall_readCallObject
    by_cases h : t.HasSender
    · rw [if_pos h] at hcheck
      rw [request_estimateGas, hcheck]
      exact Or.inl ⟨h, rfl⟩
    · rw [if_neg h] at hcheck
      rw [request_estimateGas, hcheck]
      refine Or.inr ⟨h, rfl, fun w node j => ?_⟩
      have hrefused : (w.client.estimate t.readCallObject.1).run.run node j = (.error (.argument .notAddress), j) := by
        rw [Client.estimate, Client.run_estimateWith, hcheck]
      rw [Wallet.run_reprice, hrefused]
      rfl

end DynamicFeeWallet
