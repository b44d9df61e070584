import DynamicFeeWallet.Proofs.Quantity
import DynamicFeeWallet.Proofs.Request.CallObject
import DynamicFeeWallet.Proofs.Wallet.LifeCycle

/-!
# What is priced is what will be signed

A call object tells the skeleton that it was written for: what its members say can be told from them, and so can that
a member is left out (`Skeleton.eq_of_get?_callObject`). A transaction that was built is asked about by the call
object of its skeleton, with the nonce that was set last, whatever else was done with it
(`Transaction.readCallObject_after`).
-/

namespace DynamicFeeWallet

/-! ## Members -/

theorem quantityJson_injective : Function.Injective quantityJson := by
  intro m n h
  exact Quantity.render_injective (Json.text.inj h)

theorem FixedBytes.toHex_injective (n : Nat) : Function.Injective (@FixedBytes.toHex n) := by
  intro a b h
  exact FixedBytes.ext (Hex.encode_injective h)

/-- An access list is told item by item and key by key, in their order. -/
theorem accessListJson_injective : Function.Injective accessListJson := by
  intro items items' h
  refine (List.map_inj_right ?_).mp (Json.array.inj h)
  rintro ⟨address, keys⟩ ⟨address', keys'⟩ hitem
  simp only [Json.members.injEq, List.cons.injEq, Prod.mk.injEq, Json.text.injEq, Json.array.injEq,
    true_and, and_true] at hitem
  obtain ⟨haddress, hkeys⟩ := hitem
  rw [Address.checksum_injective haddress,
    (List.map_inj_right fun _ _ hkey => FixedBytes.toHex_injective 32 (Json.text.inj hkey)).mp hkeys]

/-- A row that is left out when it is empty can be told from what stands for it, or from its lack. -/
theorem eq_of_unlessEmpty_eq {α : Type} {f : List α → Json} (hf : Function.Injective f) {xs ys : List α}
    (h : (if xs.isEmpty then none else some (f xs)) = if ys.isEmpty then none else some (f ys)) : xs = ys := by
  cases xs with
  | nil =>
    cases ys with
    | nil => rfl
    | cons y ys => nomatch h
  | cons x xs =>
    cases ys with
    | nil => nomatch h
    | cons y ys => exact hf (Option.some.inj h)

/-- So can an address that may be missing. -/
theorem eq_of_map_checksum_eq {a b : Option Address}
    (h : (a.map fun a => Json.text a.checksum) = b.map fun b => .text b.checksum) :
    a = b := by
  refine Option.map_injective (fun _ _ htext => ?_) h
  exact Address.checksum_injective (Json.text.inj htext)

namespace Skeleton

variable {sk sk' : Skeleton}

/-- Skeletons whose call objects have the same members are the same. -/
theorem eq_of_get?_callObject (h : ∀ name, sk.callObject.get? name = sk'.callObject.get? name) : sk = sk' := by
  have hmember (name : String) :
      callMember (some sk.sender) sk.destination sk.value sk.data sk.nonce sk.chainId sk.accessList name =
        callMember (some sk'.sender) sk'.destination sk'.value sk'.data sk'.nonce sk'.chainId sk'.accessList name := by
    rw [← get?_callObject, ← get?_callObject]
    exact h name
  have hsender : some sk.sender = some sk'.sender := eq_of_map_checksum_eq (hmember "from")
  have hdestination : sk.destination = sk'.destination := eq_of_map_checksum_eq (hmember "to")
  have hvalue : sk.value = sk'.value := UInt256.ext (quantityJson_injective (Option.some.inj (hmember "value")))
  have hdata : sk.data = sk'.data :=
    eq_of_unlessEmpty_eq (fun _ _ htext => Hex.encode_injective (Json.text.inj htext)) (hmember "data")
  have hnonce : sk.nonce = sk'.nonce := UInt256.ext (quantityJson_injective (Option.some.inj (hmember "nonce")))
  have hchainId : sk.chainId = sk'.chainId :=
    UInt64.toNat_inj.mp (quantityJson_injective (Option.some.inj (hmember "chainId")))
  have haccessList : sk.accessList = sk'.accessList :=
    eq_of_unlessEmpty_eq accessListJson_injective (hmember "accessList")
  cases sk
  cases sk'
  cases hsender
  cases hdestination
  cases hvalue
  cases hdata
  cases hnonce
  cases hchainId
  cases haccessList
  rfl

end Skeleton

/-! ## Over the life of a transaction -/

/-- No turn changes who sends the transaction. -/
theorem BareTransaction.Turn.declaredSender_eq {t u : BareTransaction} (h : Turn t u) :
    u.declaredSender = t.declaredSender := by
  cases h <;> rfl

/-- Steps that set no nonce leave the one there is. -/
theorem lastNonce_eq {steps : List Step} (h : ∀ nonce, .act (.setNonce nonce) ∉ steps) (nonce : UInt256) :
    lastNonce nonce steps = nonce := by
  induction steps with
  | nil => rfl
  | cons s steps ih =>
    have hkept : s.nonceAfter nonce = nonce := by
      cases s with
      | act action =>
        cases action with
        | setNonce new => exact absurd List.mem_cons_self (h new)
        | _ => rfl
      | _ => rfl
    have hrest := ih fun new hmem => h new (List.mem_cons_of_mem s hmem)
    rw [lastNonce, List.foldl_cons, hkept]
    exact hrest

namespace Transaction

theorem declaredSender_after (t : Transaction) (steps : List Step) :
    (t.after steps).declaredSender = t.declaredSender := by
  have hkept : ∀ {u v : BareTransaction}, u.Turn v → u.declaredSender = t.declaredSender →
      v.declaredSender = t.declaredSender :=
    fun hturn hu => hturn.declaredSender_eq.trans hu
  exact bare_after (P := fun u => u.declaredSender = t.declaredSender) hkept rfl steps

/-- Whatever was done with a transaction that was built, it is asked about by the call object of its skeleton, with
the nonce that was set last. -/
theorem readCallObject_after (sk : Skeleton) (level : FeeLevel) (steps : List Step) :
    ((ofSkeleton sk level).after steps).readCallObject.1 = { sk with nonce := lastNonce sk.nonce steps }.callObject := by
  have hsays := (says_ofSkeleton sk level).after steps
  have hsender : ((ofSkeleton sk level).after steps).declaredSender = some sk.sender := declaredSender_after _ steps
  rw [readCallObject_fst, hsender, callObjectOf, hsays.chainId, hsays.nonce, hsays.destination, hsays.value,
    hsays.data, hsays.accessList]
  rfl

end Transaction

/-! ## Main statement -/

/-- Skeletons with the same call object are the same. The transaction of a skeleton is asked about by the call object
of the skeleton, when it is built and after any steps that do not set its nonce: gas limits, fees and fee levels that
are set or refused, pricings, readings and signings with any key. -/
theorem callObject_tells_skeleton :
    Function.Injective Skeleton.callObject ∧
      ∀ (sk : Skeleton) (level : FeeLevel), (Transaction.ofSkeleton sk level).readCallObject.1 = sk.callObject ∧
        ∀ steps : List Step, (∀ nonce, .act (.setNonce nonce) ∉ steps) →
          ((Transaction.ofSkeleton sk level).after steps).readCallObject.1 = sk.callObject := by
  refine ⟨?_, fun sk level => ⟨rfl, fun steps hsteps => ?_⟩⟩
  · intro sk sk' h
    refine Skeleton.eq_of_get?_callObject fun name => ?_
    rw [h]
  · rw [Transaction.readCallObject_after, lastNonce_eq hsteps]

/-- A call with data that announces a storage key. -/
def listedCall : Skeleton where
  sender := .replicate 20 0x22
  destination := some (.replicate 20 0x33)
  data := [0xde, 0xad]
  nonce := .ofUInt64 5
  chainId := 1
  accessList := [⟨.replicate 20 0x44, [.replicate 32 0]⟩]

/-- A call is asked about as it was built after it is priced for another level and signed, and a call that announces
nothing is asked about differently. -/
theorem callObject_tells_skeleton_priced :
    ((Transaction.ofSkeleton listedCall .low).after
      (.act (.setFeeLevel .high) :: saturatingSteps ++ [.act (.sign ⟨1, by decide, by decide⟩)])).readCallObject.1 =
        listedCall.callObject ∧
      { listedCall with accessList := [] }.callObject ≠ listedCall.callObject := by
  obtain ⟨hinjective, hkept⟩ := callObject_tells_skeleton
  constructor
  · refine (hkept listedCall .low).2 _ ?_
    simp [saturatingSteps]
  · intro h
    have hlist := congrArg Skeleton.accessList (hinjective h)
    nomatch hlist

end DynamicFeeWallet
