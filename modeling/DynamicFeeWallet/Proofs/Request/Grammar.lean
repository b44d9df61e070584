import DynamicFeeWallet.Proofs.Request.Argument
import DynamicFeeWallet.Request.Call

/-!
# The grammar of call objects

What a call object has to be is said member by member as a grammar (`Argument.IsCallObject`), and as a row of rules in
the order in which they are looked at (`Argument.callRules`). Rules of parts are put together to the rules of the
whole, and so are the checks that follow them (`Rule.Follows.bind`, `Rule.Follows.forM`). So what is refused is
refused for the first rule that it breaks, however deep in an access list (`obeys_callRules`).
-/

namespace DynamicFeeWallet

/-! ## Members -/

namespace Json

variable (v : Json)

/-- The value is an object. -/
def IsObject : Prop := ∃ fields, v = .members fields

/-- The value is a text of which this holds. -/
def IsText (P : String → Prop) : Prop := ∃ s, v = .text s ∧ P s

/-- The value is a row, and this holds of each item. -/
def IsArray (P : Json → Prop) : Prop := ∃ items, v = .array items ∧ ∀ item ∈ items, P item

/-- There is no member of this name, or it is `null`. -/
def Lacks (name : String) : Prop := v.get? name = none ∨ v.get? name = some .null

/-- There is a member of this name, and this holds of it. -/
def Has (name : String) (P : Json → Prop) : Prop := ∃ value, v.get? name = some value ∧ P value

/-- The member of this name may be missing or `null`, and otherwise this holds of it. -/
def MayHave (name : String) (P : Json → Prop) : Prop := v.Lacks name ∨ v.Has name P

/-- The items of the member of this name, if it is a row. -/
def row (name : String) : List Json := ((v.get? name).bind asArray?).getD []

variable {v} {name : String} {P Q : Json → Prop}

/-- A text of which something holds is a text. -/
theorem isText_of_isText {P : String → Prop} (h : v.IsText P) : v.IsText fun _ => True := by
  obtain ⟨s, rfl, -⟩ := h
  exact ⟨s, rfl, trivial⟩

/-- What is held of a member may be said in weaker terms. -/
theorem Has.mono (h : v.Has name P) (himp : ∀ value, P value → Q value) : v.Has name Q := by
  obtain ⟨value, hvalue, hP⟩ := h
  exact ⟨value, hvalue, himp value hP⟩

/-- What is held of a member that may be missing may be said in weaker terms. -/
theorem MayHave.mono (h : v.MayHave name P) (himp : ∀ value, P value → Q value) : v.MayHave name Q :=
  h.imp_right fun h => h.mono himp

/-- Of a member that is there, what is said is said of its value. -/
theorem has_iff_of_get?_eq_some {value : Json} (h : v.get? name = some value) : v.Has name P ↔ P value := by
  simp [Has, h]

theorem not_has_of_get?_eq_none (h : v.get? name = none) : ¬v.Has name P := by
  simp [Has, h]

/-- A member that may be missing, and is there, is `null` or what it may be. -/
theorem mayHave_iff_of_get?_eq_some {value : Json} (h : v.get? name = some value) :
    v.MayHave name P ↔ value = .null ∨ P value := by
  rw [MayHave, has_iff_of_get?_eq_some h]
  simp [Lacks, h]

theorem mayHave_of_get?_eq_none (h : v.get? name = none) : v.MayHave name P := Or.inl (Or.inl h)

/-- The items of a row are the items of the member. -/
theorem row_eq {items : List Json} (h : v.get? name = some (.array items)) : v.row name = items := by
  rw [row, h]
  rfl

/-- A member that is missing has no items. -/
theorem row_of_lacks (h : v.Lacks name) : v.row name = [] := by
  rcases h with h | h <;> rw [row, h] <;> rfl

theorem isText_text {P : String → Prop} {s : String} : (text s).IsText P ↔ P s := by simp [IsText]

theorem isArray_array {items : List Json} : (array items).IsArray P ↔ ∀ item ∈ items, P item := by simp [IsArray]

end Json

/-! ## Rules -/

/-- A condition on an argument, with what is told when it does not hold. -/
structure Rule where
  (holds : Prop) (error : ArgumentError)

namespace Rule

/-- All these rules hold. -/
def AllHold (rules : List Rule) : Prop := ∀ r ∈ rules, r.holds

/-- The first of the rules that does not hold tells this. -/
def Breaks (rules : List Rule) (error : ArgumentError) : Prop :=
  ∃ before broken after, rules = before ++ broken :: after ∧ AllHold before ∧ ¬broken.holds ∧ broken.error = error

/-- This comes of going through the rules in their order, up to the first one that does not hold. -/
inductive Follows : List Rule → Except ArgumentError Unit → Prop where
  | done : Follows [] (.ok ())
  | kept {r : Rule} {rules : List Rule} {outcome : Except ArgumentError Unit} (h : r.holds)
    (rest : Follows rules outcome) :
      Follows (r :: rules) outcome
  | broken {r : Rule} {rules : List Rule} (h : ¬r.holds) : Follows (r :: rules) (.error r.error)

variable {r : Rule} {rules rules' : List Rule} {error : ArgumentError} {outcome : Except ArgumentError Unit}

@[simp] theorem allHold_nil : AllHold [] := nofun

@[simp] theorem allHold_cons : AllHold (r :: rules) ↔ r.holds ∧ AllHold rules := List.forall_mem_cons

@[simp] theorem allHold_append : AllHold (rules ++ rules') ↔ AllHold rules ∧ AllHold rules' := List.forall_mem_append

@[simp] theorem allHold_flatMap {α : Type} {rulesOf : α → List Rule} {items : List α} :
    AllHold (items.flatMap rulesOf) ↔ ∀ item ∈ items, AllHold (rulesOf item) := List.forall_mem_flatMap

/-- Where there are no rules, none is broken. -/
theorem not_breaks_nil : ¬Breaks [] error := by
  rintro ⟨before, broken, after, hrules, -⟩
  exact List.append_ne_nil_of_right_ne_nil before (List.cons_ne_nil broken after) hrules.symm

/-- The first rule is broken, or it holds and one of the others is the first that is broken. -/
theorem breaks_cons : Breaks (r :: rules) error ↔ ¬r.holds ∧ r.error = error ∨ r.holds ∧ Breaks rules error := by
  constructor
  · rintro ⟨before, broken, after, hrules, hbefore, hbroken, herror⟩
    cases before with
    | nil =>
      cases hrules
      exact Or.inl ⟨hbroken, herror⟩
    | cons first before =>
      cases hrules
      obtain ⟨hfirst, hbefore⟩ := allHold_cons.mp hbefore
      exact Or.inr ⟨hfirst, before, broken, after, rfl, hbefore, hbroken, herror⟩
  · rintro (⟨hbroken, herror⟩ | ⟨hholds, before, broken, after, rfl, hbefore, hbroken, herror⟩)
    · exact ⟨[], r, rules, rfl, allHold_nil, hbroken, herror⟩
    · exact ⟨r :: before, broken, after, rfl, allHold_cons.mpr ⟨hholds, hbefore⟩, hbroken, herror⟩

namespace Follows

/-- All is well exactly when all rules hold. -/
theorem eq_ok_iff (h : Follows rules outcome) : outcome = .ok () ↔ AllHold rules := by
  induction h with
  | done => simp
  | kept hr _ ih => simp [ih, hr]
  | broken hr => simp [hr]

/-- An error is told exactly when it is that of the first rule that is broken. -/
theorem eq_error_iff (h : Follows rules outcome) (error : ArgumentError) :
    outcome = .error error ↔ Breaks rules error := by
  induction h with
  | done => exact ⟨nofun, fun hbreaks => absurd hbreaks not_breaks_nil⟩
  | kept hr _ ih => simp [breaks_cons, hr, ih]
  | broken hr => simp [breaks_cons, hr]

/-- A condition that is checked alone. -/
theorem ensure {condition : Bool} {P : Prop} (h : condition = true ↔ P) :
    Follows [⟨P, error⟩] (Argument.ensure condition error) := by
  cases condition with
  | false => exact .broken (mt h.mpr Bool.false_ne_true)
  | true => exact .kept (h.mp rfl) .done

/-- One check after another, which may rest on what the first one has shown. -/
theorem bind {next : Except ArgumentError Unit} (h : Follows rules outcome)
    (hnext : AllHold rules → Follows rules' next) :
    Follows (rules ++ rules') (outcome >>= fun _ => next) := by
  induction h with
  | done => exact hnext allHold_nil
  | kept hr _ ih => exact .kept hr (ih fun hall => hnext (allHold_cons.mpr ⟨hr, hall⟩))
  | broken hr => exact .broken hr

/-- A check of each item of a row. -/
theorem forM {α : Type} {rulesOf : α → List Rule} {check : α → Except ArgumentError Unit}
    (h : ∀ a, Follows (rulesOf a) (check a)) (items : List α) : Follows (items.flatMap rulesOf) (items.forM check) := by
  induction items with
  | nil => exact .done
  | cons item items ih => exact (h item).bind fun _ => ih

end Follows

end Rule

/-! ## Call objects -/

namespace Argument

open Rule

/-- The members of a call object that are hexadecimal data, in the order in which they are looked at. -/
def hexMembers : List String :=
  ["data", "input", "gas", "gasPrice", "maxFeePerGas", "maxPriorityFeePerGas", "value", "nonce", "chainId"]

/-- An item of an access list: an address, and a row of keys of 32 bytes. -/
structure IsAccessItem (item : Json) : Prop where
  address : item.Has "address" (·.IsText fun s => Address.isAddress s = true)
  storageKeys : item.Has "storageKeys" (·.IsArray (·.IsText IsHash))

/-- A call object: it has a sender, and whatever else it has is well-formed. -/
structure IsCallObject (v : Json) : Prop where
  object : v.IsObject
  sender : v.Has "from" (·.IsText fun s => Address.isAddress s = true)
  destination : v.MayHave "to" (·.IsText fun s => Address.isAddress s = true)
  hexFields : ∀ name ∈ hexMembers, v.MayHave name (·.IsText IsHex)
  accessList : v.MayHave "accessList" (·.IsArray IsAccessItem)

section

variable (v : Json)

/-- The sender: a text, if it is given at all, and then an address. -/
def senderRules : List Rule :=
  [⟨v.MayHave "from" (·.IsText fun _ => True), .badField "from"⟩,
    ⟨v.Has "from" (·.IsText fun s => Address.isAddress s = true), .notAddress⟩]

/-- A member that may be missing: a text, and then one of which this holds. -/
def textRules (name : String) (P : String → Prop) (error : ArgumentError) : List Rule :=
  [⟨v.MayHave name (·.IsText fun _ => True), .badField name⟩, ⟨v.MayHave name (·.IsText P), error⟩]

/-- A storage key: a text, hexadecimal data, and 32 bytes of it. -/
def storageKeyRules (key : Json) : List Rule :=
  [⟨key.IsText fun _ => True, .badField "accessList"⟩, ⟨key.IsText IsHex, .notHex⟩, ⟨key.IsText IsHash, .wrongHashLength⟩]

/-- An item of an access list: its address first, and then its keys from left to right. -/
def accessItemRules (item : Json) : List Rule :=
  ⟨item.Has "address" (·.IsText fun _ => True), .badField "accessList"⟩ ::
  ⟨item.Has "address" (·.IsText fun s => Address.isAddress s = true), .notAddress⟩ ::
  ⟨item.Has "storageKeys" (·.IsArray fun _ => True), .badField "accessList"⟩ ::
  (item.row "storageKeys").flatMap storageKeyRules

/-- The access list, if there is one: a row, and then its items from left to right. -/
def accessListRules : List Rule :=
  ⟨v.MayHave "accessList" (·.IsArray fun _ => True), .badField "accessList"⟩ ::
  (v.row "accessList").flatMap accessItemRules

/-- What a call object has to be, in the order in which it is looked at. -/
def callRules : List Rule :=
  ⟨v.IsObject, .badField "callObject"⟩ ::
    (senderRules v ++ (textRules v "to" (fun s => Address.isAddress s = true) .notAddress ++
      ((hexMembers.flatMap fun name => textRules v name IsHex .notHex) ++ accessListRules v)))

/-! ### The rules make up the grammar -/

/-- The rules of the sender say that it is an address; that it is a text first follows. -/
theorem allHold_senderRules : AllHold (senderRules v) ↔ v.Has "from" (·.IsText fun s => Address.isAddress s = true) := by
  simp only [senderRules, allHold_cons, allHold_nil, and_true]
  exact and_iff_right_of_imp fun h => Or.inr (h.mono fun _ => Json.isText_of_isText)

/-- The rules of a member say what is held of it; that it is a text first follows. -/
theorem allHold_textRules (name : String) (P : String → Prop) (error : ArgumentError) :
    AllHold (textRules v name P error) ↔ v.MayHave name (·.IsText P) := by
  simp only [textRules, allHold_cons, allHold_nil, and_true]
  exact and_iff_right_of_imp fun h => h.mono fun _ => Json.isText_of_isText

/-- The rules of a storage key say that it is a hash; that it is a text of digits first follows. -/
theorem allHold_storageKeyRules (key : Json) : AllHold (storageKeyRules key) ↔ key.IsText IsHash := by
  simp only [storageKeyRules, allHold_cons, allHold_nil, and_true]
  constructor
  · exact fun ⟨_, _, hhash⟩ => hhash
  · rintro ⟨s, rfl, hhash⟩
    exact ⟨⟨s, rfl, trivial⟩, ⟨s, rfl, hhash.isHex⟩, ⟨s, rfl, hhash⟩⟩

/-- The rules of an item say that it has an address and a row of keys. -/
theorem allHold_accessItemRules (item : Json) : AllHold (accessItemRules item) ↔ IsAccessItem item := by
  simp only [accessItemRules, allHold_cons, allHold_flatMap, allHold_storageKeyRules]
  constructor
  · rintro ⟨-, haddress, ⟨keys, hkeys, items, rfl, -⟩, hall⟩
    rw [Json.row_eq hkeys] at hall
    exact ⟨haddress, _, hkeys, Json.isArray_array.mpr hall⟩
  · rintro ⟨haddress, keys, hkeys, items, rfl, hall⟩
    rw [Json.row_eq hkeys]
    exact ⟨haddress.mono fun _ => Json.isText_of_isText, haddress, ⟨_, hkeys, items, rfl, fun _ _ => trivial⟩, hall⟩

/-- The rules of an access list say that it is a row of items, if it is given. -/
theorem allHold_accessListRules : AllHold (accessListRules v) ↔ v.MayHave "accessList" (·.IsArray IsAccessItem) := by
  simp only [accessListRules, allHold_cons, allHold_flatMap, allHold_accessItemRules]
  constructor
  · rintro ⟨hlacks | ⟨list, hlist, items, rfl, -⟩, hall⟩
    · exact Or.inl hlacks
    · rw [Json.row_eq hlist] at hall
      exact Or.inr ⟨_, hlist, Json.isArray_array.mpr hall⟩
  · rintro (hlacks | ⟨list, hlist, items, rfl, hall⟩)
    · rw [Json.row_of_lacks hlacks]
      exact ⟨Or.inl hlacks, nofun⟩
    · rw [Json.row_eq hlist]
      exact ⟨Or.inr ⟨_, hlist, items, rfl, fun _ _ => trivial⟩, hall⟩

/-- All rules hold of the call objects and of nothing else. -/
theorem allHold_callRules : AllHold (callRules v) ↔ IsCallObject v := by
  simp only [callRules, allHold_cons, allHold_append, allHold_flatMap, allHold_senderRules,
    allHold_textRules, allHold_accessListRules]
  constructor
  · rintro ⟨hobject, hsender, hdestination, hhex, haccess⟩
    exact ⟨hobject, hsender, hdestination, hhex, haccess⟩
  · rintro ⟨hobject, hsender, hdestination, hhex, haccess⟩
    exact ⟨hobject, hsender, hdestination, hhex, haccess⟩

/-! ### The checks follow the rules -/

/-- The sender is looked at for its kind before it is looked at as an address. -/
theorem follows_senderRules : Follows (senderRules v) (checkSender (v.get? "from")) := by
  cases hfrom : v.get? "from" with
  | none => exact .kept (Json.mayHave_of_get?_eq_none hfrom) (.broken (Json.not_has_of_get?_eq_none hfrom))
  | some value =>
    have hkind := Json.mayHave_iff_of_get?_eq_some (P := (·.IsText fun _ => True)) hfrom
    have haddress := Json.has_iff_of_get?_eq_some (P := (·.IsText fun s => Address.isAddress s = true)) hfrom
    cases value with
    | text s => exact .kept (hkind.mpr (Or.inr ⟨s, rfl, trivial⟩)) (.ensure (haddress.trans Json.isText_text).symm)
    | null => exact .kept (hkind.mpr (Or.inl rfl)) (.broken (mt haddress.mp (by simp [Json.IsText])))
    | bool _ | number _ | array _ | members _ => exact .broken (mt hkind.mp (by simp [Json.IsText]))

/-- A member is looked at for its kind, if it is given, and then tested. -/
theorem follows_textRules (name : String) {test : String → Bool} {P : String → Prop} (h : ∀ s, test s = true ↔ P s)
    (error : ArgumentError) :
    Follows (textRules v name P error)
      (checkOptionalText (fun s => ensure (test s) error) (.badField name) (v.get? name)) := by
  cases hmember : v.get? name with
  | none => exact .kept (Json.mayHave_of_get?_eq_none hmember) (.kept (Json.mayHave_of_get?_eq_none hmember) .done)
  | some value =>
    have hkind := Json.mayHave_iff_of_get?_eq_some (P := (·.IsText fun _ => True)) hmember
    have hmay := Json.mayHave_iff_of_get?_eq_some (P := (·.IsText P)) hmember
    cases value with
    | text s =>
      rw [Json.isText_text, or_iff_right (by simp), ← h s] at hmay
      exact .kept (hkind.mpr (Or.inr ⟨s, rfl, trivial⟩)) (.ensure hmay.symm)
    | null => exact .kept (hkind.mpr (Or.inl rfl)) (.kept (hmay.mpr (Or.inl rfl)) .done)
    | bool _ | number _ | array _ | members _ => exact .broken (mt hkind.mp (by simp [Json.IsText]))

/-- A storage key is looked at for its kind, then for its digits, and then for its length. -/
theorem follows_storageKeyRules (key : Json) : Follows (storageKeyRules key) (checkStorageKey key) := by
  cases key with
  | text s =>
    have hhex : isHex s = true ↔ (Json.text s).IsText IsHex := isHex_eq_true.trans Json.isText_text.symm
    refine .kept ⟨s, rfl, trivial⟩ (Follows.bind (.ensure hhex) fun hall => ?_)
    -- the length is that of a hash only because the digits have been looked at
    obtain ⟨hdigits, -⟩ := allHold_cons.mp hall
    exact .ensure ((hasByteLength_eq_true (Json.isText_text.mp hdigits)).trans Json.isText_text.symm)
  | null | bool _ | number _ | array _ | members _ => exact .broken (by simp [Json.IsText])

/-- The address of an item is looked at before its keys are. -/
theorem follows_accessItemRules (item : Json) : Follows (accessItemRules item) (checkAccessItem item) := by
  unfold checkAccessItem
  cases hmember : item.get? "address" with
  | none => exact .broken (Json.not_has_of_get?_eq_none hmember)
  | some value =>
    have hkind := Json.has_iff_of_get?_eq_some (P := (·.IsText fun _ => True)) hmember
    have haddress := Json.has_iff_of_get?_eq_some (P := (·.IsText fun s => Address.isAddress s = true)) hmember
    cases value with
    | text s =>
      refine .kept (hkind.mpr ⟨s, rfl, trivial⟩)
        (Follows.bind (.ensure (haddress.trans Json.isText_text).symm) fun _ => ?_)
      cases hkeys : item.get? "storageKeys" with
      | none => exact .broken (Json.not_has_of_get?_eq_none hkeys)
      | some row =>
        have hrow := Json.has_iff_of_get?_eq_some (P := (·.IsArray fun _ => True)) hkeys
        cases row with
        | array keys =>
          rw [Json.row_eq hkeys]
          exact .kept (hrow.mpr ⟨keys, rfl, fun _ _ => trivial⟩) (.forM follows_storageKeyRules keys)
        | null | bool _ | number _ | text _ | members _ => exact .broken (mt hrow.mp (by simp [Json.IsArray]))
    | null | bool _ | number _ | array _ | members _ => exact .broken (mt hkind.mp (by simp [Json.IsText]))

/-- An access list is looked at for its kind, if it is given, and then item by item. -/
theorem follows_accessListRules : Follows (accessListRules v) (checkAccessList (v.get? "accessList")) := by
  cases hmember : v.get? "accessList" with
  | none =>
    rw [accessListRules, Json.row_of_lacks (Or.inl hmember)]
    exact .kept (Json.mayHave_of_get?_eq_none hmember) .done
  | some value =>
    have hkind := Json.mayHave_iff_of_get?_eq_some (P := (·.IsArray fun _ => True)) hmember
    cases value with
    | array items =>
      rw [accessListRules, Json.row_eq hmember]
      exact .kept (hkind.mpr (Or.inr ⟨items, rfl, fun _ _ => trivial⟩)) (.forM follows_accessItemRules items)
    | null =>
      rw [accessListRules, Json.row_of_lacks (Or.inr hmember)]
      exact .kept (hkind.mpr (Or.inl rfl)) .done
    | bool _ | number _ | text _ | members _ => exact .broken (mt hkind.mp (by simp [Json.IsArray]))

/-- A call object is looked at in the order of the rules. -/
theorem follows_callRules : Follows (callRules v) (checkCall v) := by
  cases v with
  | members fields =>
    -- the members that are looked at are those of the grammar, in the same order
    have hhex := Follows.forM (fun name => follows_textRules (.members fields) name @isHex_eq_true .notHex) hexMembers
    refine .kept ⟨fields, rfl⟩ ((follows_senderRules _).bind fun _ => ?_)
    exact (follows_textRules _ "to" (fun _ => Iff.rfl) .notAddress).bind fun _ =>
      hhex.bind fun _ => follows_accessListRules _
  | null | bool _ | number _ | text _ | array _ => exact .broken (by simp [Json.IsObject])

end

end Argument

/-! ## Main statement -/

/-- The call makes this request when this holds of its arguments, and only then. Otherwise the first of these rules
that is broken is told, and when none is broken nothing is. -/
structure Call.Obeys (c : Call) (accepted : Prop) (made : Request) (rules : List Rule) : Prop where
  accepts : (∃ request, c.request = .ok request) ↔ accepted
  unchanged : ∀ request, c.request = .ok request → request = made
  refuses : ∀ error, c.request = .error error ↔ Rule.Breaks rules error

/-- A call that gives out its parameters after a check obeys the rules that the check follows. -/
theorem Call.Obeys.of_follows {c : Call} {check : Except ArgumentError Unit} {params : List Json}
    {rules : List Rule} {accepted : Prop} (hparams : c.params = check >>= fun _ => pure params)
    (hfollows : Rule.Follows rules check) (haccepted : Rule.AllHold rules ↔ accepted) :
    c.Obeys accepted ⟨c.method, params⟩ rules := by
  have hrequest : c.request = check >>= fun _ => pure ⟨c.method, params⟩ := by
    rw [request, hparams, bind_assoc]
    rfl
  have hok := hfollows.eq_ok_iff
  have herror := hfollows.eq_error_iff
  cases check with
  | ok checked =>
    replace hrequest : c.request = .ok ⟨c.method, params⟩ := hrequest
    refine ⟨?_, fun request h => ?_, fun error => ?_⟩
    · exact ⟨fun _ => haccepted.mp (hok.mp rfl), fun _ => ⟨_, hrequest⟩⟩
    · exact (Except.ok.inj (hrequest.symm.trans h)).symm
    · rw [hrequest, ← herror error]
      exact ⟨nofun, nofun⟩
  | error broken =>
    replace hrequest : c.request = .error broken := hrequest
    refine ⟨?_, fun request h => ?_, fun error => ?_⟩
    · rw [hrequest, ← haccepted, ← hok]
      exact ⟨nofun, nofun⟩
    · nomatch hrequest.symm.trans h
    · rw [hrequest, ← herror error, Except.error.injEq, Except.error.injEq]

/-- Of any value a call, the estimate of its gas, its sending and its signing are asked for exactly when it is a call
object, and it is handed over as it is. Otherwise the first rule that it breaks is told: whether it is an object, its
sender, its destination, its hexadecimal members in their order, and then its access list item by item, the address
before the keys. The block of a call is looked at last. -/
theorem obeys_callRules (v : Json) :
    (Call.estimateGas v).Obeys (Argument.IsCallObject v) ⟨"eth_estimateGas", [v]⟩ (Argument.callRules v) ∧
      (Call.sendTransaction v).Obeys (Argument.IsCallObject v) ⟨"eth_sendTransaction", [v]⟩ (Argument.callRules v) ∧
      (Call.signTransaction v).Obeys (Argument.IsCallObject v) ⟨"eth_signTransaction", [v]⟩ (Argument.callRules v) ∧
      ∀ block, (Call.call v block).Obeys (Argument.IsCallObject v ∧ IsBlock block) ⟨"eth_call", [v, .text block]⟩
        (Argument.callRules v ++ [⟨IsBlock block, .badBlock⟩]) := by
  have hfollows := Argument.follows_callRules v
  have hall := Argument.allHold_callRules v
  refine ⟨.of_follows rfl hfollows hall, .of_follows rfl hfollows hall, .of_follows rfl hfollows hall, fun block => ?_⟩
  refine .of_follows (bind_assoc _ _ _).symm (hfollows.bind fun _ => .ensure Argument.isBlock_eq_true) ?_
  simp [hall]

end DynamicFeeWallet
