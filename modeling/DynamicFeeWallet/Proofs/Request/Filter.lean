import DynamicFeeWallet.Proofs.Request.CallObject
import DynamicFeeWallet.Proofs.Request.Grammar

/-!
# Log filters are completed

A filter is checked as it was given and completed after all checks (`Argument.completeFilter_members`), so it is taken
for a request of logs exactly when it is one of the grammar (`Argument.IsLogFilter`). What is sent is the filter with
`latest` for each bound that it lacks, and with nothing else added, dropped or changed (`Json.Completes`). It is
complete then, so that it is taken again as it is; and a filter for logs is taken for a filter that is kept, too
(`request_logs_completes`).
-/

namespace DynamicFeeWallet

/-! ## What is checked -/

namespace Argument

/-- The bounds of a filter. -/
def filterBounds : List String := ["fromBlock", "toBlock"]

/-- A topic: any, or hexadecimal data. -/
def IsTopic (topic : Json) : Prop := topic = .null ∨ topic.IsText IsHex

/-- A log filter: whatever it has is well-formed. -/
structure IsFilter (v : Json) : Prop where
  object : v.IsObject
  bounds : ∀ name ∈ filterBounds, v.MayHave name (·.IsText IsBlock)
  address : v.MayHave "address" fun a =>
    (a.IsText fun s => Address.isAddress s = true) ∨ a.IsArray (·.IsText fun s => Address.isAddress s = true)
  topics : v.MayHave "topics" (·.IsArray fun place => IsTopic place ∨ place.IsArray IsTopic)

/-- Under either spelling, a block is named by its hash. -/
def NamesBlocks (v : Json) : Prop := ∀ name ∈ ["blockHash", "blockhash"], v.MayHave name (·.IsText IsHash)

/-- A filter for logs, which may name a block by its hash. -/
structure IsLogFilter (v : Json) : Prop extends IsFilter v where
  blockHash : NamesBlocks v

/-- A row passes when it is one of items that pass. -/
theorem forM_eq_ok_iff_isArray {check : Json → Except ArgumentError Unit} {P : Json → Prop}
    (h : ∀ item, check item = .ok () ↔ P item) (items : List Json) :
    items.forM check = .ok () ↔ (Json.array items).IsArray P := by
  rw [forM_eq_ok, Json.isArray_array]
  exact forall₂_congr fun item _ => h item

/-- An item of the addresses passes when it is one. -/
theorem checkAddressItem_eq_ok (item : Json) :
    checkAddressItem item = .ok () ↔ item.IsText fun s => Address.isAddress s = true := by
  cases item with
  | text s =>
    rw [Json.isText_text]
    exact ensure_eq_ok
  | null | bool _ | number _ | array _ | members _ => simp [checkAddressItem, Json.IsText]

/-- A topic passes when it is one. -/
theorem checkTopic_eq_ok (topic : Json) : checkTopic topic = .ok () ↔ IsTopic topic := by
  cases topic with
  | text s =>
    rw [IsTopic, Json.isText_text, or_iff_right (by simp)]
    exact checkHex_eq_ok
  | null => exact iff_of_true rfl (Or.inl rfl)
  | bool _ | number _ | array _ | members _ => simp [checkTopic, IsTopic, Json.IsText]

/-- A place among the topics passes when it is a topic or a row of them. -/
theorem checkTopicPlace_eq_ok (place : Json) :
    checkTopicPlace place = .ok () ↔ IsTopic place ∨ place.IsArray IsTopic := by
  cases place with
  | array alternatives =>
    have hnone : ¬IsTopic (.array alternatives) := by simp [IsTopic, Json.IsText]
    rw [or_iff_right hnone]
    exact forM_eq_ok_iff_isArray checkTopic_eq_ok alternatives
  | null | bool _ | number _ | text _ | members _ => simp [checkTopicPlace, checkTopic_eq_ok, Json.IsArray]

variable {v : Json} {name : String}

/-- A member that may be missing passes when it is, or when it is a text that passes. -/
theorem checkOptionalText_eq_ok {check : String → Except ArgumentError Unit}
    {wrongShape : ArgumentError} {P : String → Prop} (h : ∀ s, check s = .ok () ↔ P s) :
    checkOptionalText check wrongShape (v.get? name) = .ok () ↔ v.MayHave name (·.IsText P) := by
  cases hmember : v.get? name with
  | none => exact iff_of_true rfl (Json.mayHave_of_get?_eq_none hmember)
  | some value =>
    rw [Json.mayHave_iff_of_get?_eq_some hmember]
    cases value <;> simp [checkOptionalText, Json.IsText, h]

/-- The addresses pass when they are missing, or one address, or a row of them. -/
theorem checkFilterAddresses_eq_ok :
    checkFilterAddresses (v.get? name) = .ok () ↔ v.MayHave name fun a =>
      (a.IsText fun s => Address.isAddress s = true) ∨ a.IsArray (·.IsText fun s => Address.isAddress s = true) := by
  cases hmember : v.get? name with
  | none => exact iff_of_true rfl (Json.mayHave_of_get?_eq_none hmember)
  | some value =>
    rw [Json.mayHave_iff_of_get?_eq_some hmember]
    cases value with
    | text s => simp [checkFilterAddresses, checkAddress, ensure_eq_ok, Json.IsText, Json.IsArray]
    | array items =>
      have hitems := forM_eq_ok_iff_isArray checkAddressItem_eq_ok items
      simp only [checkFilterAddresses, hitems, Json.IsText, reduceCtorEq, false_and, exists_false, false_or]
    | null | bool _ | number _ | members _ => simp [checkFilterAddresses, Json.IsText, Json.IsArray]

/-- The topics pass when they are missing, or a row of places. -/
theorem checkTopics_eq_ok :
    checkTopics (v.get? name) = .ok () ↔
      v.MayHave name (·.IsArray fun place => IsTopic place ∨ place.IsArray IsTopic) := by
  cases hmember : v.get? name with
  | none => exact iff_of_true rfl (Json.mayHave_of_get?_eq_none hmember)
  | some value =>
    rw [Json.mayHave_iff_of_get?_eq_some hmember]
    cases value with
    | array places =>
      rw [or_iff_right (by simp)]
      exact forM_eq_ok_iff_isArray checkTopicPlace_eq_ok places
    | null | bool _ | number _ | text _ | members _ => simp [checkTopics, Json.IsArray]

/-- The checks of a filter, apart from its shape. -/
def checkFilter (allowBlockHash : Bool) (v : Json) : Except ArgumentError Unit := do
  filterBounds.forM fun name => checkOptionalText checkBlock .badBlock (v.get? name)
  checkFilterAddresses (v.get? "address")
  checkTopics (v.get? "topics")
  if allowBlockHash then
    ["blockHash", "blockhash"].forM fun name => checkOptionalText checkHash (.badField "blockHash") (v.get? name)

/-- The checks are passed exactly by what is well-formed. -/
theorem checkFilter_eq_ok {allowBlockHash : Bool} (hobject : v.IsObject) :
    checkFilter allowBlockHash v = .ok () ↔ IsFilter v ∧ (allowBlockHash = true → NamesBlocks v) := by
  have hbound (name : String) : checkOptionalText checkBlock .badBlock (v.get? name) = .ok () ↔
      v.MayHave name (·.IsText IsBlock) := checkOptionalText_eq_ok fun _ => checkBlock_eq_ok
  have hhash (name : String) : checkOptionalText checkHash (.badField "blockHash") (v.get? name) = .ok () ↔
      v.MayHave name (·.IsText IsHash) := checkOptionalText_eq_ok fun _ => checkHash_eq_ok
  have hparts : IsFilter v ↔ (∀ name ∈ filterBounds, v.MayHave name (·.IsText IsBlock)) ∧
      (v.MayHave "address" fun a =>
        (a.IsText fun s => Address.isAddress s = true) ∨ a.IsArray (·.IsText fun s => Address.isAddress s = true)) ∧
      v.MayHave "topics" (·.IsArray fun place => IsTopic place ∨ place.IsArray IsTopic) :=
    ⟨fun h => ⟨h.bounds, h.address, h.topics⟩, fun ⟨hbounds, haddress, htopics⟩ => ⟨hobject, hbounds, haddress, htopics⟩⟩
  rw [checkFilter, check_bind_eq_ok, check_bind_eq_ok, check_bind_eq_ok, forM_eq_ok,
    checkFilterAddresses_eq_ok, checkTopics_eq_ok, hparts, and_assoc, and_assoc]
  simp only [hbound]
  cases allowBlockHash with
  | false => simp [pure, Except.pure]
  | true => simp only [if_true, forM_eq_ok, hhash, NamesBlocks, forall_const]

end Argument

/-! ## What is filled in -/

namespace Json

variable {v w : Json} {name : String} {P : Json → Prop}

/-- Whether a member is missing is decided by looking it up. -/
theorem lacks_iff : v.Lacks name ↔ (v.get? name).all isNull = true := by
  unfold Lacks
  cases v.get? name with
  | none => simp
  | some value => cases value <;> simp [isNull]

instance : Decidable (v.Lacks name) := decidable_of_iff _ lacks_iff.symm

/-- What is held of a member depends on what is found under its name alone. -/
theorem mayHave_congr (h : v.get? name = w.get? name) : v.MayHave name P ↔ w.MayHave name P := by
  rw [MayHave, MayHave, Lacks, Lacks, Has, Has, h]

end Json

/-- The members with `latest` for a bound that is missing. -/
def Members.withBound (fields : Members) (name : String) : Members :=
  if (Json.members fields).Lacks name then fields.insert name (.text "latest") else fields

/-- An object with `latest` for each bound that is missing. -/
def Json.complete : Json → Json
  | .members fields => .members (Members.withBound (Members.withBound fields "fromBlock") "toBlock")
  | v => v

namespace Members

variable {fields : Members}

theorem withBound_of_lacks {name : String} (h : (Json.members fields).Lacks name) :
    fields.withBound name = fields.insert name (.text "latest") := if_pos h

theorem withBound_of_not_lacks {name : String} (h : ¬(Json.members fields).Lacks name) :
    fields.withBound name = fields := if_neg h

/-- A bound that is filled in is found under its name, and under any other name what was found before. -/
theorem get?_withBound (fields : Members) (name other : String) :
    (fields.withBound name).get? other =
      if other = name ∧ (Json.members fields).Lacks name then some (.text "latest") else fields.get? other := by
  by_cases hlacks : (Json.members fields).Lacks name
  · rw [withBound_of_lacks hlacks, get?_insert]
    simp only [hlacks, and_true]
  · rw [withBound_of_not_lacks hlacks]
    simp only [hlacks, and_false, if_false]

/-- Members stay in order when a bound is filled in. -/
theorem Ordered.withBound (h : Ordered fields) (name : String) : Ordered (fields.withBound name) := by
  by_cases hlacks : (Json.members fields).Lacks name
  · rw [withBound_of_lacks hlacks]
    exact h.insert name _
  · rw [withBound_of_not_lacks hlacks]
    exact h

end Members

namespace Argument

open Members

variable {name : String}

/-- A bound is checked as an optional text is, and filled in then. -/
theorem completeBound_eq (name : String) (fields : Members) :
    completeBound name fields = do
      checkOptionalText checkBlock .badBlock (fields.get? name)
      return fields.withBound name := by
  have hlacks : (Json.members fields).Lacks name ↔ fields.get? name = none ∨ fields.get? name = some .null := Iff.rfl
  rw [completeBound]
  cases hmember : fields.get? name with
  | none =>
    rw [withBound_of_lacks (hlacks.mpr (Or.inl hmember))]
    rfl
  | some value =>
    cases value with
    | null =>
      rw [withBound_of_lacks (hlacks.mpr (Or.inr hmember))]
      rfl
    | text s | bool _ | number _ | array _ | members _ =>
      rw [withBound_of_not_lacks (by simp [hlacks, hmember])]
      rfl

/-- Of a complete object, what is found under a name is `latest` for a missing bound, and else what was there. -/
theorem get?_complete (fields : Members) (name : String) :
    (Json.members fields).complete.get? name =
      if name ∈ filterBounds ∧ (Json.members fields).Lacks name then some (.text "latest") else fields.get? name := by
  have hother : (Json.members (fields.withBound "fromBlock")).Lacks "toBlock" ↔
      (Json.members fields).Lacks "toBlock" := by
    simp only [Json.Lacks, Json.get?, get?_withBound]
    simp
  simp only [Json.complete, Json.get?, get?_withBound, hother, filterBounds, List.mem_cons, List.not_mem_nil, or_false]
  grind

/-- Under a name that is no bound, what is found stays. -/
theorem get?_complete_of_not_bound (v : Json) (h : name ∉ filterBounds) : v.complete.get? name = v.get? name := by
  cases v with
  | members fields => rw [get?_complete, if_neg fun hbound => h hbound.1, Json.get?]
  | null | bool _ | number _ | text _ | array _ => rfl

/-- A filter is checked as it was given, and completed after all checks. -/
theorem completeFilter_members (allowBlockHash : Bool) (fields : Members) :
    completeFilter allowBlockHash (.members fields) = do
      checkFilter allowBlockHash (.members fields)
      return (Json.members fields).complete := by
  have hto : (fields.withBound "fromBlock").get? "toBlock" = fields.get? "toBlock" :=
    (get?_withBound fields "fromBlock" "toBlock").trans (if_neg (by simp))
  have hkept (name : String) (h : name ∉ filterBounds) :
      ((fields.withBound "fromBlock").withBound "toBlock").get? name = fields.get? name :=
    get?_complete_of_not_bound (.members fields) h
  have haddress := hkept "address" (by decide)
  have htopics := hkept "topics" (by decide)
  have hhash := hkept "blockHash" (by decide)
  have hhash' := hkept "blockhash" (by decide)
  cases allowBlockHash <;>
    simp only [completeFilter, checkFilter, completeBound_eq, filterBounds, List.forM_eq_forM, List.forM_cons,
      List.forM_nil, bind_assoc, pure_bind, hto, haddress, htopics, hhash, hhash', Json.get?, Json.complete, if_true,
      Bool.false_eq_true, if_false]

/-- A filter passes exactly when whatever it has is well-formed, and comes out complete. -/
theorem completeFilter_eq_ok {allowBlockHash : Bool} {f g : Json} :
    completeFilter allowBlockHash f = .ok g ↔
      (IsFilter f ∧ (allowBlockHash = true → NamesBlocks f)) ∧ f.complete = g := by
  cases f with
  | members fields =>
    rw [completeFilter_members, check_bind_eq_ok, checkFilter_eq_ok ⟨fields, rfl⟩]
    exact and_congr_right' ⟨Except.ok.inj, congrArg Except.ok⟩
  | null | bool _ | number _ | text _ | array _ => exact ⟨nofun, fun h => by nomatch h.1.1.object⟩

end Argument

/-! ## Complete filters -/

namespace Json

open Argument

variable {v : Json} {name : String}

/-- What is complete lacks no bound. -/
theorem not_lacks_complete (hobject : v.IsObject) (h : name ∈ filterBounds) : ¬v.complete.Lacks name := by
  obtain ⟨fields, rfl⟩ := hobject
  by_cases hlacks : (members fields).Lacks name
  · have hfilled : (members fields).complete.get? name = some (.text "latest") :=
      (get?_complete fields name).trans (if_pos ⟨h, hlacks⟩)
    simp [Lacks, hfilled]
  · have hkept : (members fields).complete.get? name = (members fields).get? name :=
      (get?_complete fields name).trans (if_neg fun hfilled => hlacks hfilled.2)
    rwa [Lacks, hkept]

/-- What is complete stays as it is. -/
theorem complete_complete (v : Json) : v.complete.complete = v.complete := by
  cases v with
  | members fields =>
    have hfrom : ¬(members fields).complete.Lacks "fromBlock" := not_lacks_complete ⟨fields, rfl⟩ (by decide)
    have hto : ¬(members fields).complete.Lacks "toBlock" := not_lacks_complete ⟨fields, rfl⟩ (by decide)
    rw [complete] at hfrom hto ⊢
    rw [complete, Members.withBound_of_not_lacks hfrom, Members.withBound_of_not_lacks hto]
  | null | bool _ | number _ | text _ | array _ => rfl

/-- The members of an object stand in the order of their names, one member to a name. -/
def IsOrdered (v : Json) : Prop := ∃ fields, v = .members fields ∧ Members.Ordered fields

/-- One object is another with `latest` for each bound that it lacks, and with nothing else added, dropped or changed. -/
structure Completes (f g : Json) : Prop where
  object : g.IsObject
  filled : ∀ name ∈ filterBounds, f.Lacks name → g.get? name = some (.text "latest")
  kept : ∀ name, (name ∈ filterBounds → ¬f.Lacks name) → g.get? name = f.get? name
  ordered : f.IsOrdered → g.IsOrdered

/-- An object in order is completed in one way only. -/
theorem Completes.eq {f g g' : Json} (h : f.Completes g) (h' : f.Completes g') (hordered : f.IsOrdered) : g' = g := by
  obtain ⟨fields, rfl, hfields⟩ := h.ordered hordered
  obtain ⟨fields', rfl, hfields'⟩ := h'.ordered hordered
  refine congrArg members (hfields'.ext hfields fun name => ?_)
  by_cases hfilled : name ∈ filterBounds ∧ f.Lacks name
  · exact (h'.filled name hfilled.1 hfilled.2).trans (h.filled name hfilled.1 hfilled.2).symm
  · have hkept : name ∈ filterBounds → ¬f.Lacks name := fun hname hlacks => hfilled ⟨hname, hlacks⟩
    exact (h'.kept name hkept).trans (h.kept name hkept).symm

/-- To complete an object fills in its missing bounds and changes nothing else. -/
theorem completes_complete (hobject : v.IsObject) : v.Completes v.complete := by
  obtain ⟨fields, rfl⟩ := hobject
  exact {
    object := ⟨_, rfl⟩
    filled := fun name hname hlacks => (get?_complete fields name).trans (if_pos ⟨hname, hlacks⟩)
    kept := fun name hkept => (get?_complete fields name).trans (if_neg fun h => hkept h.1 h.2)
    ordered := by
      rintro ⟨_, ⟨⟩, hordered⟩
      exact ⟨_, rfl, (hordered.withBound "fromBlock").withBound "toBlock"⟩ }

end Json

namespace Argument

variable {v : Json}

/-- A filter that is completed is still one. -/
theorem IsLogFilter.complete (h : IsLogFilter v) : IsLogFilter v.complete := by
  have hcompletes := Json.completes_complete h.object
  have hother {name : String} (hname : name ∉ filterBounds) {P : Json → Prop} (h : v.MayHave name P) :
      v.complete.MayHave name P :=
    (Json.mayHave_congr (get?_complete_of_not_bound v hname)).mpr h
  exact {
    object := hcompletes.object
    bounds := by
      intro name hname
      by_cases hlacks : v.Lacks name
      · exact Or.inr ⟨_, hcompletes.filled name hname hlacks, "latest", rfl, Or.inl (by simp)⟩
      · exact (Json.mayHave_congr (hcompletes.kept name fun _ => hlacks)).mpr (h.bounds name hname)
    address := hother (by decide) h.address
    topics := hother (by decide) h.topics
    blockHash := by
      intro name hname
      exact hother (by revert name; decide) (h.blockHash name hname) }

end Argument

namespace Call

open Argument

variable {f : Json} {request : Request}

/-- The request of a call whose one parameter is a filter. -/
theorem request_eq_ok_of_params {c : Call} {allowBlockHash : Bool}
    (h : c.params = do return [← completeFilter allowBlockHash f]) :
    c.request = .ok request ↔ (IsFilter f ∧ (allowBlockHash = true → NamesBlocks f)) ∧
      ⟨c.method, [f.complete]⟩ = request := by
  simp only [Call.request, h, bind_eq_ok, completeFilter_eq_ok, pure, Except.pure, Except.ok.injEq]
  constructor
  · rintro ⟨_, ⟨_, ⟨hfilter, rfl⟩, rfl⟩, rfl⟩
    exact ⟨hfilter, rfl⟩
  · rintro ⟨hfilter, rfl⟩
    exact ⟨_, ⟨_, ⟨hfilter, rfl⟩, rfl⟩, rfl⟩

/-- Logs are asked for by a log filter, which is sent complete. -/
theorem request_logs_eq_ok : (logs f).request = .ok request ↔ IsLogFilter f ∧ ⟨"eth_getLogs", [f.complete]⟩ = request :=
  (request_eq_ok_of_params rfl).trans
    (and_congr_left' ⟨fun h => ⟨h.1, h.2 rfl⟩, fun h => ⟨h.toIsFilter, fun _ => h.blockHash⟩⟩)

/-- A filter is kept by the same document, and may not name a block by its hash. -/
theorem request_newFilter_eq_ok :
    (newFilter f).request = .ok request ↔ IsFilter f ∧ ⟨"eth_newFilter", [f.complete]⟩ = request :=
  (request_eq_ok_of_params rfl).trans (and_congr_left' (and_iff_left nofun))

end Call

/-- A filter is taken for a request of logs exactly when whatever it has is well-formed. What is sent then is that
filter with each missing bound filled in, which is one document only. The same request comes of what was sent, and the
same document is sent when the filter is to be kept. -/
theorem request_logs_completes (f : Json) :
    ((∃ request, (Call.logs f).request = .ok request) ↔ Argument.IsLogFilter f) ∧
      ∀ request, (Call.logs f).request = .ok request →
        ∃ g, request = ⟨"eth_getLogs", [g]⟩ ∧ f.Completes g ∧ (f.IsOrdered → ∀ g', f.Completes g' → g' = g) ∧
          (Call.logs g).request = .ok request ∧ (Call.newFilter f).request = .ok ⟨"eth_newFilter", [g]⟩ := by
  refine ⟨⟨fun ⟨_, h⟩ => (Call.request_logs_eq_ok.mp h).1, fun h => ⟨_, Call.request_logs_eq_ok.mpr ⟨h, rfl⟩⟩⟩,
    fun request h => ?_⟩
  obtain ⟨hfilter, rfl⟩ := Call.request_logs_eq_ok.mp h
  have hcompletes := Json.completes_complete hfilter.object
  refine ⟨f.complete, rfl, hcompletes, fun hordered _ h' => hcompletes.eq h' hordered, ?_, ?_⟩
  · exact Call.request_logs_eq_ok.mpr ⟨hfilter.complete, by rw [Json.complete_complete]⟩
  · exact Call.request_newFilter_eq_ok.mpr ⟨hfilter.toIsFilter, rfl⟩

end DynamicFeeWallet
