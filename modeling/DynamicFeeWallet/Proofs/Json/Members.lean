import DynamicFeeWallet.Json.Basic

/-!
# Members in order

One more member is found under its name and changes nothing else (`Members.get?_insert`), and members in order stay in
order with it (`Members.Ordered.insert`). Members in order are told by what is found under each name
(`Members.Ordered.ext`).
-/

namespace DynamicFeeWallet

namespace Members

/-- The members stand in the order of their names, one member to a name. -/
def Ordered (fields : Members) : Prop := fields.Pairwise fun m m' => m.1 < m'.1

variable {fields : Members} {name : String} {value : Json}

/-- The first member is looked at first. -/
theorem get?_cons (n k : String) (v : Json) (fields : Members) :
    get? ((n, v) :: fields) k = if k = n then some v else get? fields k := by
  by_cases h : k = n
  · rw [if_pos h, h, get?, List.lookup_cons_self]
  · rw [if_neg h, get?, List.lookup_cons, beq_false_of_ne h]
    rfl

theorem get?_cons_self (n : String) (v : Json) (fields : Members) : get? ((n, v) :: fields) n = some v :=
  (get?_cons n n v fields).trans (if_pos rfl)

/-- One more member is found under its name, and under any other name what was found before. -/
theorem get?_insert (name other : String) (value : Json) (fields : Members) :
    get? (insert name value fields) other = if other = name then some value else get? fields other := by
  induction fields with
  | nil => exact get?_cons name other value []
  | cons m rest ih =>
    obtain ⟨n, v⟩ := m
    rw [insert]
    split
    · rename_i hname
      rw [get?_cons, get?_cons, hname]
      split <;> rfl
    split
    · rw [get?_cons]
    · rename_i hname _
      rw [get?_cons, get?_cons, ih]
      by_cases hother : other = n
      · rw [if_pos hother, if_neg (hother ▸ hname), if_pos hother]
      · rw [if_neg hother, if_neg hother]

/-- One more member adds nothing but itself. -/
theorem mem_insert {m : String × Json} (h : m ∈ insert name value fields) : m = (name, value) ∨ m ∈ fields := by
  induction fields with
  | nil => exact Or.inl (List.mem_singleton.mp h)
  | cons first rest ih =>
    rw [insert] at h
    grind

/-- Members stay in order when there is one more. -/
theorem Ordered.insert (h : Ordered fields) (name : String) (value : Json) : Ordered (insert name value fields) := by
  induction fields with
  | nil => exact List.pairwise_singleton _ _
  | cons m rest ih =>
    obtain ⟨n, v⟩ := m
    obtain ⟨hfirst, hrest⟩ := List.pairwise_cons.mp h
    rw [Members.insert]
    split
    · rename_i hname
      exact List.pairwise_cons.mpr ⟨fun m hm => hname ▸ hfirst m hm, hrest⟩
    split
    · rename_i hlt
      refine List.pairwise_cons.mpr ⟨fun m hm => ?_, h⟩
      rcases List.mem_cons.mp hm with rfl | hm
      · exact hlt
      · exact String.lt_trans hlt (hfirst m hm)
    · rename_i hname hlt
      have hgt : n < name := String.not_le.mp fun hle => hname (String.le_antisymm (String.not_lt.mp hlt) hle)
      refine List.pairwise_cons.mpr ⟨fun m hm => ?_, ih hrest⟩
      rcases mem_insert hm with rfl | hm
      · exact hgt
      · exact hfirst m hm

/-- A name that comes before all others is not found. -/
theorem get?_eq_none_of_forall_lt (h : ∀ m ∈ fields, name < m.1) : fields.get? name = none :=
  List.lookup_eq_none_iff.mpr fun m hm => bne_iff_ne.mpr (String.ne_of_lt (h m hm))

/-- No name that members in order have comes before the first one. -/
theorem Ordered.not_lt_first {n n' : String} {v v' : Json} {rest : Members} (h : Ordered ((n', v') :: rest))
    (hget : get? ((n', v') :: rest) n = some v) : ¬n < n' := by
  intro hlt
  have hnone : get? ((n', v') :: rest) n = none := by
    refine get?_eq_none_of_forall_lt fun m hm => ?_
    rcases List.mem_cons.mp hm with rfl | hm
    · exact hlt
    · exact String.lt_trans hlt ((List.pairwise_cons.mp h).1 m hm)
  nomatch hnone.symm.trans hget

/-- Members in order are told by what is found under each name. -/
theorem Ordered.ext {fields fields' : Members} (h : Ordered fields) (h' : Ordered fields')
    (hget : ∀ name, fields.get? name = fields'.get? name) : fields = fields' := by
  induction fields generalizing fields' with
  | nil =>
    cases fields' with
    | nil => rfl
    | cons m' rest' => nomatch (hget m'.1).trans (get?_cons_self m'.1 m'.2 rest')
  | cons m rest ih =>
    obtain ⟨n, v⟩ := m
    cases fields' with
    | nil => nomatch (hget n).symm.trans (get?_cons_self n v rest)
    | cons m' rest' =>
      obtain ⟨n', v'⟩ := m'
      -- The first name of either list is found in the other one, so both begin with the same name.
      have hge : ¬n < n' := h'.not_lt_first ((hget n).symm.trans (get?_cons_self n v rest))
      have hle : ¬n' < n := h.not_lt_first ((hget n').trans (get?_cons_self n' v' rest'))
      obtain rfl : n = n' := String.le_antisymm (String.not_lt.mp hle) (String.not_lt.mp hge)
      obtain ⟨hfirst, hrest⟩ := List.pairwise_cons.mp h
      obtain ⟨hfirst', hrest'⟩ := List.pairwise_cons.mp h'
      have hvalue : v = v' := by simpa only [get?_cons_self, Option.some.injEq] using hget n
      have hothers (name : String) : get? rest name = get? rest' name := by
        by_cases hname : name = n
        · rw [hname, get?_eq_none_of_forall_lt hfirst, get?_eq_none_of_forall_lt hfirst']
        · simpa only [get?_cons, hname, if_false] using hget name
      rw [hvalue, ih hrest hrest' hothers]

end Members

end DynamicFeeWallet
