import Mathlib.Data.List.Basic
import Mathlib.Data.List.Induction
import DynamicFeeWallet.Node.Metrics

/-!
# What the series read

A series is read off the totals of all observations. One that is counted reads how often its observation was made
(`Sample.reading_eq_count`), and that of the node's health reads the last look at it (`Sample.reading?_health`).
-/

namespace DynamicFeeWallet

theorem RequestOutcome.name_injective : Function.Injective name := by
  intro a b h
  cases a <;> cases b <;> first | rfl | exact absurd h (by decide)

namespace Sample

variable {samples : List Sample} {x y : Sample}

/-- Whether the node was reachable, if the observation is of that. -/
def reachable? : Sample → Option Bool
  | .health reachable => some reachable
  | _ => none

/-- What a series reads after some observations, if it was touched. -/
def reading? (samples : List Sample) (s : Series) : Option Nat := (totals samples).lookup s

/-- What a series reads after some observations; one that was not touched reads zero. -/
def reading (samples : List Sample) (s : Series) : Nat := (reading? samples s).getD 0

/-- A series reads what its observations add up to, in their order. -/
theorem reading?_eq (samples : List Sample) (s : Series) :
    reading? samples s =
      if s ∈ samples.map series then
        some ((samples.filter fun x => x.series = s).foldl (fun value x => x.apply value) 0)
      else none := by
  unfold reading? totals
  by_cases hmem : s ∈ samples.map series
  · rw [if_pos hmem]
    exact List.lookup_graph (fun s => (samples.filter fun x => x.series = s).foldl (fun value x => x.apply value) 0)
      (List.mem_eraseDups.mpr hmem)
  · rw [if_neg hmem, List.lookup_eq_none_iff]
    intro entry hentry
    obtain ⟨s', hs', rfl⟩ := List.mem_map.mp hentry
    rw [List.mem_eraseDups] at hs'
    simpa using fun heq : s = s' => hmem (heq ▸ hs')

/-- Only looks at the health share their series with others. -/
theorem eq_of_series_eq (hx : x.reachable? = none) (h : y.series = x.series) : y = x := by
  cases x with
  | health reachable => nomatch hx
  | latency method => cases y <;> simp_all [series]
  | request method outcome =>
    cases y with
    | request method' outcome' =>
      simp only [series, Series.mk.injEq, List.cons.injEq, Prod.mk.injEq, true_and, and_true] at h
      rw [h.1, RequestOutcome.name_injective h.2]
    | _ => simp_all [series]
  | estimation succeeded =>
    cases y with
    | estimation succeeded' => cases succeeded <;> cases succeeded' <;> simp_all [series]
    | _ => simp_all [series]

/-- Every observation but one of the health adds one to its series. -/
theorem foldl_apply_replicate (hx : x.reachable? = none) (n value : Nat) :
    (List.replicate n x).foldl (fun value x => x.apply value) value = value + n := by
  induction n generalizing value with
  | zero => rfl
  | succ n ih =>
    have happly : x.apply value = value + 1 := by cases x <;> first | rfl | nomatch hx
    rw [List.replicate_succ, List.foldl_cons, happly, ih]
    omega

/-- A series that is counted reads how often its observation was made. -/
theorem reading_eq_count (samples : List Sample) (hx : x.reachable? = none) :
    reading samples x.series = samples.count x := by
  have hfilter : (samples.filter fun y => y.series = x.series) = List.replicate (samples.count x) x := by
    rw [← List.filter_beq]
    refine List.filter_congr fun y _ => ?_
    have hiff : y.series = x.series ↔ y = x := ⟨eq_of_series_eq hx, fun h => h ▸ rfl⟩
    rw [decide_eq_decide.mpr hiff]
    rfl
  rw [reading, reading?_eq, hfilter, foldl_apply_replicate hx, Nat.zero_add]
  by_cases hmem : x.series ∈ samples.map series
  · rw [if_pos hmem, Option.getD_some]
  · have hcount : samples.count x = 0 := List.count_eq_zero.mpr fun h => hmem (List.mem_map_of_mem h)
    rw [if_neg hmem, hcount, Option.getD_none]

/-- The value that a look at the health leaves. -/
theorem foldl_apply_health (looks : List Bool) (value : Nat) :
    (looks.map health).foldl (fun value x => x.apply value) value = (looks.getLast?.map Bool.toNat).getD value := by
  induction looks using List.reverseRecOn with
  | nil => rfl
  | append_singleton looks reachable ih =>
    rw [List.map_append, List.foldl_append, List.getLast?_concat]
    cases reachable <;> rfl

/-- The observations of the health are the looks at it. -/
theorem filter_series_health (samples : List Sample) (reachable : Bool) :
    (samples.filter fun x => x.series = (health reachable).series) = (samples.filterMap reachable?).map health := by
  induction samples with
  | nil => rfl
  | cons x samples ih =>
    cases x with
    | health reachable' =>
      have hlook : (health reachable').reachable? = some reachable' := rfl
      rw [List.filter_cons_of_pos rfl, List.filterMap_cons_some hlook, List.map_cons, ih]
    | _ => rw [List.filter_cons_of_neg (by simp [series]), List.filterMap_cons_none rfl, ih]

/-- The series of the health reads the last look at it, once there was one. -/
theorem reading?_health (samples : List Sample) (reachable : Bool) :
    reading? samples (health reachable).series = (samples.filterMap reachable?).getLast?.map Bool.toNat := by
  have hmem : (health reachable).series ∈ samples.map series ↔ samples.filterMap reachable? ≠ [] := by
    rw [← not_iff_not, not_not, ← List.map_eq_nil_iff (f := health), ← filter_series_health samples reachable]
    simp
  rw [reading?_eq, filter_series_health, foldl_apply_health]
  cases hlast : (samples.filterMap reachable?).getLast? with
  | none => rw [if_neg (hmem.not.mpr (not_not.mpr (List.getLast?_eq_none_iff.mp hlast))), Option.map_none]
  | some last =>
    have hlooks : samples.filterMap reachable? ≠ [] := fun h => by rw [h] at hlast; nomatch hlast
    rw [if_pos (hmem.mpr hlooks), Option.map_some, Option.getD_some]

end Sample

end DynamicFeeWallet
