import DynamicFeeWallet.CommandLine.Command
import DynamicFeeWallet.Proofs.Node.Course

/-!
# Carrying out scripts

A script prints lines beside what its attempts do with the node. What comes of it is told by `Script.perform`, for
each way to put scripts together once, so that no script need be opened further up. A script that only prepares
something takes a course and prints nothing (`Script.Prepares`).
-/

namespace DynamicFeeWallet

namespace Script

variable {α β : Type}

/-- Carries a script out against a node, after these lines were printed. -/
def perform (s : Script α) (node : Node) (lines : List String) (j : Journal) :
    (Except CommandError α × List String) × Journal :=
  (s.run.run lines).run node j

section

variable (node : Node) (lines : List String) (j : Journal)

/-- The second part of a script is carried out when the first one succeeds. -/
theorem perform_bind (s : Script α) (f : α → Script β) :
    (s >>= f).perform node lines j =
      match s.perform node lines j with
      | ((.ok a, lines'), j') => (f a).perform node lines' j'
      | ((.error error, lines'), j') => ((.error error, lines'), j') := by
  unfold perform
  rw [ExceptT.run_bind, StateT.run_bind, Exchange.run_bind]
  generalize (s.run.run lines).run node j = first
  obtain ⟨⟨outcome, lines'⟩, j'⟩ := first
  cases outcome <;> rfl

theorem perform_pure (a : α) : (pure a : Script α).perform node lines j = ((.ok a, lines), j) := rfl

theorem perform_throw (error : CommandError) :
    (throw error : Script α).perform node lines j = ((.error error, lines), j) := rfl

/-- A line that is said comes after those before. -/
theorem perform_say (line : String) : (say line).perform node lines j = ((.ok (), lines ++ [line]), j) := rfl

/-- A result that is given is told as that of the wallet, and nothing is printed. -/
theorem perform_give (result : Except WalletError α) :
    (give result).perform node lines j = ((result.mapError .wallet, lines), j) := rfl

/-- An attempt prints nothing. -/
theorem perform_await (a : Attempt α) :
    (await a).perform node lines j = (((a.run.run node j).1.mapError .wallet, lines), (a.run.run node j).2) := by
  unfold perform await
  rw [ExceptT.run_mk, StateT.run_bind, StateT.run_lift, Exchange.run_bind, Exchange.run_bind]
  rfl

/-- The lines of a script are told, and why it fails if it does. -/
theorem run_outcome (s : Script Unit) :
    s.outcome.run node j =
      match s.perform node [] j with
      | ((.ok _, lines), j') => ((lines, none), j')
      | ((.error error, lines), j') => ((lines, some error), j') := by
  unfold outcome perform
  rw [Exchange.run_bind]
  generalize (s.run.run []).run node j = first
  obtain ⟨⟨outcome, lines⟩, j'⟩ := first
  cases outcome <;> rfl

end

/-! ## Preparations -/

/-- Whatever the node does, a script prints nothing and takes a course with requests of these methods. -/
def Prepares (P : String → Prop) (s : Script α) : Prop :=
  ∀ node lines j, ∃ outcome j', s.perform node lines j = ((outcome, lines), j') ∧ j.Course node P j'

variable {P : String → Prop}

theorem prepares_pure (a : α) : (pure a : Script α).Prepares P :=
  fun node lines j => ⟨_, _, perform_pure node lines j a, .refl⟩

theorem prepares_throw (error : CommandError) : (throw error : Script α).Prepares P :=
  fun node lines j => ⟨_, _, perform_throw node lines j error, .refl⟩

/-- A result that is given needs no node. -/
theorem prepares_give (result : Except WalletError α) : (give result).Prepares P :=
  fun node lines j => ⟨_, _, perform_give node lines j result, .refl⟩

/-- An attempt that is awaited takes its course and prints nothing. -/
theorem prepares_await {a : Attempt α} (ha : a.Proceeds P) : (await a).Prepares P :=
  fun node lines j => ⟨_, _, perform_await node lines j a, ha node j⟩

/-- Two scripts that print nothing print nothing, one after the other. -/
theorem prepares_bind {s : Script α} {f : α → Script β} (hs : s.Prepares P) (hf : ∀ a, (f a).Prepares P) :
    (s >>= f).Prepares P := by
  intro node lines j
  obtain ⟨outcome, j', hrun, hcourse⟩ := hs node lines j
  rw [perform_bind, hrun]
  cases outcome with
  | ok a =>
    obtain ⟨outcome, j'', hrun', hcourse'⟩ := hf a node lines j'
    exact ⟨outcome, j'', hrun', hcourse.trans hcourse'⟩
  | error error => exact ⟨_, _, rfl, hcourse⟩

end Script

end DynamicFeeWallet
