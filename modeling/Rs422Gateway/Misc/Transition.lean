import Mathlib

/-!
# Labelled transition systems

A system is a partial step function on a state type, labelled by the action that is taken. A
guard says which steps a run may take: `Reachable step guard start` are the states of all runs from
`start` whose steps are all allowed. `unguarded` allows every step.
-/

namespace Rs422Gateway.Transition

variable {σ α : Type*} {step : σ → α → Option σ} {guard : σ → α → Prop} {start : σ}

/-- The states of the runs from `start` whose steps are all allowed by `guard`. -/
inductive Reachable (step : σ → α → Option σ) (guard : σ → α → Prop) (start : σ) : σ → Prop where
  | start : Reachable step guard start start
  | step {s s' : σ} (a : α) (run : Reachable step guard start s) (allowed : guard s a)
      (taken : step s a = some s') : Reachable step guard start s'

/-- The guard of a run that may take any step. -/
def unguarded (_ : σ) (_ : α) : Prop := True

instance (s : σ) (a : α) : Decidable (unguarded s a) := .isTrue trivial

/-- The actions of a run, taken one after another as long as they are allowed and possible. -/
def exec (step : σ → α → Option σ) (guard : σ → α → Prop) [∀ s a, Decidable (guard s a)] :
    σ → List α → Option σ
  | s, [] => some s
  | s, a :: rest => if guard s a then (step s a).bind fun s' => exec step guard s' rest else none

/-- What holds at the start and is kept by every allowed step holds in every state of a run. -/
theorem Reachable.invariant {P : σ → Prop} (hstart : P start)
    (hstep : ∀ s a s', P s → guard s a → step s a = some s' → P s') {s : σ}
    (h : Reachable step guard start s) : P s := by
  induction h with
  | start => exact hstart
  | step a _ allowed taken ih => exact hstep _ a _ ih allowed taken

theorem Reachable.exec [∀ s a, Decidable (guard s a)] {s s' : σ} {actions : List α}
    (h : Reachable step guard start s) (taken : exec step guard s actions = some s') :
    Reachable step guard start s' := by
  induction actions generalizing s with
  | nil =>
    cases taken
    exact h
  | cons a rest ih =>
    simp only [Transition.exec] at taken
    split at taken
    case isTrue allowed =>
      obtain ⟨t, ht, hrest⟩ := Option.bind_eq_some_iff.mp taken
      exact ih (.step a h allowed ht) hrest
    case isFalse => cases taken

/-- A loop whose turns take one action each: it goes through `states`, and its last turn leaves
    it. -/
theorem exec_replicate_succ [∀ s a, Decidable (guard s a)] {a : α} (allowed : ∀ s, guard s a)
    {n : Nat} (states : Nat → σ) {s' : σ}
    (turns : ∀ m < n, step (states m) a = some (states (m + 1)))
    (last : step (states n) a = some s') :
    Transition.exec step guard (states 0) (List.replicate (n + 1) a) = some s' := by
  induction n generalizing states with
  | zero =>
    simp only [List.replicate, Transition.exec, if_pos (allowed _), last, Option.bind_some]
  | succ n ih =>
    have hrest := ih (fun m => states (m + 1))
      (fun m hm => turns (m + 1) (Nat.succ_lt_succ hm)) last
    rw [List.replicate_succ, Transition.exec, if_pos (allowed _), turns 0 (Nat.succ_pos n),
      Option.bind_some]
    exact hrest

/-- A run whose last state passes a test. -/
theorem exists_reachable (step : σ → α → Option σ) (guard : σ → α → Prop)
    [∀ s a, Decidable (guard s a)] (start : σ) (actions : List α) (test : σ → Bool)
    (h : (exec step guard start actions).any test = true) :
    ∃ s, Reachable step guard start s ∧ test s = true := by
  cases hs : exec step guard start actions with
  | none =>
    rw [hs] at h
    cases h
  | some s =>
    rw [hs] at h
    exact ⟨s, .exec .start hs, h⟩

end Rs422Gateway.Transition
