import RustHelper.PermittedRuns
import Mathlib.Logic.Function.Basic
import Mathlib.Tactic.Common

/-!
# Histories of labelled steps

A history lists each step of a run by the state before it and its label.  Several
components run side by side when one of them moves at a time and the others may
forbid it; the history of one component is then a history of that component alone.
-/

namespace PermittedRuns

variable {σ α : Type*} {step : σ → α → σ → Prop} {start s s' : σ}

/-- The state is reached by the steps of the history, the first step first. -/
inductive Trace (step : σ → α → σ → Prop) (start : σ) : List (σ × α) → σ → Prop
  | start : Trace step start [] start
  | step {history : List (σ × α)} {before after : σ} {action : α}
      (trace : Trace step start history before) (steps : step before action after) :
      Trace step start (history ++ [(before, action)]) after

namespace Trace

variable {history : List (σ × α)}

theorem single {action : α} (steps : step s action s') : Trace step s [(s, action)] s' :=
  .step .start steps

theorem runs (trace : Trace step start history s) : Runs step (fun _ _ => True) start s := by
  induction trace with
  | start => exact Runs.refl start
  | step _ steps ih => exact ih.trans (Runs.single steps trivial)

/-- What steps preserve together with their history holds after every history. -/
theorem invariant (inv : List (σ × α) → σ → Prop) (initially : inv [] start)
    (preserves : ∀ history before action after, Trace step start history before →
      inv history before → step before action after → inv (history ++ [(before, action)]) after)
    (trace : Trace step start history s) : inv history s := by
  induction trace with
  | start => exact initially
  | step trace steps ih => exact preserves _ _ _ _ trace ih steps

end Trace

section Components

variable {Index : Type*} [DecidableEq Index]

/-- One component moves, if all of them together allow it. -/
def Jointly (step : σ → α → σ → Prop) (allows : (Index → σ) → α → Prop)
    (before : Index → σ) (move : Index × α) (after : Index → σ) : Prop :=
  allows before move.2 ∧ ∃ next, step (before move.1) move.2 next ∧
    after = Function.update before move.1 next

/-- What one component did. -/
def ofComponent (index : Index) (history : List ((Index → σ) × (Index × α))) : List (σ × α) :=
  history.filterMap fun entry =>
    if entry.2.1 = index then some (entry.1 index, entry.2.2) else none

variable {allows : (Index → σ) → α → Prop} {begun states : Index → σ}
  {history : List ((Index → σ) × (Index × α))}

/-- Beside the others, a component only does what it can do alone. -/
theorem Trace.component (trace : Trace (Jointly step allows) begun history states)
    (index : Index) : Trace step (begun index) (ofComponent index history) (states index) := by
  induction trace with
  | start => exact .start
  | @step history before after move _ moves ih =>
      obtain ⟨mover, action⟩ := move
      obtain ⟨-, next, steps, isAfter⟩ := moves
      simp only [ofComponent, List.filterMap_append]
      by_cases same : mover = index
      · subst same
        simp only [isAfter, Function.update_self, List.filterMap_cons, if_true, List.filterMap_nil]
        exact .step ih steps
      · simp only [isAfter, Function.update_of_ne (Ne.symm same), List.filterMap_cons, same,
          if_false, List.filterMap_nil, List.append_nil]
        exact ih

end Components

end PermittedRuns
