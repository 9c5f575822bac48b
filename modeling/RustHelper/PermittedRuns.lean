import Mathlib.Logic.Relation

/-!
# Runs of a labelled step relation

A run takes steps whose labels are permitted in the state before them.  The
permission restricts what the environment does, so one relation serves both for
all runs and for the continuations that a scheduler may choose.
-/

namespace PermittedRuns

variable {σ α : Type*} {step : σ → α → σ → Prop} {may : σ → α → Prop} {s s' s'' : σ}

/-- One permitted step. -/
def Move (step : σ → α → σ → Prop) (may : σ → α → Prop) (before after : σ) : Prop :=
  ∃ action, may before action ∧ step before action after

/-- The second state is reached from the first by permitted steps. -/
def Runs (step : σ → α → σ → Prop) (may : σ → α → Prop) : σ → σ → Prop :=
  Relation.ReflTransGen (Move step may)

namespace Runs

theorem refl (s : σ) : Runs step may s s := Relation.ReflTransGen.refl

theorem single {action : α} (steps : step s action s') (permitted : may s action) :
    Runs step may s s' := Relation.ReflTransGen.single ⟨action, permitted, steps⟩

theorem trans (first : Runs step may s s') (second : Runs step may s' s'') :
    Runs step may s s'' := Relation.ReflTransGen.trans first second

/-- What permitted steps preserve holds in every state of a run. -/
theorem invariant (inv : σ → Prop)
    (preserves : ∀ before action after, inv before → may before action →
      step before action after → inv after)
    (start : inv s) (run : Runs step may s s') : inv s' := by
  induction run with
  | refl => exact start
  | tail _ move ih =>
      obtain ⟨action, permitted, steps⟩ := move
      exact preserves _ action _ ih permitted steps

end Runs

end PermittedRuns
