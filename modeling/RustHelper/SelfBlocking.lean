import RustHelper.TaskHistories

/-!
# Programs that come to wait for themselves

A mutex is not reentrant: a task that asks for one that it owns never goes on.  A
program that does so after certain answers, and otherwise only ends in certain
ways, ends in no other way in any interleaving.
-/

namespace Effect.LockInterleaving

variable {L : LockInterface} {Task α : Type}

/-- The program asks for the mutex, which is among those held. -/
def Relocks (mutex : L.Mutex) (held : Set L.Mutex) (program : Prog L.toInterface α) : Prop :=
  mutex ∈ held ∧ ∃ op next, program = .call op next ∧ L.action op = .acquire mutex

/-- Started while holding `held`, the program asks for `again` while holding it,
right after each event of `wedges`; unless it asks for a mutex that it holds, it
ends as stated. -/
def Blocks (again : L.Mutex) (wedges : Event L.toInterface → Prop) (ends : α → Prop) :
    Set L.Mutex → Prog L.toInterface α → Prop
  | _, .done value => ends value
  | held, .call op next =>
      match L.action op with
      | .acquire mutex =>
          mutex ∈ held ∨ ∀ answer, Blocks again wedges ends (insert mutex held) (next answer)
      | .release mutex => ∀ answer, Blocks again wedges ends (held \ {mutex}) (next answer)
      | .other => ∀ answer, (wedges ⟨op, answer⟩ → Relocks again held (next answer)) ∧
          Blocks again wedges ends held (next answer)

variable {again : L.Mutex} {wedges : Event L.toInterface → Prop} {ends : α → Prop}

theorem Blocks.after_acquire {held : Set L.Mutex} {op : L.Op}
    {next : L.Answer op → Prog L.toInterface α} {mutex : L.Mutex}
    (blocks : Blocks again wedges ends held (.call op next))
    (acquires : L.action op = .acquire mutex) (fresh : mutex ∉ held) (answer : L.Answer op) :
    Blocks again wedges ends (insert mutex held) (next answer) := by
  simp only [Blocks, acquires] at blocks
  rcases blocks with isHeld | goesOn
  · exact absurd isHeld fresh
  · exact goesOn answer

theorem Blocks.after_release {held : Set L.Mutex} {op : L.Op}
    {next : L.Answer op → Prog L.toInterface α} {mutex : L.Mutex}
    (blocks : Blocks again wedges ends held (.call op next))
    (releases : L.action op = .release mutex) (answer : L.Answer op) :
    Blocks again wedges ends (held \ {mutex}) (next answer) := by
  simp only [Blocks, releases] at blocks
  exact blocks answer

theorem Blocks.after_other {held : Set L.Mutex} {op : L.Op}
    {next : L.Answer op → Prog L.toInterface α}
    (blocks : Blocks again wedges ends held (.call op next)) (neutral : L.action op = .other)
    (answer : L.Answer op) :
    (wedges ⟨op, answer⟩ → Relocks again held (next answer)) ∧
      Blocks again wedges ends held (next answer) := by
  simp only [Blocks, neutral] at blocks
  exact blocks answer

variable [DecidableEq Task] [DecidableEq L.Mutex]

def Owned (state : State L Task α) (task : Task) : Set L.Mutex :=
  {mutex | state.owner mutex = some task}

/-- Whoever moves, the program that is left of the task still blocks; and if the
task's own event is one that wedges, the task now asks for a mutex that it owns. -/
theorem Blocks.step {before after : State L Task α} {mover : Task} {event : Event L.toInterface}
    {task : Task} (blocks : Blocks again wedges ends (Owned before task) (before.program task))
    (moves : Step before mover event after)
    (quiet : wedges event → L.action event.op = .other) :
    Blocks again wedges ends (Owned after task) (after.program task) ∧
      (mover = task → wedges event → Relocks again (Owned after task) (after.program task)) := by
  have owned := moves.owned task
  by_cases isTask : mover = task
  · subst isTask
    cases moves with
    | @acquire op next mutex answer atCall acquires free =>
        rw [atCall] at blocks
        have fresh : mutex ∉ Owned before mover := by simp [Owned, free]
        constructor
        · simp only [Owned, owned_update_self, Function.update_self]
          exact blocks.after_acquire acquires fresh answer
        · intro _ wedging
          cases acquires.symm.trans (quiet wedging)
    | release answer atCall releases held =>
        rw [atCall] at blocks
        constructor
        · simp only [Owned, owned_update_none, Function.update_self]
          exact blocks.after_release releases answer
        · intro _ wedging
          cases releases.symm.trans (quiet wedging)
    | other answer atCall neutral =>
        rw [atCall] at blocks
        simp only [Owned, Function.update_self]
        have goesOn := blocks.after_other neutral answer
        exact ⟨goesOn.2, fun _ => goesOn.1⟩
  · rw [ofTask_other isTask] at owned
    refine ⟨?_, fun same => absurd same isTask⟩
    rw [Owned, owned, moves.stays isTask]
    exact blocks

variable {may : Task → Event L.toInterface → Prop} {state : State L Task α} {task : Task}

/-- In every interleaving the task blocks as its program does. -/
theorem Blocks.reached (program : Task → Prog L.toInterface α) (task : Task)
    (blocks : Blocks again wedges ends ∅ (program task))
    (quiet : ∀ event, wedges event → L.action event.op = .other)
    (reached : Reached may (initial program) state) :
    Blocks again wedges ends (Owned state task) (state.program task) := by
  induction reached with
  | start =>
      have nothing : Owned (initial program) task = ∅ := by simp [Owned, initial]
      rw [nothing]
      exact blocks
  | step _ _ step ih => exact (ih.step step (quiet _)).1

/-- From a wedging event on, the task stays where it is, and nobody else gets the
mutex that it asks for. -/
theorem Blocks.wedged {before after later : State L Task α} {event : Event L.toInterface}
    (blocks : Blocks again wedges ends (Owned before task) (before.program task))
    (quiet : wedges event → L.action event.op = .other) (step : Step before task event after)
    (wedging : wedges event)
    (reached : Reached may after later) :
    Requests later task again ∧ later.owner again = some task := by
  obtain ⟨owns, op, next, atCall, acquires⟩ := (blocks.step step quiet).2 rfl wedging
  obtain ⟨stays, still⟩ := stuck_forever ⟨op, next, atCall, acquires⟩ owns reached
  exact ⟨⟨op, next, stays.trans atCall, acquires⟩, still⟩

end Effect.LockInterleaving
