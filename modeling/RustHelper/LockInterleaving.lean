import RustHelper.FallibleProgram
import Mathlib.Data.Finset.Max
import Mathlib.Data.Set.Insert
import Mathlib.Logic.Function.Basic

/-!
# Tasks that share non-reentrant mutexes

Tasks are programs whose interface has operations that take and release
mutexes.  A task that asks for a mutex waits until nobody owns it, its own
guard included.  A program is disciplined when it asks only for mutexes ranked
above everything it holds and gives back everything it takes.  Disciplined
tasks never deadlock, whatever the schedule and whatever the answers.
-/

namespace Effect

/-- What an operation does to the mutexes. -/
inductive LockAction (Mutex : Type)
  | acquire (mutex : Mutex)
  | release (mutex : Mutex)
  | other

/-- An interface some of whose operations take or release a mutex. -/
structure LockInterface extends Interface where
  Mutex : Type
  lock : Mutex → Op
  unlock : Mutex → Op
  action : Op → LockAction Mutex
  action_lock : ∀ mutex, action (lock mutex) = .acquire mutex
  action_unlock : ∀ mutex, action (unlock mutex) = .release mutex

variable {L : LockInterface}

/-- A block that binds the guard of `mutex`: the guard is dropped when the block
ends, also when it is left early by an error or a panic. -/
def Fallible.withGuard {ε α : Type} (mutex : L.Mutex)
    (body : Fallible L.toInterface ε α) : Fallible L.toInterface ε α :=
  Prog.call (L.lock mutex) fun _ =>
    Prog.bind body fun outcome =>
      Prog.call (L.unlock mutex) fun _ => Prog.done outcome

theorem Fallible.outcome_withGuard {ε α : Type} {mutex : L.Mutex}
    {body : Fallible L.toInterface ε α} (world : World L.toInterface) (clock : Nat) :
    (Fallible.withGuard mutex body).outcome world clock = body.outcome world (clock + 1) :=
  Prog.result_bind world (clock + 1) body _

theorem Fallible.ensures_withGuard {ε α : Type} {mutex : L.Mutex}
    {body : Fallible L.toInterface ε α}
    {post : Outcome ε α → List (Event L.toInterface) → Prop} :
    (Fallible.withGuard mutex body).Ensures post ↔
      ∀ locked, body.Ensures fun outcome trace =>
        ∀ unlocked, post outcome
          (⟨L.lock mutex, locked⟩ :: (trace ++ [⟨L.unlock mutex, unlocked⟩])) :=
  forall_congr' fun _ => Prog.ensures_bind

theorem Fallible.Returns.withGuard {ε α : Type} {mutex : L.Mutex}
    {body : Fallible L.toInterface ε α} {post : α → List (Event L.toInterface) → Prop}
    (inside : body.Returns fun value trace => ∀ locked unlocked,
      post value (⟨L.lock mutex, locked⟩ :: (trace ++ [⟨L.unlock mutex, unlocked⟩]))) :
    (Fallible.withGuard mutex body).Returns post := by
  apply Fallible.ensures_withGuard.mpr
  intro locked
  apply Fallible.Ensures.mono inside
  intro outcome trace holds unlocked value isOk
  exact holds value isOk locked unlocked

theorem Fallible.Confined.withGuard {ε α : Type} {mutex : L.Mutex}
    {body : Fallible L.toInterface ε α} {allowed : Event L.toInterface → Prop}
    {returns : α → Prop} (takes : ∀ locked, allowed ⟨L.lock mutex, locked⟩)
    (gives : ∀ unlocked, allowed ⟨L.unlock mutex, unlocked⟩)
    (inside : Fallible.Confined allowed returns body) :
    Fallible.Confined allowed returns (Fallible.withGuard mutex body) := by
  apply Prog.Confined.call takes
  intro _
  apply Prog.Confined.bind inside
  intro outcome holds
  exact .call gives fun _ => .done holds

/-- What is read from the events is not affected by a guard around them. -/
theorem filterMap_guarded {α : Type} {read : Event L.toInterface → Option α} {mutex : L.Mutex}
    {locked : L.Answer (L.lock mutex)} {unlocked : L.Answer (L.unlock mutex)}
    (quietLock : read ⟨L.lock mutex, locked⟩ = none)
    (quietUnlock : read ⟨L.unlock mutex, unlocked⟩ = none) (events : List (Event L.toInterface)) :
    (⟨L.lock mutex, locked⟩ :: (events ++ [⟨L.unlock mutex, unlocked⟩])).filterMap read =
      events.filterMap read := by
  have last : [(⟨L.unlock mutex, unlocked⟩ : Event L.toInterface)].filterMap read = [] :=
    List.filterMap_cons_none quietUnlock
  rw [List.filterMap_cons_none quietLock, List.filterMap_append, last, List.append_nil]

namespace LockInterleaving

/-- The remaining program of every task and the owner of every mutex. -/
structure State (L : LockInterface) (Task α : Type) where
  program : Task → Prog L.toInterface α
  owner : L.Mutex → Option Task

def initial {Task α : Type} (program : Task → Prog L.toInterface α) : State L Task α :=
  ⟨program, fun _ => none⟩

variable {Task α β : Type}

section Schedules

variable [DecidableEq Task] [DecidableEq L.Mutex]

/-- One task performs its next operation. -/
inductive Step : State L Task α → Task → Event L.toInterface → State L Task α → Prop
  | acquire {state : State L Task α} {task : Task} {op : L.Op}
      {next : L.Answer op → Prog L.toInterface α} {mutex : L.Mutex} (answer : L.Answer op)
      (atCall : state.program task = .call op next) (acquires : L.action op = .acquire mutex)
      (free : state.owner mutex = none) :
      Step state task ⟨op, answer⟩
        ⟨Function.update state.program task (next answer),
          Function.update state.owner mutex (some task)⟩
  | release {state : State L Task α} {task : Task} {op : L.Op}
      {next : L.Answer op → Prog L.toInterface α} {mutex : L.Mutex} (answer : L.Answer op)
      (atCall : state.program task = .call op next) (releases : L.action op = .release mutex)
      (owned : state.owner mutex = some task) :
      Step state task ⟨op, answer⟩
        ⟨Function.update state.program task (next answer),
          Function.update state.owner mutex none⟩
  | other {state : State L Task α} {task : Task} {op : L.Op}
      {next : L.Answer op → Prog L.toInterface α} (answer : L.Answer op)
      (atCall : state.program task = .call op next) (neutral : L.action op = .other) :
      Step state task ⟨op, answer⟩
        ⟨Function.update state.program task (next answer), state.owner⟩

/-- States reached from `start` by steps that are all permitted by `may`. -/
inductive Reached (may : Task → Event L.toInterface → Prop) (start : State L Task α) :
    State L Task α → Prop
  | start : Reached may start start
  | step {before after : State L Task α} {task : Task} {event : Event L.toInterface} :
      Reached may start before → may task event → Step before task event after →
        Reached may start after

/-- Let a task perform its next operation, if it can, with the given answers. -/
def advance (answer : (op : L.Op) → L.Answer op) (state : State L Task α) (task : Task) :
    Option (State L Task α) :=
  match state.program task with
  | .done _ => none
  | .call op next =>
      let program := Function.update state.program task (next (answer op))
      match L.action op with
      | .acquire mutex =>
          if state.owner mutex = none then
            some ⟨program, Function.update state.owner mutex (some task)⟩
          else none
      | .release mutex =>
          if state.owner mutex = some task then
            some ⟨program, Function.update state.owner mutex none⟩
          else none
      | .other => some ⟨program, state.owner⟩

theorem advance_step {answer : (op : L.Op) → L.Answer op} {before after : State L Task α}
    {task : Task} (advances : advance answer before task = some after) :
    ∃ event, Step before task event after := by
  unfold advance at advances
  cases atCall : before.program task with
  | done value => simp [atCall] at advances
  | call op next =>
      simp only [atCall] at advances
      cases acts : L.action op with
      | acquire mutex =>
          simp only [acts] at advances
          split_ifs at advances with free
          cases advances
          exact ⟨_, .acquire _ atCall acts free⟩
      | release mutex =>
          simp only [acts] at advances
          split_ifs at advances with owned
          cases advances
          exact ⟨_, .release _ atCall acts owned⟩
      | other =>
          simp only [acts] at advances
          cases advances
          exact ⟨_, .other _ atCall acts⟩

/-- Let the tasks of a schedule perform one operation each, in turn. -/
def play (answer : (op : L.Op) → L.Answer op) (start : State L Task α) :
    List Task → Option (State L Task α)
  | [] => some start
  | task :: schedule =>
      match advance answer start task with
      | none => none
      | some state => play answer state schedule

theorem Reached.trans {may : Task → Event L.toInterface → Prop}
    {start middle state : State L Task α} (first : Reached may start middle)
    (second : Reached may middle state) : Reached may start state := by
  induction second with
  | start => exact first
  | step _ permitted step ih => exact .step ih permitted step

/-- What a schedule plays is reached, when every step is permitted. -/
theorem play_reached {may : Task → Event L.toInterface → Prop}
    {answer : (op : L.Op) → L.Answer op} {start state : State L Task α} {schedule : List Task}
    (permitted : ∀ task event, may task event)
    (plays : play answer start schedule = some state) : Reached may start state := by
  induction schedule generalizing start with
  | nil =>
      cases plays
      exact .start
  | cons task schedule ih =>
      unfold play at plays
      cases advances : advance answer start task with
      | none => simp [advances] at plays
      | some middle =>
          simp only [advances] at plays
          obtain ⟨event, step⟩ := advance_step advances
          exact Reached.trans (.step .start (permitted task event) step) (ih plays)

end Schedules

/-- The task's next operation asks for the mutex. -/
def Requests (state : State L Task α) (task : Task) (mutex : L.Mutex) : Prop :=
  ∃ op next, state.program task = .call op next ∧ L.action op = .acquire mutex

/-- Every task of the set waits for a mutex owned by a task of the set. -/
def Deadlocked (state : State L Task α) (tasks : Finset Task) : Prop :=
  tasks.Nonempty ∧ ∀ task ∈ tasks, ∃ mutex, Requests state task mutex ∧
    ∃ holder ∈ tasks, state.owner mutex = some holder

section Discipline

variable (rank : L.Mutex → Nat) (may : Event L.toInterface → Prop)

/-- Started while holding `held`, the program asks only for mutexes ranked
above all it holds, releases only what it holds, and ends holding `final`.
Answers excluded by `may` are not considered. -/
def Disciplined : Set L.Mutex → Set L.Mutex → Prog L.toInterface α → Prop
  | held, final, .done _ => held = final
  | held, final, .call op next =>
      match L.action op with
      | .acquire mutex =>
          (∀ other ∈ held, rank other < rank mutex) ∧
            ∀ answer, Disciplined (insert mutex held) final (next answer)
      | .release mutex =>
          mutex ∈ held ∧ ∀ answer, Disciplined (held \ {mutex}) final (next answer)
      | .other => ∀ answer, may ⟨op, answer⟩ → Disciplined held final (next answer)

variable {rank may}

theorem Disciplined.bind {held middle final : Set L.Mutex} {program : Prog L.toInterface α}
    {next : α → Prog L.toInterface β} (first : Disciplined rank may held middle program)
    (rest : ∀ value, Disciplined rank may middle final (next value)) :
    Disciplined rank may held final (program.bind next) := by
  induction program generalizing held with
  | done value =>
      cases first
      exact rest value
  | call op branch ih =>
      simp only [Disciplined, Prog.bind] at first ⊢
      cases acts : L.action op with
      | acquire mutex =>
          simp only [acts] at first ⊢
          exact ⟨first.1, fun answer => ih answer (first.2 answer)⟩
      | release mutex =>
          simp only [acts] at first ⊢
          exact ⟨first.1, fun answer => ih answer (first.2 answer)⟩
      | other =>
          simp only [acts] at first ⊢
          exact fun answer allowed => ih answer (first answer allowed)

end Discipline

section Deadlock

variable (rank : L.Mutex → Nat) (may : Task → Event L.toInterface → Prop)

/-- Every task is disciplined from the mutexes it owns down to none. -/
def Ordered (state : State L Task α) : Prop :=
  ∀ task, Disciplined rank (may task) {mutex | state.owner mutex = some task} ∅
    (state.program task)

variable {rank may}

section Ownership

variable [DecidableEq L.Mutex] {owner : L.Mutex → Option Task} {mutex : L.Mutex} {task : Task}

theorem owned_update_self :
    {m | Function.update owner mutex (some task) m = some task} =
      insert mutex {m | owner m = some task} := by
  ext m
  by_cases at_mutex : m = mutex <;> simp [at_mutex]

theorem owned_update_none :
    {m | Function.update owner mutex none m = some task} =
      {m | owner m = some task} \ {mutex} := by
  ext m
  by_cases at_mutex : m = mutex <;> simp [at_mutex]

/-- The mutexes of a task that neither gives nor gets the mutex stay the same. -/
theorem owned_update_other {holder : Option Task} (before : owner mutex ≠ some task)
    (after : holder ≠ some task) :
    {m | Function.update owner mutex holder m = some task} = {m | owner m = some task} := by
  ext m
  by_cases at_mutex : m = mutex
  · subst at_mutex
    simp [before, after]
  · simp [at_mutex]

end Ownership

theorem Ordered.step [DecidableEq Task] [DecidableEq L.Mutex] {before after : State L Task α}
    {task : Task} {event : Event L.toInterface} (ordered : Ordered rank may before)
    (permitted : may task event) (step : Step before task event after) :
    Ordered rank may after := by
  intro other
  have mine := ordered task
  have theirs := ordered other
  cases step with
  | @acquire op next mutex answer atCall acquires free =>
      rw [atCall] at mine
      simp only [Disciplined, acquires] at mine
      by_cases same : other = task
      · subst same
        simpa [owned_update_self] using mine.2 answer
      · have notBefore : before.owner mutex ≠ some other := by simp [free]
        have notAfter : some task ≠ some other := by simpa using Ne.symm same
        have owned := owned_update_other notBefore notAfter
        simpa [owned, Function.update_of_ne same] using theirs
  | @release op next mutex answer atCall releases held =>
      rw [atCall] at mine
      simp only [Disciplined, releases] at mine
      by_cases same : other = task
      · subst same
        simpa [owned_update_none] using mine.2 answer
      · have notBefore : before.owner mutex ≠ some other := by simpa [held] using Ne.symm same
        have notAfter : (none : Option Task) ≠ some other := nofun
        have owned := owned_update_other notBefore notAfter
        simpa [owned, Function.update_of_ne same] using theirs
  | @other op next answer atCall neutral =>
      rw [atCall] at mine
      simp only [Disciplined, neutral] at mine
      by_cases same : other = task
      · subst same
        simpa using mine answer permitted
      · simpa [Function.update_of_ne same] using theirs

theorem Ordered.reached [DecidableEq Task] [DecidableEq L.Mutex] {start state : State L Task α}
    (ordered : Ordered rank may start) (reached : Reached may start state) :
    Ordered rank may state := by
  induction reached with
  | start => exact ordered
  | step _ permitted step ih => exact ih.step permitted step

theorem Ordered.rank_lt {state : State L Task α} (ordered : Ordered rank may state)
    {task : Task} {wanted owned : L.Mutex} (requests : Requests state task wanted)
    (owns : state.owner owned = some task) : rank owned < rank wanted := by
  obtain ⟨op, next, atCall, acquires⟩ := requests
  have disciplined := ordered task
  rw [atCall] at disciplined
  simp only [Disciplined, acquires] at disciplined
  exact disciplined.1 owned owns

/-- Among waiting tasks, one that wants a mutex of the highest rank waits for a
task that wants a higher one. -/
theorem Ordered.not_deadlocked {state : State L Task α} (ordered : Ordered rank may state)
    (tasks : Finset Task) : ¬ Deadlocked state tasks := by
  classical
  rintro ⟨nonempty, waiting⟩
  obtain ⟨first, isFirst⟩ := nonempty
  have : Nonempty L.Mutex := ⟨(waiting first isFirst).choose⟩
  have : Nonempty Task := ⟨first⟩
  choose! wanted requests holder isMember owns using waiting
  obtain ⟨top, isTask, highest⟩ :=
    tasks.exists_max_image (fun task => rank (wanted task)) ⟨first, isFirst⟩
  have climbs : rank (wanted top) < rank (wanted (holder top)) :=
    ordered.rank_lt (requests _ (isMember top isTask)) (owns top isTask)
  exact absurd (highest _ (isMember top isTask)) (not_le_of_gt climbs)

theorem Ordered.not_relocks {state : State L Task α} (ordered : Ordered rank may state)
    {task : Task} {mutex : L.Mutex} (requests : Requests state task mutex) :
    state.owner mutex ≠ some task :=
  fun owns => lt_irrefl _ (ordered.rank_lt requests owns)

/-- Tasks that are disciplined from empty hands start ordered. -/
theorem Ordered.initial {program : Task → Prog L.toInterface α}
    (disciplined : ∀ task, Disciplined rank (may task) ∅ ∅ (program task)) :
    Ordered rank may (initial program) := by
  intro task
  simpa [LockInterleaving.initial] using disciplined task

end Deadlock

end LockInterleaving

namespace Fallible

open LockInterleaving

variable {ε δ γ η : Type} {rank : L.Mutex → Nat} {may : Event L.toInterface → Prop}
  {held : Set L.Mutex}

/-- The program ends with the guards it started with, on every way out. -/
def Keeps (rank : L.Mutex → Nat) (may : Event L.toInterface → Prop) (held : Set L.Mutex)
    (program : Fallible L.toInterface ε γ) : Prop :=
  Disciplined rank may held held program

namespace Keeps

theorem lift (outcome : Outcome ε γ) :
    Keeps rank may held (Fallible.lift outcome : Fallible L.toInterface ε γ) := rfl

theorem pure (value : γ) :
    Keeps rank may held (Pure.pure value : Fallible L.toInterface ε γ) := rfl

theorem throw (error : ε) :
    Keeps rank may held (Fallible.throw error : Fallible L.toInterface ε γ) := rfl

theorem bind {program : Fallible L.toInterface ε γ} {next : γ → Fallible L.toInterface ε η}
    (first : Keeps rank may held program) (rest : ∀ value, Keeps rank may held (next value)) :
    Keeps rank may held (program >>= next) := by
  apply Disciplined.bind (show Disciplined rank may held held program from first)
  rintro (value | error | message)
  · exact rest value
  · rfl
  · rfl

theorem mapErr {program : Fallible L.toInterface ε γ} {translate : ε → δ}
    (first : Keeps rank may held program) :
    Keeps rank may held (Fallible.mapErr translate program) :=
  Disciplined.bind (show Disciplined rank may held held program from first) fun _ => rfl

theorem perform {op : L.Op} (neutral : L.action op = .other) :
    Keeps rank may held (Fallible.perform op : Fallible L.toInterface ε (L.Answer op)) := by
  change Disciplined rank may held held (Prog.call op _)
  simp only [Disciplined, neutral]
  exact fun _ _ => trivial

theorem withGuard {mutex : L.Mutex} {body : Fallible L.toInterface ε γ}
    (above : ∀ other ∈ held, rank other < rank mutex)
    (inside : Keeps rank may (insert mutex held) body) :
    Keeps rank may held (Fallible.withGuard mutex body) := by
  change Disciplined rank may held held (Prog.call _ _)
  simp only [Disciplined, L.action_lock]
  refine ⟨above, fun _ => ?_⟩
  apply Disciplined.bind (show Disciplined rank may _ _ body from inside)
  intro outcome
  simp only [Disciplined, L.action_unlock, Set.mem_insert_iff, true_or, true_and]
  have fresh : mutex ∉ held := fun isHeld => lt_irrefl _ (above mutex isHeld)
  exact fun _ => Set.insert_sdiff_self_of_notMem fresh

end Keeps

end Fallible

end Effect
