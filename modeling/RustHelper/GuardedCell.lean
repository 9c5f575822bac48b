import RustHelper.TaskHistories

/-!
# A cell behind a mutex

Tasks share a cell that has a mutex of its own.  A task works, and then may update the
cell: it takes the mutex, reads, writes back what it makes of the value, and gives the
mutex back.  However the tasks are interleaved, no update is lost or made twice.
-/

namespace Effect.GuardedCell

open LockInterleaving

variable {L : LockInterface} {V : Type}

/-- An operation on the cell, or one of the given interface. -/
inductive CellOp (L : LockInterface) (V : Type)
  | inner (op : L.Op)
  | lock
  | unlock
  | read
  | write (value : V)

namespace CellOp

def Answer : CellOp L V → Type
  | .inner op => L.Answer op
  | .read => V
  | _ => Unit

def action : CellOp L V → LockAction (Option L.Mutex)
  | .inner op =>
      match L.action op with
      | .acquire mutex => .acquire (some mutex)
      | .release mutex => .release (some mutex)
      | .other => .other
  | .lock => .acquire none
  | .unlock => .release none
  | _ => .other

def writes : CellOp L V → Bool
  | .write _ => true
  | _ => false

/-- The value of the cell after the operation. -/
def leaves (cell : V) : CellOp L V → V
  | .write value => value
  | _ => cell

/-- Whether the mutex of the cell is owned after the operation. -/
def owns (owned : Prop) : CellOp L V → Prop
  | .lock => True
  | .unlock => False
  | _ => owned

/-- Reading the cell gives its value. -/
def Sees (cell : V) : (op : CellOp L V) → op.Answer → Prop
  | .read, value => value = cell
  | _, _ => True

instance Sees.decidable [DecidableEq V] (cell : V) :
    (op : CellOp L V) → (answer : op.Answer) → Decidable (op.Sees cell answer)
  | .read, value => (inferInstance : DecidableEq V) value cell
  | .inner _, _ => isTrue trivial
  | .lock, _ => isTrue trivial
  | .unlock, _ => isTrue trivial
  | .write _, _ => isTrue trivial

/-- Every operation has an answer that the cell allows. -/
theorem exists_sees [∀ op, Nonempty (L.Answer op)] (cell : V) (op : CellOp L V) :
    ∃ answer : op.Answer, op.Sees cell answer := by
  cases op with
  | inner op =>
      obtain ⟨answer⟩ : Nonempty (L.Answer op) := inferInstance
      exact ⟨answer, trivial⟩
  | read => exact ⟨cell, rfl⟩
  | lock | unlock | write => exact ⟨(), trivial⟩

theorem leaves_of_not_writes {cell : V} {op : CellOp L V} (reads : ¬ op.writes = true) :
    leaves cell op = cell := by
  cases op with
  | write value => exact absurd rfl reads
  | _ => rfl

variable {op : L.Op} {mutex : L.Mutex}

theorem action_acquire (acts : L.action op = .acquire mutex) :
    (inner op : CellOp L V).action = .acquire (some mutex) := by
  simp only [action, acts]

theorem action_release (acts : L.action op = .release mutex) :
    (inner op : CellOp L V).action = .release (some mutex) := by
  simp only [action, acts]

theorem action_other (acts : L.action op = .other) : (inner op : CellOp L V).action = .other := by
  simp only [action, acts]

end CellOp

/-- The interface with a cell, whose mutex is `none`. -/
def withCell (L : LockInterface) (V : Type) : LockInterface where
  Op := CellOp L V
  Answer := CellOp.Answer
  Mutex := Option L.Mutex
  lock
    | some mutex => .inner (L.lock mutex)
    | none => .lock
  unlock
    | some mutex => .inner (L.unlock mutex)
    | none => .unlock
  action := CellOp.action
  action_lock mutex := by
    cases mutex with
    | some mutex => exact CellOp.action_acquire (L.action_lock mutex)
    | none => rfl
  action_unlock mutex := by
    cases mutex with
    | some mutex => exact CellOp.action_release (L.action_unlock mutex)
    | none => rfl

instance [DecidableEq L.Mutex] : DecidableEq (withCell L V).Mutex :=
  inferInstanceAs (DecidableEq (Option L.Mutex))

abbrev CellEvent (L : LockInterface) (V : Type) := Event (withCell L V).toInterface

section Programs

variable {α β : Type}

/-- A program that does not touch the cell. -/
def embed : Prog L.toInterface α → Prog (withCell L V).toInterface α
  | .done value => .done value
  | .call op next => .call (CellOp.inner op : CellOp L V) fun answer => embed (next answer)

/-- `*cell.lock() = change(*cell)`, and then return `value`. -/
def update (change : V → V) (value : β) : Prog (withCell L V).toInterface β :=
  .call (CellOp.lock : CellOp L V) fun _ =>
    .call (CellOp.read : CellOp L V) fun seen =>
      .call (CellOp.write (change seen) : CellOp L V) fun _ =>
        .call (CellOp.unlock : CellOp L V) fun _ => .done value

/-- Work, and then update the cell if the work is to be committed. -/
def working (commits : α → Bool) (change : V → V) (result : α → β) (work : Prog L.toInterface α) :
    Prog (withCell L V).toInterface β :=
  (embed work).bind fun value =>
    if commits value then update change (result value) else .done (result value)

end Programs

section Histories

variable {Task : Type}

/-- The value of the cell after the events. -/
def cellAfter (start : V) (history : List (Task × CellEvent L V)) : V :=
  history.foldl (fun cell entry => CellOp.leaves cell entry.2.op) start

/-- Whoever reads the cell is given the value last written. -/
def Coherent : V → List (Task × CellEvent L V) → Prop
  | _, [] => True
  | cell, (_, event) :: history =>
      CellOp.Sees cell event.op event.answer ∧ Coherent (CellOp.leaves cell event.op) history

instance Coherent.decidable [DecidableEq V] :
    (cell : V) → (history : List (Task × CellEvent L V)) → Decidable (Coherent cell history)
  | _, [] => isTrue trivial
  | cell, (_, event) :: history =>
      have : Decidable (CellOp.Sees cell event.op event.answer) := CellOp.Sees.decidable _ _ _
      have : Decidable (Coherent (CellOp.leaves cell event.op) history) := Coherent.decidable _ _
      inferInstanceAs (Decidable (CellOp.Sees cell event.op event.answer ∧ _))

/-- The tasks that have written the cell, in the order of their writes. -/
def writers (history : List (Task × CellEvent L V)) : List Task :=
  history.filterMap fun entry => if CellOp.writes entry.2.op then some entry.1 else none

/-- The events that are not about the cell. -/
def innerEvents (events : List (CellEvent L V)) : List (Event L.toInterface) :=
  events.filterMap fun
    | ⟨CellOp.inner op, answer⟩ => some ⟨op, answer⟩
    | _ => none

variable {start : V} {history : List (Task × CellEvent L V)} {task : Task}

theorem cellAfter_concat (event : CellEvent L V) :
    cellAfter start (history ++ [(task, event)]) =
      CellOp.leaves (cellAfter start history) event.op := by
  simp only [cellAfter, List.foldl_append, List.foldl_cons, List.foldl_nil]

theorem writers_concat (event : CellEvent L V) :
    writers (history ++ [(task, event)]) =
      if CellOp.writes event.op then writers history ++ [task] else writers history := by
  simp only [writers, List.filterMap_append]
  split <;> simp [*]

theorem innerEvents_append (first second : List (CellEvent L V)) :
    innerEvents (first ++ second) = innerEvents first ++ innerEvents second :=
  List.filterMap_append

theorem coherent_concat {event : CellEvent L V} :
    Coherent start (history ++ [(task, event)]) ↔
      Coherent start history ∧ CellOp.Sees (cellAfter start history) event.op event.answer := by
  induction history generalizing start with
  | nil => simp [Coherent, cellAfter]
  | cons entry history ih =>
      simp only [List.cons_append, Coherent, ih, and_assoc]
      rfl

end Histories

section Stages

variable {α β : Type} (commits : α → Bool) (change : V → V) (result : α → β)
  (work : Prog L.toInterface α)

/-- How far a task is, given the value of the cell, whether the task owns the mutex
of the cell and has written it, and what the task has done besides. -/
inductive Stage (cell : V) (owns wrote : Prop) (done : List (Event L.toInterface)) :
    Prog (withCell L V).toInterface β → Prop
  | works (rest : Prog L.toInterface α) (goes : work.Goes done rest) (unowned : ¬ owns)
      (unwritten : ¬ wrote) :
      Stage cell owns wrote done ((embed rest).bind fun value =>
        if commits value then update change (result value) else .done (result value))
  | reads (value : α) (goes : work.Goes done (.done value)) (commit : commits value = true)
      (owned : owns) (unwritten : ¬ wrote) :
      Stage cell owns wrote done (.call (CellOp.read : CellOp L V) fun seen =>
        .call (CellOp.write (change seen) : CellOp L V) fun _ =>
          .call (CellOp.unlock : CellOp L V) fun _ => .done (result value))
  | writes (value : α) (goes : work.Goes done (.done value)) (commit : commits value = true)
      (owned : owns) (unwritten : ¬ wrote) :
      Stage cell owns wrote done (.call (CellOp.write (change cell) : CellOp L V) fun _ =>
        .call (CellOp.unlock : CellOp L V) fun _ => .done (result value))
  | unlocks (value : α) (goes : work.Goes done (.done value)) (commit : commits value = true)
      (owned : owns) (written : wrote) :
      Stage cell owns wrote done
        (.call (CellOp.unlock : CellOp L V) fun _ => .done (result value))
  | updated (value : α) (goes : work.Goes done (.done value)) (commit : commits value = true)
      (unowned : ¬ owns) (written : wrote) :
      Stage cell owns wrote done (.done (result value))

variable {commits change result work} {cell : V} {owns wrote : Prop}
  {done : List (Event L.toInterface)} {program : Prog (withCell L V).toInterface β}

/-- The value of the cell matters only to the owner of its mutex. -/
theorem Stage.congr {cell' : V} {owns' wrote' : Prop}
    (stage : Stage commits change result work cell owns wrote done program)
    (sameCell : owns → cell' = cell) (sameOwner : owns' ↔ owns) (sameWritten : wrote' ↔ wrote) :
    Stage commits change result work cell' owns' wrote' done program := by
  cases stage with
  | works rest goes unowned unwritten =>
      exact .works rest goes (mt sameOwner.mp unowned) (mt sameWritten.mp unwritten)
  | reads value goes commit owned unwritten =>
      exact .reads value goes commit (sameOwner.mpr owned) (mt sameWritten.mp unwritten)
  | writes value goes commit owned unwritten =>
      rw [← sameCell owned]
      exact .writes value goes commit (sameOwner.mpr owned) (mt sameWritten.mp unwritten)
  | unlocks value goes commit owned written =>
      exact .unlocks value goes commit (sameOwner.mpr owned) (sameWritten.mpr written)
  | updated value goes commit unowned written =>
      exact .updated value goes commit (mt sameOwner.mp unowned) (sameWritten.mpr written)

/-- Only the owner of the mutex writes, for the first time, and what it makes of
the present value. -/
theorem Stage.of_write {op : CellOp L V}
    {next : (withCell L V).Answer op → Prog (withCell L V).toInterface β}
    (stage : Stage commits change result work cell owns wrote done (.call op next))
    (isWrite : op.writes = true) : owns ∧ ¬ wrote ∧ op.leaves cell = change cell := by
  generalize isProgram : Prog.call (I := (withCell L V).toInterface) op next = program at stage
  cases stage with
  | works rest goes unowned unwritten =>
      exfalso
      cases rest with
      | done value =>
          simp only [embed, Prog.bind] at isProgram
          split at isProgram
          · cases isProgram
            cases isWrite
          · cases isProgram
      | call op next =>
          cases isProgram
          cases isWrite
  | reads value goes commit owned unwritten =>
      cases isProgram
      cases isWrite
  | writes value goes commit owned unwritten =>
      cases isProgram
      exact ⟨owned, unwritten, rfl⟩
  | unlocks value goes commit owned written =>
      cases isProgram
      cases isWrite
  | updated value goes commit unowned written => cases isProgram

/-- The next stage of the task that performs the event. -/
theorem Stage.step {event : CellEvent L V}
    {next : (withCell L V).Answer event.op → Prog (withCell L V).toInterface β}
    (stage : Stage commits change result work cell owns wrote done (.call event.op next))
    (sees : CellOp.Sees cell event.op event.answer) :
    Stage commits change result work (CellOp.leaves cell event.op) (CellOp.owns owns event.op)
      (wrote ∨ CellOp.writes event.op = true) (done ++ innerEvents [event])
      (next event.answer) := by
  obtain ⟨op, answer⟩ := event
  generalize isProgram : Prog.call (I := (withCell L V).toInterface) op next = program at stage
  -- an operation on the cell adds nothing to what the task has done besides
  cases stage with
  | works rest goes unowned unwritten =>
      cases rest with
      | done value =>
          simp only [embed, Prog.bind] at isProgram
          split at isProgram
          · rename_i commit
            cases isProgram
            rw [← List.append_nil done] at goes
            exact .reads value goes commit trivial (by simp [CellOp.writes, unwritten])
          · cases isProgram
      | call inner rest =>
          cases isProgram
          exact .works (rest answer) (goes.step answer) unowned (by simp [CellOp.writes, unwritten])
  | reads value goes commit owned unwritten =>
      cases isProgram
      cases sees
      rw [← List.append_nil done] at goes
      exact .writes value goes commit owned (by simp [CellOp.writes, unwritten])
  | writes value goes commit owned unwritten =>
      cases isProgram
      rw [← List.append_nil done] at goes
      exact .unlocks value goes commit owned (.inr rfl)
  | unlocks value goes commit owned written =>
      cases isProgram
      rw [← List.append_nil done] at goes
      exact .updated value goes commit id (.inl written)
  | updated value goes commit unowned written => cases isProgram

/-- A task writes after its work is done, and only if it is to be committed. -/
theorem Stage.committed
    (stage : Stage commits change result work cell owns wrote done program) (written : wrote) :
    ∃ value, work.Goes done (.done value) ∧ commits value = true := by
  cases stage with
  | works rest goes unowned unwritten => exact absurd written unwritten
  | reads value goes commit owned unwritten => exact absurd written unwritten
  | writes value goes commit owned unwritten => exact absurd written unwritten
  | unlocks value goes commit owned written => exact ⟨value, goes, commit⟩
  | updated value goes commit unowned written => exact ⟨value, goes, commit⟩

/-- A task that has ended has written exactly if its work was to be committed. -/
theorem Stage.ended {final : β}
    (stage : Stage commits change result work cell owns wrote done (.done final)) :
    ∃ value, work.Goes done (.done value) ∧ final = result value ∧
      (wrote ↔ commits value = true) := by
  generalize isProgram : Prog.done (I := (withCell L V).toInterface) final = program at stage
  cases stage with
  | works rest goes unowned unwritten =>
      cases rest with
      | done value =>
          simp only [embed, Prog.bind] at isProgram
          split at isProgram
          · cases isProgram
          · rename_i drops
            cases isProgram
            exact ⟨value, goes, rfl, iff_of_false unwritten drops⟩
      | call op next => cases isProgram
  | reads value goes commit owned unwritten => cases isProgram
  | writes value goes commit owned unwritten => cases isProgram
  | unlocks value goes commit owned written => cases isProgram
  | updated value goes commit unowned written =>
      cases isProgram
      exact ⟨value, goes, rfl, iff_of_true written commit⟩

end Stages

section Discipline

variable {α β : Type} {rank : L.Mutex → Nat}

/-- The mutex of the cell ranks below the others: none is taken inside it. -/
def cellRank (rank : L.Mutex → Nat) : Option L.Mutex → Nat
  | some mutex => rank mutex
  | none => 0

theorem cellRank_le {top : Nat} (bounded : ∀ mutex, rank mutex ≤ top) (mutex : Option L.Mutex) :
    cellRank rank mutex ≤ top := by
  cases mutex with
  | some mutex => exact bounded mutex
  | none => exact Nat.zero_le top

/-- The same mutexes, of the interface with the cell. -/
def besides (V : Type) (held : Set L.Mutex) : Set (withCell L V).Mutex :=
  Set.image (some : L.Mutex → Option L.Mutex) held

theorem besides_empty : besides V (∅ : Set L.Mutex) = ∅ := Set.image_empty _

theorem besides_insert (mutex : L.Mutex) (held : Set L.Mutex) :
    besides V (insert mutex held) = insert (some mutex : Option L.Mutex) (besides V held) :=
  Set.image_insert_eq

theorem besides_sdiff (held : Set L.Mutex) (mutex : L.Mutex) :
    besides V (held \ {mutex}) = besides V held \ {(some mutex : Option L.Mutex)} := by
  apply (Set.image_sdiff (Option.some_injective _) _ _).trans
  rw [Set.image_singleton]
  rfl

theorem embed_disciplined {held final : Set L.Mutex} {program : Prog L.toInterface α}
    (disciplined : Disciplined rank (fun _ => True) held final program) :
    Disciplined (L := withCell L V) (cellRank rank) (fun _ => True) (besides V held)
      (besides V final) (embed program) := by
  induction program generalizing held with
  | done value => exact congrArg (besides V) disciplined
  | call op next ih =>
      simp only [Disciplined] at disciplined
      cases acts : L.action op with
      | acquire mutex =>
          simp only [acts] at disciplined
          have acquires : (withCell L V).action (CellOp.inner op : CellOp L V) =
            .acquire (some mutex : Option L.Mutex) := CellOp.action_acquire (V := V) acts
          apply Disciplined.acquire acquires
          · rintro _ ⟨other, isHeld, rfl⟩
            exact disciplined.1 other isHeld
          · intro answer
            have goesOn := ih answer (disciplined.2 answer)
            rw [besides_insert] at goesOn
            exact goesOn
      | release mutex =>
          simp only [acts] at disciplined
          have releases : (withCell L V).action (CellOp.inner op : CellOp L V) =
            .release (some mutex : Option L.Mutex) := CellOp.action_release (V := V) acts
          apply Disciplined.release releases
          · exact Set.mem_image_of_mem some disciplined.1
          · intro answer
            have goesOn := ih answer (disciplined.2 answer)
            rw [besides_sdiff] at goesOn
            exact goesOn
      | other =>
          simp only [acts] at disciplined
          have neutral : (withCell L V).action (CellOp.inner op : CellOp L V) = .other :=
            CellOp.action_other (V := V) acts
          apply Disciplined.other neutral
          exact fun answer _ => ih answer (disciplined answer trivial)

theorem update_disciplined (change : V → V) (value : β) :
    Disciplined (L := withCell L V) (cellRank rank) (fun _ => True) ∅ ∅ (update change value) := by
  refine ⟨fun _ => nofun, ?_⟩
  intro _ seen _ _ _
  refine ⟨Set.mem_insert _ _, ?_⟩
  intro _
  exact Set.insert_sdiff_self_of_notMem (Set.notMem_empty _)

theorem working_disciplined (commits : α → Bool) (change : V → V) (result : α → β)
    {work : Prog L.toInterface α} (disciplined : Disciplined rank (fun _ => True) ∅ ∅ work) :
    Disciplined (L := withCell L V) (cellRank rank) (fun _ => True) ∅ ∅
      (working commits change result work) := by
  have embedded := embed_disciplined (V := V) disciplined
  rw [besides_empty] at embedded
  apply embedded.bind
  intro value
  split
  · exact update_disciplined change _
  · exact rfl

end Discipline

section Interleavings

variable {Task α β : Type} [DecidableEq Task] [DecidableEq L.Mutex]

omit [DecidableEq L.Mutex] in
theorem none_mem_heldAfter (held : Set (Option L.Mutex)) (event : CellEvent L V) :
    none ∈ heldAfter (L := withCell L V) held [event] ↔ CellOp.owns (none ∈ held) event.op := by
  obtain ⟨op, answer⟩ := event
  cases op with
  | inner op =>
      simp only [heldAfter, withCell, CellOp.action]
      cases acts : L.action op with
      | acquire mutex =>
          change none ∈ insert (some mutex) held ↔ none ∈ held
          simp
      | release mutex =>
          change none ∈ held \ {some mutex} ↔ none ∈ held
          simp
      | other => exact Iff.rfl
  | lock => exact iff_of_true (Set.mem_insert none held) trivial
  | unlock => exact iff_of_false (fun kept => kept.2 rfl) id
  | read => exact Iff.rfl
  | write value => exact Iff.rfl

theorem cell_owner {before after : State (withCell L V) Task β} {mover : Task}
    {event : CellEvent L V} (step : Step before mover event after) (task : Task) :
    after.owner none = some task ↔
      if mover = task then CellOp.owns (before.owner none = some task) event.op
      else before.owner none = some task := by
  have owned := Set.ext_iff.mp (step.owned task) none
  refine Iff.trans owned ?_
  by_cases isTask : mover = task
  · subst isTask
    rw [ofTask_own, if_pos rfl]
    exact none_mem_heldAfter _ event
  · rw [ofTask_other isTask, if_neg isTask]
    exact Iff.rfl

omit [DecidableEq Task] [DecidableEq L.Mutex] in
theorem mem_writers_concat {history : List (Task × CellEvent L V)} {mover task : Task}
    {event : CellEvent L V} :
    task ∈ writers (history ++ [(mover, event)]) ↔
      task ∈ writers history ∨ (mover = task ∧ CellOp.writes event.op = true) := by
  rw [writers_concat]
  split
  · rename_i written
    simp [written, eq_comm]
  · rename_i unwritten
    simp [unwritten]

section Updating

variable (commits : α → Bool) (change : Task → V → V) (result : α → β)
  (work : Task → Prog L.toInterface α) (start : V)

/-- The cell holds what the writers make of it one after the other, each of them
once, and every task is at some stage. -/
structure Updated (history : List (Task × CellEvent L V)) (state : State (withCell L V) Task β) :
    Prop where
  cell : cellAfter start history =
    (writers history).foldl (fun cell task => change task cell) start
  once : (writers history).Nodup
  stage : ∀ task, Stage commits (change task) result (work task) (cellAfter start history)
    (state.owner none = some task) (task ∈ writers history) (innerEvents (ofTask task history))
    (state.program task)

variable {commits change result work start} {may : Task → CellEvent L V → Prop}
  {history : List (Task × CellEvent L V)} {state : State (withCell L V) Task β}

/-- The tasks that do not move stay at their stages: a write changes the cell only
for the owner of its mutex. -/
theorem Updated.others {before after : State (withCell L V) Task β} {mover task : Task}
    {event : CellEvent L V} (updated : Updated commits change result work start history before)
    (step : Step before mover event after) (differs : mover ≠ task)
    (owned : CellOp.writes event.op = true → before.owner none = some mover) :
    Stage commits (change task) result (work task) (cellAfter start (history ++ [(mover, event)]))
      (after.owner none = some task) (task ∈ writers (history ++ [(mover, event)]))
      (innerEvents (ofTask task (history ++ [(mover, event)]))) (after.program task) := by
  have quiet : innerEvents (ofTask task [(mover, event)]) = [] := by
    rw [ofTask_other differs]
    rfl
  rw [cellAfter_concat, ofTask_append, innerEvents_append, quiet, List.append_nil,
    step.stays differs]
  apply (updated.stage task).congr
  · intro owns
    apply CellOp.leaves_of_not_writes
    intro isWrite
    rw [owned isWrite] at owns
    exact differs (Option.some.inj owns)
  · simp [cell_owner step, differs]
  · simp [mem_writers_concat, differs]

theorem Updated.step {before after : State (withCell L V) Task β} {mover : Task}
    {event : CellEvent L V} (updated : Updated commits change result work start history before)
    (sees : CellOp.Sees (cellAfter start history) event.op event.answer)
    (step : Step before mover event after) :
    Updated commits change result work start (history ++ [(mover, event)]) after := by
  obtain ⟨next, atCall, goesOn⟩ := step.goesOn
  have mine := updated.stage mover
  rw [atCall] at mine
  refine ⟨?_, ?_, ?_⟩
  · rw [cellAfter_concat, writers_concat]
    split
    · rename_i isWrite
      rw [List.foldl_append, ← updated.cell, (mine.of_write isWrite).2.2]
      rfl
    · rename_i notWrite
      rw [← updated.cell]
      exact CellOp.leaves_of_not_writes notWrite
  · rw [writers_concat]
    split
    · rename_i isWrite
      apply List.nodup_append.mpr
      refine ⟨updated.once, List.nodup_singleton mover, ?_⟩
      rintro writer isWriter _ isMover rfl
      cases List.mem_singleton.mp isMover
      exact (mine.of_write isWrite).2.1 isWriter
    · exact updated.once
  · intro task
    by_cases isTask : mover = task
    · subst isTask
      rw [cellAfter_concat, ofTask_append, innerEvents_append, goesOn, ofTask_own]
      apply (mine.step sees).congr (fun _ => rfl)
      · simp [cell_owner step]
      · simp [mem_writers_concat]
    · exact updated.others step isTask fun isWrite => (mine.of_write isWrite).1

/-- No update is lost and none is made twice, however the tasks are interleaved. -/
theorem updated_of_coherent
    (recorded : Recorded may
      (initial fun task => working commits (change task) result (work task)) history state)
    (coherent : Coherent start history) :
    Updated commits change result work start history state := by
  induction recorded with
  | start =>
      refine ⟨rfl, List.nodup_nil, ?_⟩
      intro task
      exact .works (work task) (.stay _) (by simp [initial]) (by simp [writers])
  | step recorded permitted step ih =>
      obtain ⟨earlier, sees⟩ := coherent_concat.mp coherent
      exact (ih earlier).step sees step

end Updating

end Interleavings

end Effect.GuardedCell
