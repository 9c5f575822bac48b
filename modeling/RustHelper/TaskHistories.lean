import RustHelper.WarrantedEvents

/-!
# What each task has done in an interleaving

An interleaving is recorded as its events, each with the task that performed it.
The events of one task are a partial run of its own program, and it owns the
mutexes that it has taken and not given back.  So what is known of each program
alone holds in every interleaving, and disciplined tasks keep moving as long as
they wait only for each other.
-/

namespace Effect

namespace Prog

variable {I : Interface} {α : Type}

/-- The program performs the events, and `rest` is left of it. -/
inductive Goes : Prog I α → List (Event I) → Prog I α → Prop
  | stay (program : Prog I α) : Goes program [] program
  | call {op : I.Op} {next : I.Answer op → Prog I α} {answer : I.Answer op}
      {events : List (Event I)} {rest : Prog I α} (goes : Goes (next answer) events rest) :
      Goes (.call op next) (⟨op, answer⟩ :: events) rest

theorem Goes.step {program : Prog I α} {events : List (Event I)} {op : I.Op}
    {next : I.Answer op → Prog I α} (goes : Goes program events (.call op next))
    (answer : I.Answer op) : Goes program (events ++ [⟨op, answer⟩]) (next answer) := by
  generalize isRest : Prog.call op next = rest at goes
  induction goes with
  | stay program =>
      subst isRest
      exact .call (.stay _)
  | call goes ih => exact .call (ih isRest)

/-- What a program has done is warranted, and what is left of it keeps the warrant. -/
theorem Keeps.goes {warrant : List (Event I) → Event I → Prop} {past : List (Event I)}
    {returns : List (Event I) → α → Prop} {program rest : Prog I α} {events : List (Event I)}
    (keeps : Keeps warrant past returns program) (goes : Goes program events rest) :
    Warranted warrant past events ∧ Keeps warrant (events.reverse ++ past) returns rest := by
  induction goes generalizing past with
  | stay program => exact ⟨trivial, keeps⟩
  | @call op next answer events rest goes ih =>
      obtain ⟨granted, goesOn⟩ := keeps answer
      obtain ⟨warranted, left⟩ := ih goesOn
      refine ⟨⟨granted, warranted⟩, ?_⟩
      rw [List.reverse_cons, List.append_assoc]
      exact left

/-- What is specified of a program holds of the events after which it returned. -/
theorem Ensures.goes {post : α → List (Event I) → Prop} {program : Prog I α} {value : α}
    {events : List (Event I)} (spec : program.Ensures post)
    (goes : Goes program events (.done value)) : post value events := by
  generalize isRest : Prog.done value = rest at goes
  induction goes generalizing post with
  | stay program =>
      subst isRest
      exact spec
  | @call op next answer events rest goes ih => exact ih (spec answer) isRest

end Prog

namespace LockInterleaving

variable {L : LockInterface} {Task α : Type} [DecidableEq Task] [DecidableEq L.Mutex]

section Histories

/-- States reached by permitted steps, with the events on the way, the first first. -/
inductive Recorded (may : Task → Event L.toInterface → Prop) (start : State L Task α) :
    List (Task × Event L.toInterface) → State L Task α → Prop
  | start : Recorded may start [] start
  | step {history : List (Task × Event L.toInterface)} {before after : State L Task α}
      {task : Task} {event : Event L.toInterface} (recorded : Recorded may start history before)
      (permitted : may task event) (step : Step before task event after) :
      Recorded may start (history ++ [(task, event)]) after

/-- The events of one task. -/
def ofTask (task : Task) (history : List (Task × Event L.toInterface)) :
    List (Event L.toInterface) :=
  history.filterMap fun entry => if entry.1 = task then some entry.2 else none

/-- The mutexes held after the events, when `held` were held before. -/
def heldAfter (held : Set L.Mutex) : List (Event L.toInterface) → Set L.Mutex
  | [] => held
  | event :: events =>
      match L.action event.op with
      | .acquire mutex => heldAfter (insert mutex held) events
      | .release mutex => heldAfter (held \ {mutex}) events
      | .other => heldAfter held events

variable {may : Task → Event L.toInterface → Prop} {start state : State L Task α}
  {history : List (Task × Event L.toInterface)} {task : Task}

omit [DecidableEq L.Mutex] in
@[simp] theorem ofTask_append (first second : List (Task × Event L.toInterface)) :
    ofTask task (first ++ second) = ofTask task first ++ ofTask task second :=
  List.filterMap_append

omit [DecidableEq L.Mutex] in
@[simp] theorem ofTask_own (event : Event L.toInterface)
    (rest : List (Task × Event L.toInterface)) :
    ofTask task ((task, event) :: rest) = event :: ofTask task rest := by
  simp [ofTask]

omit [DecidableEq L.Mutex] in
theorem ofTask_other {other : Task} (differs : other ≠ task) (event : Event L.toInterface)
    (rest : List (Task × Event L.toInterface)) :
    ofTask task ((other, event) :: rest) = ofTask task rest := by
  simp [ofTask, differs]

omit [DecidableEq Task] [DecidableEq L.Mutex] in
theorem heldAfter_append (held : Set L.Mutex) (first second : List (Event L.toInterface)) :
    heldAfter held (first ++ second) = heldAfter (heldAfter held first) second := by
  induction first generalizing held with
  | nil => rfl
  | cons event events ih =>
      simp only [List.cons_append, heldAfter]
      split
      · exact ih _
      · exact ih _
      · exact ih _

theorem Reached.recorded (reached : Reached may start state) :
    ∃ history, Recorded may start history state := by
  induction reached with
  | start => exact ⟨[], .start⟩
  | step _ permitted step ih =>
      obtain ⟨history, recorded⟩ := ih
      exact ⟨_, .step recorded permitted step⟩

theorem Recorded.permitted (recorded : Recorded may start history state) :
    ∀ event ∈ ofTask task history, may task event := by
  induction recorded with
  | start => exact nofun
  | @step history before after mover event _ permitted _ ih =>
      intro other isEvent
      rw [ofTask_append, List.mem_append] at isEvent
      rcases isEvent with earlier | last
      · exact ih other earlier
      · by_cases isTask : mover = task
        · subst isTask
          rw [ofTask_own] at last
          cases List.mem_singleton.mp last
          exact permitted
        · rw [ofTask_other isTask] at last
          cases last

/-- The mover goes on by one event; nobody else's program changes. -/
theorem Step.program {before after : State L Task α} {mover : Task} {event : Event L.toInterface}
    (step : Step before mover event after) (task : Task) :
    (mover = task ∧ ∃ next, before.program task = .call event.op next ∧
        after.program task = next event.answer) ∨
      (mover ≠ task ∧ after.program task = before.program task) := by
  by_cases isTask : mover = task
  · subst isTask
    left
    refine ⟨rfl, ?_⟩
    cases step with
    | acquire answer atCall => exact ⟨_, atCall, Function.update_self ..⟩
    | release answer atCall => exact ⟨_, atCall, Function.update_self ..⟩
    | other answer atCall => exact ⟨_, atCall, Function.update_self ..⟩
  · right
    refine ⟨isTask, ?_⟩
    cases step with
    | acquire answer => exact Function.update_of_ne (Ne.symm isTask) ..
    | release answer => exact Function.update_of_ne (Ne.symm isTask) ..
    | other answer => exact Function.update_of_ne (Ne.symm isTask) ..

theorem Step.goesOn {before after : State L Task α} {mover : Task} {event : Event L.toInterface}
    (step : Step before mover event after) :
    ∃ next, before.program mover = .call event.op next ∧
      after.program mover = next event.answer := by
  rcases step.program mover with ⟨-, moves⟩ | ⟨differs, -⟩
  · exact moves
  · exact absurd rfl differs

theorem Step.stays {before after : State L Task α} {mover task : Task}
    {event : Event L.toInterface} (step : Step before mover event after) (differs : mover ≠ task) :
    after.program task = before.program task := by
  rcases step.program task with ⟨same, -⟩ | ⟨-, stays⟩
  · exact absurd same differs
  · exact stays

/-- The mover owns what its event takes and gives back; nobody else's change. -/
theorem Step.owned {before after : State L Task α} {mover : Task} {event : Event L.toInterface}
    (step : Step before mover event after) (task : Task) :
    {mutex | after.owner mutex = some task} =
      heldAfter {mutex | before.owner mutex = some task} (ofTask task [(mover, event)]) := by
  by_cases isTask : mover = task
  · subst isTask
    rw [ofTask_own]
    cases step with
    | acquire answer _ acquires => simp only [heldAfter, acquires, owned_update_self]; rfl
    | release answer _ releases => simp only [heldAfter, releases, owned_update_none]; rfl
    | other answer _ neutral => simp only [heldAfter, neutral]; rfl
  · rw [ofTask_other isTask]
    cases step with
    | acquire answer _ _ free =>
        apply owned_update_other
        · simp [free]
        · simpa using isTask
    | release answer _ _ owned =>
        apply owned_update_other
        · simpa [owned] using isTask
        · exact nofun
    | other answer => rfl

/-- Each task runs its own program. -/
theorem Recorded.goes (recorded : Recorded may start history state) (task : Task) :
    (start.program task).Goes (ofTask task history) (state.program task) := by
  induction recorded with
  | start => exact .stay _
  | @step history before after mover event _ _ step ih =>
      rw [ofTask_append]
      rcases step.program task with ⟨isTask, next, atCall, goesOn⟩ | ⟨differs, stays⟩
      · subst isTask
        rw [atCall] at ih
        rw [goesOn, ofTask_own]
        exact ih.step event.answer
      · rw [ofTask_other differs, stays]
        exact (List.append_nil _).symm ▸ ih

/-- Each task owns what it holds after its own events. -/
theorem Recorded.owned (recorded : Recorded may start history state) (task : Task) :
    {mutex | state.owner mutex = some task} =
      heldAfter {mutex | start.owner mutex = some task} (ofTask task history) := by
  induction recorded with
  | start => rfl
  | @step history before after mover event _ _ step ih =>
      rw [ofTask_append, heldAfter_append, ← ih]
      exact step.owned task

theorem Recorded.trans {middle : State L Task α} {first second : List (Task × Event L.toInterface)}
    (reached : Recorded may start first middle) (goesOn : Recorded may middle second state) :
    Recorded may start (first ++ second) state := by
  induction goesOn with
  | start => rwa [List.append_nil]
  | step _ permitted step ih =>
      rw [← List.append_assoc]
      exact .step ih permitted step

/-- Let the tasks of a schedule perform one operation each, in turn, and record it. -/
def record (answer : (op : L.Op) → L.Answer op) (start : State L Task α) :
    List Task → Option (List (Task × Event L.toInterface) × State L Task α)
  | [] => some ([], start)
  | task :: schedule =>
      match start.program task, advance answer start task with
      | .call op _, some state => do
          let (history, last) ← record answer state schedule
          some ((task, ⟨op, answer op⟩) :: history, last)
      | _, _ => none

theorem advance_event {answer : (op : L.Op) → L.Answer op} {before after : State L Task α}
    {task : Task} {op : L.Op} {next : L.Answer op → Prog L.toInterface α}
    (atCall : before.program task = .call op next)
    (advances : advance answer before task = some after) :
    Step before task ⟨op, answer op⟩ after := by
  simp only [advance, atCall] at advances
  cases acts : L.action op with
  | acquire mutex =>
      simp only [acts] at advances
      split_ifs at advances with free
      cases advances
      exact .acquire _ atCall acts free
  | release mutex =>
      simp only [acts] at advances
      split_ifs at advances with owned
      cases advances
      exact .release _ atCall acts owned
  | other =>
      simp only [acts] at advances
      cases advances
      exact .other _ atCall acts

theorem record_recorded {answer : (op : L.Op) → L.Answer op} {schedule : List Task}
    (permitted : ∀ task event, may task event)
    (records : record answer start schedule = some (history, state)) :
    Recorded may start history state := by
  induction schedule generalizing start history with
  | nil =>
      cases records
      exact .start
  | cons task schedule ih =>
      unfold record at records
      split at records
      · rename_i op next middle atCall advances
        obtain ⟨⟨rest, last⟩, goesOn, isLast⟩ := Option.bind_eq_some_iff.mp records
        cases isLast
        have first := Recorded.step .start (permitted task _) (advance_event atCall advances)
        exact first.trans (ih goesOn)
      · cases records

/-- What is recorded of a schedule that goes through has happened. -/
theorem recorded_of_isSome {answer : (op : L.Op) → L.Answer op} {schedule : List Task}
    (permitted : ∀ task event, may task event)
    (goes : (record answer start schedule).isSome = true) :
    Recorded may start ((record answer start schedule).get goes).1
      ((record answer start schedule).get goes).2 :=
  record_recorded permitted (Option.some_get goes).symm

end Histories

section Discipline

variable {rank : L.Mutex → Nat} {may : Event L.toInterface → Prop}

section Calls

omit [DecidableEq L.Mutex]

variable {held final : Set L.Mutex} {op : L.Op} {next : L.Answer op → Prog L.toInterface α}
  {mutex : L.Mutex}

theorem Disciplined.acquire (acquires : L.action op = .acquire mutex)
    (above : ∀ other ∈ held, rank other < rank mutex)
    (rest : ∀ answer, Disciplined rank may (insert mutex held) final (next answer)) :
    Disciplined rank may held final (.call op next) := by
  simp only [Disciplined, acquires]
  exact ⟨above, rest⟩

theorem Disciplined.release (releases : L.action op = .release mutex) (isHeld : mutex ∈ held)
    (rest : ∀ answer, Disciplined rank may (held \ {mutex}) final (next answer)) :
    Disciplined rank may held final (.call op next) := by
  simp only [Disciplined, releases]
  exact ⟨isHeld, rest⟩

theorem Disciplined.other (neutral : L.action op = .other)
    (rest : ∀ answer, may ⟨op, answer⟩ → Disciplined rank may held final (next answer)) :
    Disciplined rank may held final (.call op next) := by
  simp only [Disciplined, neutral]
  exact rest

end Calls

omit [DecidableEq L.Mutex] in
theorem Disciplined.goes {held final : Set L.Mutex} {program rest : Prog L.toInterface α}
    {events : List (Event L.toInterface)} (disciplined : Disciplined rank may held final program)
    (goes : program.Goes events rest) (allowed : ∀ event ∈ events, may event) :
    Disciplined rank may (heldAfter held events) final rest := by
  induction goes generalizing held with
  | stay program => exact disciplined
  | @call op next answer events rest goes ih =>
      have later : ∀ event ∈ events, may event := fun event isEvent =>
        allowed event (List.mem_cons_of_mem _ isEvent)
      simp only [Disciplined] at disciplined
      simp only [heldAfter]
      cases acts : L.action op with
      | acquire mutex =>
          simp only [acts] at disciplined ⊢
          exact ih (disciplined.2 answer) later
      | release mutex =>
          simp only [acts] at disciplined ⊢
          exact ih (disciplined.2 answer) later
      | other =>
          simp only [acts] at disciplined ⊢
          exact ih (disciplined answer (allowed _ List.mem_cons_self)) later

omit [DecidableEq L.Mutex] in
/-- Leaving the value out changes nothing. -/
theorem disciplined_bind_done {β : Type} {held final : Set L.Mutex}
    {program : Prog L.toInterface α} (value : α → β) :
    Disciplined rank may held final (program.bind fun result => .done (value result)) ↔
      Disciplined rank may held final program := by
  induction program generalizing held with
  | done result => exact Iff.rfl
  | call op next ih =>
      simp only [Disciplined, Prog.bind]
      split
      · exact and_congr_right fun _ => forall_congr' fun answer => ih answer
      · exact and_congr_right fun _ => forall_congr' fun answer => ih answer
      · exact forall_congr' fun answer => imp_congr_right fun _ => ih answer

/-- A task that starts disciplined stays so, whatever the others do. -/
theorem Recorded.disciplined {may : Task → Event L.toInterface → Prop}
    {program : Task → Prog L.toInterface α} {state : State L Task α}
    {history : List (Task × Event L.toInterface)}
    (recorded : Recorded may (initial program) history state) {task : Task}
    (disciplined : Disciplined rank (may task) ∅ ∅ (program task)) :
    Disciplined rank (may task) {mutex | state.owner mutex = some task} ∅
      (state.program task) := by
  have nothing : {mutex | (initial program).owner mutex = some task} = ∅ := by
    simp [initial]
  rw [recorded.owned, nothing]
  exact disciplined.goes (recorded.goes task) recorded.permitted

theorem Reached.disciplined {may : Task → Event L.toInterface → Prop}
    {program : Task → Prog L.toInterface α} {state : State L Task α}
    (reached : Reached may (initial program) state) {task : Task}
    (disciplined : Disciplined rank (may task) ∅ ∅ (program task)) :
    Disciplined rank (may task) {mutex | state.owner mutex = some task} ∅
      (state.program task) := by
  obtain ⟨history, recorded⟩ := reached.recorded
  exact recorded.disciplined disciplined

end Discipline

section Progress

/-- The next operation of the task can be performed, whatever its answer. -/
def Enabled (state : State L Task α) (task : Task) : Prop :=
  ∃ op next, state.program task = .call op next ∧
    ∀ answer, ∃ after, Step state task ⟨op, answer⟩ after

def Waits (state : State L Task α) (task other : Task) : Prop :=
  ∃ mutex, Requests state task mutex ∧ state.owner mutex = some other

variable {rank : L.Mutex → Nat} {state : State L Task α} {task : Task}

section Alone

variable {may : Event L.toInterface → Prop}

theorem enabled_or_waits
    (disciplined : Disciplined rank may {mutex | state.owner mutex = some task} ∅
      (state.program task)) (unfinished : ∀ value, state.program task ≠ .done value) :
    Enabled state task ∨ ∃ other, Waits state task other := by
  cases atCall : state.program task with
  | done value => exact absurd atCall (unfinished value)
  | call op next =>
      rw [atCall] at disciplined
      cases acts : L.action op with
      | acquire mutex =>
          cases owner : state.owner mutex with
          | none =>
              exact .inl ⟨op, next, atCall, fun answer => ⟨_, .acquire answer atCall acts owner⟩⟩
          | some other => exact .inr ⟨other, mutex, ⟨op, next, atCall, acts⟩, owner⟩
      | release mutex =>
          simp only [Disciplined, acts] at disciplined
          exact .inl ⟨op, next, atCall, fun answer =>
            ⟨_, .release answer atCall acts disciplined.1⟩⟩
      | other => exact .inl ⟨op, next, atCall, fun answer => ⟨_, .other answer atCall acts⟩⟩

omit [DecidableEq Task] [DecidableEq L.Mutex] in
/-- A task that owns a mutex has not finished. -/
theorem unfinished_of_owns {mutex : L.Mutex}
    (disciplined : Disciplined rank may {mutex | state.owner mutex = some task} ∅
      (state.program task)) (owns : state.owner mutex = some task) (value : α) :
    state.program task ≠ .done value := by
  intro done
  rw [done] at disciplined
  have none : {mutex | state.owner mutex = some task} = ∅ := disciplined
  have owned : mutex ∈ {mutex | state.owner mutex = some task} := owns
  rw [none] at owned
  exact owned

omit [DecidableEq Task] [DecidableEq L.Mutex] in
theorem rank_lt_of_disciplined {wanted owned : L.Mutex}
    (disciplined : Disciplined rank may {mutex | state.owner mutex = some task} ∅
      (state.program task)) (requests : Requests state task wanted)
    (owns : state.owner owned = some task) : rank owned < rank wanted := by
  obtain ⟨op, next, atCall, acquires⟩ := requests
  rw [atCall] at disciplined
  simp only [Disciplined, acquires] at disciplined
  exact disciplined.1 owned owns

end Alone

variable {may : Task → Event L.toInterface → Prop}

/-- Disciplined tasks that wait only for each other keep moving: from each that
is not finished a chain of waits leads to one that can go on.  The mutexes that
are waited for along the chain rise in rank. -/
theorem progress {tasks : Set Task}
    (disciplined : ∀ task ∈ tasks,
      Disciplined rank (may task) {mutex | state.owner mutex = some task} ∅ (state.program task))
    (closed : ∀ task ∈ tasks, ∀ other, Waits state task other → other ∈ tasks) {top : Nat}
    (bounded : ∀ mutex, rank mutex ≤ top) (among : task ∈ tasks)
    (unfinished : ∀ value, state.program task ≠ .done value) :
    ∃ other ∈ tasks, Relation.ReflTransGen (Waits state) task other ∧ Enabled state other := by
  -- a task that owns a mutex is unfinished, and the induction is on the ranks left above it
  have climb : ∀ left task, task ∈ tasks → ∀ owned, state.owner owned = some task →
      top ≤ rank owned + left →
      ∃ other ∈ tasks, Relation.ReflTransGen (Waits state) task other ∧ Enabled state other := by
    intro left
    induction left with
    | zero =>
        intro task among owned owns height
        have going := disciplined task among
        rcases enabled_or_waits going (unfinished_of_owns going owns) with enabled | ⟨other, waits⟩
        · exact ⟨task, among, .refl, enabled⟩
        · obtain ⟨wanted, requests, -⟩ := waits
          have higher := rank_lt_of_disciplined going requests owns
          have below := bounded wanted
          omega
    | succ left ih =>
        intro task among owned owns height
        have going := disciplined task among
        rcases enabled_or_waits going (unfinished_of_owns going owns) with enabled | ⟨other, waits⟩
        · exact ⟨task, among, .refl, enabled⟩
        · have isOther := closed task among other waits
          obtain ⟨wanted, requests, holds⟩ := waits
          have higher := rank_lt_of_disciplined going requests owns
          obtain ⟨last, isLast, chain, enabled⟩ := ih other isOther wanted holds (by omega)
          exact ⟨last, isLast, .head ⟨wanted, requests, holds⟩ chain, enabled⟩
  rcases enabled_or_waits (disciplined task among) unfinished with enabled | ⟨other, waits⟩
  · exact ⟨task, among, .refl, enabled⟩
  · have isOther := closed task among other waits
    obtain ⟨wanted, requests, holds⟩ := waits
    obtain ⟨last, isLast, chain, enabled⟩ := climb top other isOther wanted holds (by omega)
    exact ⟨last, isLast, .head ⟨wanted, requests, holds⟩ chain, enabled⟩

/-- Where no permitted step is left, and any operation can be answered as permitted,
disciplined tasks have ended and nobody owns a mutex. -/
theorem all_ended {permitted : Task → Event L.toInterface → Prop} {top : Nat}
    (disciplined : ∀ task,
      Disciplined rank (may task) {mutex | state.owner mutex = some task} ∅ (state.program task))
    (bounded : ∀ mutex, rank mutex ≤ top)
    (stops : ∀ task event after, permitted task event → ¬ Step state task event after)
    (answerable : ∀ task op, ∃ answer, permitted task ⟨op, answer⟩) :
    (∀ task, ∃ value, state.program task = .done value) ∧ ∀ mutex, state.owner mutex = none := by
  have ended (task : Task) : ∃ value, state.program task = .done value := by
    by_contra unfinished
    push Not at unfinished
    obtain ⟨other, -, -, op, next, atCall, canStep⟩ := progress (fun task _ => disciplined task)
      (fun _ _ _ _ => trivial) bounded (Set.mem_univ task) unfinished
    obtain ⟨answer, isPermitted⟩ := answerable other op
    obtain ⟨after, step⟩ := canStep answer
    exact stops other _ after isPermitted step
  refine ⟨ended, ?_⟩
  intro mutex
  cases owner : state.owner mutex with
  | none => rfl
  | some task =>
      obtain ⟨value, isDone⟩ := ended task
      exact absurd isDone (unfinished_of_owns (disciplined task) owner value)

/-- A task that asks for a mutex that it owns does not move. -/
theorem not_step_of_relocks {after : State L Task α} {event : Event L.toInterface}
    {mutex : L.Mutex} (requests : Requests state task mutex)
    (owns : state.owner mutex = some task) : ¬ Step state task event after := by
  obtain ⟨op, next, atCall, acquires⟩ := requests
  intro step
  cases step with
  | acquire answer atThis acquiresThis free =>
      cases atCall.symm.trans atThis
      cases acquires.symm.trans acquiresThis
      rw [owns] at free
      cases free
  | release answer atThis releases =>
      cases atCall.symm.trans atThis
      cases acquires.symm.trans releases
  | other answer atThis neutral =>
      cases atCall.symm.trans atThis
      cases acquires.symm.trans neutral

/-- It stays there for good, and keeps the mutex. -/
theorem stuck_forever {later : State L Task α} {mutex : L.Mutex}
    (requests : Requests state task mutex) (owns : state.owner mutex = some task)
    (reached : Reached may state later) :
    later.program task = state.program task ∧ later.owner mutex = some task := by
  induction reached with
  | start => exact ⟨rfl, owns⟩
  | @step before after mover event _ _ step ih =>
      obtain ⟨stays, still⟩ := ih
      obtain ⟨op, next, atCall, acquires⟩ := requests
      rcases step.program task with ⟨isTask, -⟩ | ⟨waits, same⟩
      · subst isTask
        exact absurd step
          (not_step_of_relocks ⟨op, next, stays.trans atCall, acquires⟩ still)
      · refine ⟨same.trans stays, ?_⟩
        have owned := step.owned task
        rw [ofTask_other waits] at owned
        have kept : mutex ∈ {mutex | after.owner mutex = some task} := by
          rw [owned]
          exact still
        exact kept

end Progress

end LockInterleaving

end Effect
