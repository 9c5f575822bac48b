import RustHelper.InOutProgram

/-!
# Programs whose every event is warranted by the ones before

A warrant says which event may follow which past.  A program keeps it when,
whatever the answers, each of its events is warranted by all that happened
before; what it returns may then be described in terms of the whole past.
-/

namespace Effect

variable {I : Interface} {ε δ α β : Type}

/-- Each event is warranted by the ones before it; `past` holds those before the
list, the latest first. -/
def Warranted (warrant : List (Event I) → Event I → Prop) :
    List (Event I) → List (Event I) → Prop
  | _, [] => True
  | past, event :: events => warrant past event ∧ Warranted warrant (event :: past) events

instance Warranted.decidable {warrant : List (Event I) → Event I → Prop}
    [∀ past event, Decidable (warrant past event)] :
    (past events : List (Event I)) → Decidable (Warranted warrant past events)
  | _, [] => isTrue trivial
  | past, event :: events =>
      have : Decidable (Warranted warrant (event :: past) events) := Warranted.decidable _ _
      inferInstanceAs (Decidable (_ ∧ _))

theorem Warranted.at_split {warrant : List (Event I) → Event I → Prop}
    {past before after : List (Event I)} {event : Event I}
    (warranted : Warranted warrant past (before ++ event :: after)) :
    warrant (before.reverse ++ past) event := by
  induction before generalizing past with
  | nil => exact warranted.1
  | cons first before ih =>
      rw [List.reverse_cons, List.append_assoc]
      exact ih warranted.2

theorem Warranted.of_mem {warrant : List (Event I) → Event I → Prop} {past events : List (Event I)}
    (warranted : Warranted warrant past events) {event : Event I} (isEvent : event ∈ events) :
    ∃ before after, events = before ++ event :: after ∧
      warrant (before.reverse ++ past) event := by
  obtain ⟨before, after, same⟩ := List.append_of_mem isEvent
  subst same
  exact ⟨before, after, rfl, warranted.at_split⟩

theorem warranted_concat {warrant : List (Event I) → Event I → Prop} {past events : List (Event I)}
    {event : Event I} :
    Warranted warrant past (events ++ [event]) ↔
      Warranted warrant past events ∧ warrant (events.reverse ++ past) event := by
  induction events generalizing past with
  | nil => simp [Warranted]
  | cons first events ih => simp [Warranted, ih, and_assoc]

namespace Prog

variable (warrant : List (Event I) → Event I → Prop)

/-- After the given past, whatever the answers, every event is warranted, and the
value and the whole past satisfy `returns`. -/
def Keeps : List (Event I) → (List (Event I) → α → Prop) → Prog I α → Prop
  | past, returns, .done value => returns past value
  | past, returns, .call op next =>
      ∀ answer, warrant past ⟨op, answer⟩ ∧ Keeps (⟨op, answer⟩ :: past) returns (next answer)

variable {warrant}

theorem Keeps.mono {past : List (Event I)} {stronger returns : List (Event I) → α → Prop}
    {program : Prog I α} (keeps : Keeps warrant past stronger program)
    (weaken : ∀ later value, past ⊆ later → stronger later value → returns later value) :
    Keeps warrant past returns program := by
  induction program generalizing past with
  | done value => exact weaken past value (List.Subset.refl past) keeps
  | call op next ih =>
      intro answer
      obtain ⟨granted, rest⟩ := keeps answer
      refine ⟨granted, ih answer rest ?_⟩
      intro later value grown
      exact weaken later value fun event isEvent => grown (List.mem_cons_of_mem _ isEvent)

theorem Keeps.bind {past : List (Event I)} {middle : List (Event I) → α → Prop}
    {returns : List (Event I) → β → Prop} {program : Prog I α} {next : α → Prog I β}
    (first : Keeps warrant past middle program)
    (rest : ∀ later value, past ⊆ later → middle later value →
      Keeps warrant later returns (next value)) :
    Keeps warrant past returns (program.bind next) := by
  induction program generalizing past with
  | done value => exact rest past value (List.Subset.refl past) first
  | call op branch ih =>
      intro answer
      obtain ⟨granted, goesOn⟩ := first answer
      refine ⟨granted, ih answer goesOn ?_⟩
      intro later value grown
      exact rest later value fun event isEvent => grown (List.mem_cons_of_mem _ isEvent)

theorem Keeps.ensures {past : List (Event I)} {returns : List (Event I) → α → Prop}
    {program : Prog I α} (keeps : Keeps warrant past returns program) :
    program.Ensures fun value trace =>
      Warranted warrant past trace ∧ returns (trace.reverse ++ past) value := by
  induction program generalizing past with
  | done value => exact ⟨trivial, keeps⟩
  | call op next ih =>
      intro answer
      obtain ⟨granted, rest⟩ := keeps answer
      apply (ih answer rest).mono
      intro value trace holds
      obtain ⟨warranted, returned⟩ := holds
      refine ⟨⟨granted, warranted⟩, ?_⟩
      rw [List.reverse_cons, List.append_assoc]
      exact returned

/-- What two warrants show of a program's value. -/
theorem Keeps.and {warrant other : List (Event I) → Event I → Prop} {past : List (Event I)}
    {returns others : List (Event I) → α → Prop} {program : Prog I α}
    (keeps : Keeps warrant past returns program) (also : Keeps other past others program) :
    Keeps warrant past (fun later value => returns later value ∧ others later value) program := by
  induction program generalizing past with
  | done value => exact ⟨keeps, also⟩
  | call op next ih =>
      intro answer
      exact ⟨(keeps answer).1, ih answer (keeps answer).2 (also answer).2⟩

end Prog

namespace Fallible

variable {warrant : List (Event I) → Event I → Prop} {past : List (Event I)}
  {returns : List (Event I) → β → Prop}

/-- The same for a function returning `Result`: what is said of the value holds if
there is one. -/
def Justified (warrant : List (Event I) → Event I → Prop) (past : List (Event I))
    (returns : List (Event I) → β → Prop) (program : Fallible I ε β) : Prop :=
  Prog.Keeps warrant past (fun later outcome => ∀ value, outcome = .ok value → returns later value)
    program

namespace Justified

theorem lift {outcome : Outcome ε β} (holds : ∀ value, outcome = .ok value → returns past value) :
    Justified warrant past returns (Fallible.lift outcome : Fallible I ε β) := holds

theorem pure {value : β} (holds : returns past value) :
    Justified warrant past returns (Pure.pure value : Fallible I ε β) := by
  intro _ same
  cases same
  exact holds

theorem throw (error : ε) :
    Justified warrant past returns (Fallible.throw error : Fallible I ε β) := nofun

theorem perform {op : I.Op} (granted : ∀ answer, warrant past ⟨op, answer⟩) :
    Justified warrant past (fun later answer => ⟨op, answer⟩ ∈ later)
      (Fallible.perform op : Fallible I ε (I.Answer op)) := by
  intro answer
  refine ⟨granted answer, ?_⟩
  intro _ same
  cases same
  exact List.mem_cons_self

/-- Nothing else happens. -/
theorem perform_only {op : I.Op} (granted : ∀ answer, warrant past ⟨op, answer⟩) :
    Justified warrant past (fun later answer => later = ⟨op, answer⟩ :: past)
      (Fallible.perform op : Fallible I ε (I.Answer op)) := by
  intro answer
  refine ⟨granted answer, ?_⟩
  intro _ same
  cases same
  rfl

theorem mono {stronger : List (Event I) → β → Prop} {program : Fallible I ε β}
    (justified : Justified warrant past stronger program)
    (weaken : ∀ later value, past ⊆ later → stronger later value → returns later value) :
    Justified warrant past returns program :=
  Prog.Keeps.mono justified fun later _ grown holds value isOk =>
    weaken later value grown (holds value isOk)

theorem bind {middle : List (Event I) → α → Prop} {program : Fallible I ε α}
    {next : α → Fallible I ε β} (first : Justified warrant past middle program)
    (rest : ∀ later value, past ⊆ later → middle later value →
      Justified warrant later returns (next value)) :
    Justified warrant past returns (program >>= next) := by
  apply Prog.Keeps.bind first
  intro later outcome grown holds
  cases outcome with
  | ok value => exact rest later value grown (holds value rfl)
  | err error => exact nofun
  | panic message => exact nofun

theorem and {other : List (Event I) → Event I → Prop} {others : List (Event I) → β → Prop}
    {program : Fallible I ε β} (justified : Justified warrant past returns program)
    (also : Justified other past others program) :
    Justified warrant past (fun later value => returns later value ∧ others later value)
      program := by
  apply Prog.Keeps.mono (Prog.Keeps.and justified also)
  intro later outcome _ holds value isOk
  exact ⟨holds.1 value isOk, holds.2 value isOk⟩

theorem mapErr {translate : ε → δ} {program : Fallible I ε β}
    (justified : Justified warrant past returns program) :
    Justified warrant past returns (Fallible.mapErr translate program) := by
  apply Prog.Keeps.bind justified
  intro later outcome _ holds
  cases outcome with
  | ok value =>
      intro _ same
      cases same
      exact holds value rfl
  | err error => exact nofun
  | panic message => exact nofun

/-- A block with a guard: its value is described after the guard is dropped. -/
theorem withGuard {L : LockInterface} {warrant : List (Event L.toInterface) →
    Event L.toInterface → Prop} {past : List (Event L.toInterface)}
    {returns : List (Event L.toInterface) → β → Prop} {mutex : L.Mutex}
    {body : Fallible L.toInterface ε β}
    (takes : ∀ answer, warrant past ⟨L.lock mutex, answer⟩)
    (gives : ∀ later answer, warrant later ⟨L.unlock mutex, answer⟩)
    (inside : ∀ answer, Justified warrant (⟨L.lock mutex, answer⟩ :: past)
      (fun later value => ∀ answer, returns (⟨L.unlock mutex, answer⟩ :: later) value) body) :
    Justified warrant past returns (Fallible.withGuard mutex body) := by
  intro answer
  refine ⟨takes answer, ?_⟩
  apply Prog.Keeps.bind (inside answer)
  intro later outcome _ holds answer
  refine ⟨gives later answer, ?_⟩
  intro value isOk
  exact holds value isOk answer

theorem ensures {program : Fallible I ε β} (justified : Justified warrant past returns program) :
    program.Ensures fun outcome trace => Warranted warrant past trace ∧
      ∀ value, outcome = .ok value → returns (trace.reverse ++ past) value :=
  Prog.Keeps.ensures justified

end Justified

end Fallible

namespace InOut

variable {σ : Type} {warrant : List (Event I) → Event I → Prop} {past : List (Event I)}
  {returns : List (Event I) → β → Prop}

/-- The same for a program with an in/out argument, whatever it holds. -/
def Justified (warrant : List (Event I) → Event I → Prop) (past : List (Event I))
    (returns : List (Event I) → β → Prop) (program : InOut I σ ε β) : Prop :=
  ∀ slot, Prog.Keeps warrant past
    (fun later ended => ∀ value, ended.1 = .ok value → returns later value) (program slot)

namespace Justified

theorem pure {value : β} (holds : returns past value) :
    Justified warrant past returns (Pure.pure value : InOut I σ ε β) := by
  intro slot _ same
  cases same
  exact holds

theorem read : Justified warrant past (fun _ _ => True) (InOut.read : InOut I σ ε σ) :=
  fun _ _ _ => trivial

theorem assign (value : σ) :
    Justified warrant past (fun _ _ => True) (InOut.assign value : InOut I σ ε Unit) :=
  fun _ _ _ => trivial

theorem lift {program : Fallible I ε β} (justified : program.Justified warrant past returns) :
    Justified warrant past returns (InOut.lift program : InOut I σ ε β) := by
  intro slot
  apply Prog.Keeps.bind justified
  intro later outcome _ holds
  exact holds

theorem bind {middle : List (Event I) → α → Prop} {program : InOut I σ ε α}
    {next : α → InOut I σ ε β} (first : Justified warrant past middle program)
    (rest : ∀ later value, past ⊆ later → middle later value →
      Justified warrant later returns (next value)) :
    Justified warrant past returns (program >>= next) := by
  intro slot
  apply Prog.Keeps.bind (first slot)
  intro later ended grown holds
  obtain ⟨outcome, left⟩ := ended
  cases outcome with
  | ok value => exact rest later value grown (holds value rfl) left
  | err error => exact nofun
  | panic message => exact nofun

theorem call {program : InOut I σ ε β} (justified : Justified warrant past returns program)
    (slot : σ) : (program.call slot).Justified warrant past returns := by
  apply Prog.Keeps.bind (justified slot)
  intro later ended _ holds
  exact holds

end Justified

end InOut

end Effect
