import RustHelper.WarrantedEvents

/-!
# Programs that panic exactly when something fatal happens

Which event is fatal depends on the events before it.  That a program panics exactly
when a fatal event has happened is shown along its structure: as long as its parts
return, nothing fatal has happened.
-/

namespace Effect

variable {I : Interface} {ε δ α β : Type}

/-- The outcome is a panic with a message of the kind. -/
def Outcome.PanicsWith (kind : String → Prop) : Outcome ε α → Prop
  | .panic message => kind message
  | _ => False

section Messages

variable {kind : String → Prop}

theorem Outcome.panicsWith_mapErr {translate : ε → δ} {outcome : Outcome ε α} :
    (outcome.mapErr translate).PanicsWith kind ↔ outcome.PanicsWith kind := by
  cases outcome with
  | ok value => rfl
  | err error => rfl
  | panic message => rfl

@[simp]
theorem Outcome.panics_mapErr {translate : ε → δ} {outcome : Outcome ε α} :
    (outcome.mapErr translate).Panics ↔ outcome.Panics := by
  cases outcome with
  | ok value => rfl
  | err error => rfl
  | panic message => rfl

theorem Outcome.panicsWith_true {outcome : Outcome ε α} :
    outcome.PanicsWith (fun _ => True) ↔ outcome.Panics := by
  cases outcome with
  | ok value => rfl
  | err error => rfl
  | panic message => rfl

end Messages

/-- None of the events is fatal after the ones before it; the latest comes first. -/
def Harmless (fatal : List (Event I) → Event I → Prop) : List (Event I) → Prop
  | [] => True
  | event :: past => ¬ fatal past event ∧ Harmless fatal past

theorem not_harmless_iff {fatal : List (Event I) → Event I → Prop} {events : List (Event I)} :
    ¬ Harmless fatal events ↔
      ∃ later event earlier, events = later ++ event :: earlier ∧ fatal earlier event := by
  induction events with
  | nil => simp [Harmless]
  | cons last past ih =>
      rw [Harmless, not_and_or, not_not, ih]
      constructor
      · rintro (now | ⟨later, event, earlier, same, isFatal⟩)
        · exact ⟨[], last, past, rfl, now⟩
        · exact ⟨last :: later, event, earlier, congrArg (last :: ·) same, isFatal⟩
      · rintro ⟨later, event, earlier, same, isFatal⟩
        cases later with
        | nil =>
            cases same
            exact .inl isFatal
        | cons first later =>
            cases same
            exact .inr ⟨later, event, earlier, rfl, isFatal⟩

namespace Prog

variable {warrant : List (Event I) → Event I → Prop} {past : List (Event I)}
  {returns : List (Event I) → α → Prop} {program : Prog I α}

/-- A program only adds to what has happened. -/
theorem Keeps.extends (keeps : Keeps warrant past returns program) :
    Keeps warrant past (fun later value => past <:+ later ∧ returns later value) program := by
  induction program generalizing past with
  | done value => exact ⟨List.suffix_rfl, keeps⟩
  | call op next ih =>
      intro answer
      obtain ⟨granted, rest⟩ := keeps answer
      refine ⟨granted, (ih answer rest).mono ?_⟩
      intro later value _ holds
      exact ⟨(List.suffix_cons _ _).trans holds.1, holds.2⟩

theorem Ensures.keeps {property : α → Prop}
    (ensures : program.Ensures fun value _ => property value) :
    Keeps (fun _ _ => True) past (fun _ value => property value) program := by
  induction program generalizing past with
  | done value => exact ensures
  | call op next ih =>
      intro answer
      exact ⟨trivial, ih answer (ensures answer)⟩

end Prog

section Rules

variable {kind : String → Prop} {fatal : List (Event I) → Event I → Prop} {past : List (Event I)}
  {returns : List (Event I) → β → Prop}

/-- The outcome is a panic of the kind exactly when something fatal has happened, and
`returns` describes its value. -/
def BlamedOn (kind : String → Prop) (fatal : List (Event I) → Event I → Prop)
    (returns : List (Event I) → β → Prop) (later : List (Event I)) (outcome : Outcome ε β) : Prop :=
  (outcome.PanicsWith kind ↔ ¬ Harmless fatal later) ∧
    ∀ value, outcome = .ok value → returns later value

/-- Started after nothing fatal, the program panics exactly when something fatal has
happened. -/
def Fallible.Blames (kind : String → Prop) (fatal : List (Event I) → Event I → Prop)
    (past : List (Event I)) (returns : List (Event I) → β → Prop)
    (program : Fallible I ε β) : Prop :=
  Harmless fatal past → Prog.Keeps (fun _ _ => True) past (BlamedOn kind fatal returns) program

/-- Unless a part panics or fails, the rest goes on after nothing fatal. -/
theorem BlamedOn.goesOn {later : List (Event I)} {value : β}
    (blamed : BlamedOn kind fatal returns later (.ok value : Outcome ε β)) :
    Harmless fatal later ∧ returns later value :=
  ⟨not_not.mp (mt blamed.1.mpr id), blamed.2 value rfl⟩

namespace Fallible.Blames

theorem lift {outcome : Outcome ε β} (fine : ¬ outcome.PanicsWith kind)
    (holds : ∀ value, outcome = .ok value → returns past value) :
    Blames kind fatal past returns (Fallible.lift outcome : Fallible I ε β) :=
  fun harmless => ⟨iff_of_false fine (not_not.mpr harmless), holds⟩

theorem pure {value : β} (holds : returns past value) :
    Blames kind fatal past returns (Pure.pure value : Fallible I ε β) := by
  apply lift id
  intro _ same
  cases same
  exact holds

theorem throw (error : ε) :
    Blames kind fatal past returns (Fallible.throw error : Fallible I ε β) := lift id nofun

theorem perform {op : I.Op} (spared : ∀ answer, ¬ fatal past ⟨op, answer⟩) :
    Blames kind fatal past (fun later answer => later = ⟨op, answer⟩ :: past)
      (Fallible.perform op : Fallible I ε (I.Answer op)) := by
  intro harmless answer
  refine ⟨trivial, iff_of_false id (not_not.mpr ⟨spared answer, harmless⟩), ?_⟩
  intro _ same
  cases same
  rfl

/-- An answer is checked at once, and the check panics on the fatal answers. -/
theorem checked {op : I.Op} {next : I.Answer op → Fallible I ε β}
    (check : I.Answer op → Outcome ε β)
    (isCheck : ∀ answer, next answer = Fallible.lift (check answer))
    (blames : ∀ answer, (check answer).PanicsWith kind ↔ fatal past ⟨op, answer⟩)
    (holds : ∀ answer value, check answer = .ok value → returns (⟨op, answer⟩ :: past) value) :
    Blames kind fatal past returns (Fallible.perform op >>= next) := by
  intro harmless answer
  change _ ∧ Prog.Keeps _ _ _ (next answer)
  rw [isCheck]
  refine ⟨trivial, ?_, holds answer⟩
  rw [blames answer]
  simp [Harmless, harmless]

theorem mono {stronger : List (Event I) → β → Prop} {program : Fallible I ε β}
    (blames : Blames kind fatal past stronger program)
    (weaken : ∀ later value, past <:+ later → stronger later value → returns later value) :
    Blames kind fatal past returns program := by
  intro harmless
  apply (blames harmless).extends.mono
  intro later outcome _ holds
  exact ⟨holds.2.1, fun value isOk => weaken later value holds.1 (holds.2.2 value isOk)⟩

theorem bind {middle : List (Event I) → α → Prop} {program : Fallible I ε α}
    {next : α → Fallible I ε β} (first : Blames kind fatal past middle program)
    (rest : ∀ later value, past <:+ later → middle later value →
      Blames kind fatal later returns (next value)) :
    Blames kind fatal past returns (program >>= next) := by
  intro harmless
  apply Prog.Keeps.bind (first harmless).extends
  intro later outcome _ holds
  obtain ⟨grown, blamed⟩ := holds
  cases outcome with
  | ok value => exact rest later value grown blamed.goesOn.2 blamed.goesOn.1
  | err error => exact ⟨blamed.1, nofun⟩
  | panic message => exact ⟨blamed.1, nofun⟩

theorem mapErr {translate : ε → δ} {program : Fallible I ε β}
    (blames : Blames kind fatal past returns program) :
    Blames kind fatal past returns (Fallible.mapErr translate program) := by
  intro harmless
  apply Prog.Keeps.bind (blames harmless)
  intro later outcome _ blamed
  refine ⟨Outcome.panicsWith_mapErr.trans blamed.1, ?_⟩
  intro value isOk
  exact blamed.2 value (Outcome.mapErr_eq_ok_iff.mp isOk)

/-- A block with a guard: its value is described after the guard is dropped. -/
theorem withGuard {L : LockInterface} {fatal : List (Event L.toInterface) →
    Event L.toInterface → Prop} {past : List (Event L.toInterface)}
    {returns : List (Event L.toInterface) → β → Prop} {mutex : L.Mutex}
    {body : Fallible L.toInterface ε β}
    (takes : ∀ answer, ¬ fatal past ⟨L.lock mutex, answer⟩)
    (gives : ∀ later answer, ¬ fatal later ⟨L.unlock mutex, answer⟩)
    (inside : ∀ answer, Blames kind fatal (⟨L.lock mutex, answer⟩ :: past)
      (fun later value => ∀ answer, returns (⟨L.unlock mutex, answer⟩ :: later) value) body) :
    Blames kind fatal past returns (Fallible.withGuard mutex body) := by
  intro harmless answer
  refine ⟨trivial, ?_⟩
  apply Prog.Keeps.bind (inside answer ⟨takes answer, harmless⟩)
  intro later outcome _ blamed answer
  refine ⟨trivial, ?_, fun value isOk => blamed.2 value isOk answer⟩
  rw [blamed.1]
  simp [Harmless, gives later answer]

/-- What panics with any other message than those that never occur panics at all. -/
theorem all {excluded : String → Prop} {program : Fallible I ε β}
    (others : Blames (¬ excluded ·) fatal past returns program)
    (never : program.Ensures fun outcome _ => ¬ outcome.PanicsWith excluded) :
    Blames (fun _ => True) fatal past returns program := by
  intro harmless
  have excludes : Prog.Keeps (fun _ _ => True) past
      (fun _ outcome => ¬ outcome.PanicsWith excluded) program := Prog.Ensures.keeps never
  apply ((others harmless).and excludes).mono
  intro later outcome _ holds
  obtain ⟨blamed, differs⟩ := holds
  refine ⟨?_, blamed.2⟩
  rw [← blamed.1]
  cases outcome with
  | ok value => rfl
  | err error => rfl
  | panic message => exact iff_of_true trivial differs

end Fallible.Blames

namespace InOut

variable {σ : Type}

/-- The same for a program with an in/out argument, whatever it holds. -/
def Blames (kind : String → Prop) (fatal : List (Event I) → Event I → Prop)
    (past : List (Event I)) (returns : List (Event I) → β → Prop)
    (program : InOut I σ ε β) : Prop :=
  ∀ slot, Harmless fatal past → Prog.Keeps (fun _ _ => True) past
    (fun later ended => BlamedOn kind fatal returns later ended.1) (program slot)

namespace Blames

theorem pure {value : β} (holds : returns past value) :
    Blames kind fatal past returns (Pure.pure value : InOut I σ ε β) := by
  intro slot harmless
  refine ⟨iff_of_false id (not_not.mpr harmless), ?_⟩
  intro _ same
  cases same
  exact holds

theorem read : Blames kind fatal past (fun later _ => later = past) (InOut.read : InOut I σ ε σ) :=
  fun _ harmless => ⟨iff_of_false id (not_not.mpr harmless), fun _ _ => rfl⟩

theorem assign (value : σ) :
    Blames kind fatal past (fun later _ => later = past)
      (InOut.assign value : InOut I σ ε Unit) :=
  fun _ harmless => ⟨iff_of_false id (not_not.mpr harmless), fun _ _ => rfl⟩

theorem lift {program : Fallible I ε β} (blames : program.Blames kind fatal past returns) :
    Blames kind fatal past returns (InOut.lift program : InOut I σ ε β) := by
  intro slot harmless
  apply Prog.Keeps.bind (blames harmless)
  intro later outcome _ blamed
  exact blamed

theorem bind {middle : List (Event I) → α → Prop} {program : InOut I σ ε α}
    {next : α → InOut I σ ε β} (first : Blames kind fatal past middle program)
    (rest : ∀ later value, past <:+ later → middle later value →
      Blames kind fatal later returns (next value)) :
    Blames kind fatal past returns (program >>= next) := by
  intro slot harmless
  apply Prog.Keeps.bind (first slot harmless).extends
  intro later ended _ holds
  obtain ⟨grown, blamed⟩ := holds
  obtain ⟨outcome, left⟩ := ended
  cases outcome with
  | ok value => exact rest later value grown blamed.goesOn.2 left blamed.goesOn.1
  | err error => exact ⟨blamed.1, nofun⟩
  | panic message => exact ⟨blamed.1, nofun⟩

theorem call {program : InOut I σ ε β} (blames : Blames kind fatal past returns program)
    (slot : σ) : (program.call slot).Blames kind fatal past returns := by
  intro harmless
  apply Prog.Keeps.bind (blames slot harmless)
  intro later ended _ blamed
  exact blamed

end Blames

end InOut

end Rules

end Effect
