import RustHelper.EffectProgram

/-!
# Programs that return a result or panic

A function returning `Result` ends in one of three ways: with a value, with an
error, or by panicking.  The `?` operator leaves the function on the last two,
so sequencing stops at the first outcome that is not a value.
-/

namespace Effect

/-- How a call to a function returning `Result` can end. -/
inductive Outcome (ε α : Type)
  | ok (value : α)
  | err (error : ε)
  | panic (message : String)
  deriving DecidableEq

namespace Outcome

variable {ε δ α β : Type}

protected def bind : Outcome ε α → (α → Outcome ε β) → Outcome ε β
  | .ok value, next => next value
  | .err error, _ => .err error
  | .panic message, _ => .panic message

instance : Monad (Outcome ε) where
  pure := .ok
  bind := Outcome.bind

@[simp] theorem ok_bind (value : α) (next : α → Outcome ε β) :
    (Outcome.ok value >>= next) = next value := rfl

@[simp] theorem err_bind (error : ε) (next : α → Outcome ε β) :
    (Outcome.err error >>= next) = .err error := rfl

@[simp] theorem panic_bind (message : String) (next : α → Outcome ε β) :
    (Outcome.panic message >>= next) = .panic message := rfl

theorem bind_eq_ok_iff {outcome : Outcome ε α} {next : α → Outcome ε β} {result : β} :
    outcome >>= next = .ok result ↔ ∃ value, outcome = .ok value ∧ next value = .ok result := by
  cases outcome <;> simp

def mapErr (translate : ε → δ) : Outcome ε α → Outcome δ α
  | .ok value => .ok value
  | .err error => .err (translate error)
  | .panic message => .panic message

/-- A third-party `Result`, its error passed on by `?`. -/
def ofExcept (translate : δ → ε) : Except δ α → Outcome ε α
  | .ok value => .ok value
  | .error error => .err (translate error)

/-- A `Result` that is not passed on by `?` but looked at. -/
def kept : Outcome δ α → Outcome ε (Except δ α)
  | .ok value => .ok (.ok value)
  | .err error => .ok (.error error)
  | .panic message => .panic message

def toOption : Outcome ε α → Option α
  | .ok value => some value
  | _ => none

@[simp] theorem toOption_eq_some_iff {outcome : Outcome ε α} {value : α} :
    outcome.toOption = some value ↔ outcome = .ok value := by
  cases outcome <;> simp [toOption]

@[simp] theorem mapErr_eq_ok_iff {translate : ε → δ} {outcome : Outcome ε α} {value : α} :
    outcome.mapErr translate = .ok value ↔ outcome = .ok value := by
  cases outcome <;> simp [mapErr]

@[simp] theorem kept_eq_ok_ok_iff {outcome : Outcome δ α} {value : α} :
    (outcome.kept : Outcome ε (Except δ α)) = .ok (.ok value) ↔ outcome = .ok value := by
  cases outcome <;> simp [kept]

def Panics : Outcome ε α → Prop
  | .panic _ => True
  | _ => False

def IsErr : Outcome ε α → Prop
  | .err _ => True
  | _ => False

instance : (outcome : Outcome ε α) → Decidable outcome.Panics
  | .ok _ => isFalse id
  | .err _ => isFalse id
  | .panic _ => isTrue trivial

@[simp] theorem not_panics_ok (value : α) : ¬ (Outcome.ok value : Outcome ε α).Panics := id

@[simp] theorem not_panics_err (error : ε) : ¬ (Outcome.err error : Outcome ε α).Panics := id

@[simp] theorem panics_panic (message : String) :
    (Outcome.panic message : Outcome ε α).Panics := trivial

theorem IsErr.not_panics {outcome : Outcome ε α} (isErr : outcome.IsErr) : ¬ outcome.Panics := by
  cases outcome with
  | ok value => exact id
  | err error => exact id
  | panic message => exact isErr.elim

theorem IsErr.ne_ok {outcome : Outcome ε α} (isErr : outcome.IsErr) (value : α) :
    outcome ≠ .ok value := by
  rintro rfl
  exact isErr

theorem IsErr.bind {outcome : Outcome ε α} (isErr : outcome.IsErr) (next : α → Outcome ε β) :
    (outcome >>= next).IsErr := by
  cases outcome with
  | ok value => exact isErr.elim
  | err error => trivial
  | panic message => exact isErr.elim

/-- A sequence panics in its first part, or in the second with the value of the first. -/
theorem panics_bind_iff {outcome : Outcome ε α} {next : α → Outcome ε β} :
    (outcome >>= next).Panics ↔
      outcome.Panics ∨ ∃ value, outcome = .ok value ∧ (next value).Panics := by
  cases outcome <;> simp

@[simp] theorem panics_kept {outcome : Outcome δ α} :
    (outcome.kept : Outcome ε (Except δ α)).Panics ↔ outcome.Panics := by
  cases outcome <;> rfl

@[simp] theorem not_panics_ofExcept (translate : δ → ε) (result : Except δ α) :
    ¬ (ofExcept translate result).Panics := by
  cases result <;> exact id

@[simp] theorem ofExcept_eq_ok_iff {translate : δ → ε} {result : Except δ α} {value : α} :
    ofExcept translate result = .ok value ↔ result = .ok value := by
  cases result <;> simp [ofExcept]

end Outcome

/-- A program whose value is the outcome of a function returning `Result`. -/
def Fallible (I : Interface) (ε α : Type) : Type := Prog I (Outcome ε α)

namespace Fallible

variable {I : Interface} {ε δ α β : Type}

def lift (outcome : Outcome ε α) : Fallible I ε α := Prog.done outcome

def perform (op : I.Op) : Fallible I ε (I.Answer op) :=
  Prog.call op fun answer => .done (.ok answer)

protected def bind (program : Fallible I ε α) (next : α → Fallible I ε β) : Fallible I ε β :=
  Prog.bind program fun
    | .ok value => next value
    | .err error => Prog.done (.err error)
    | .panic message => Prog.done (.panic message)

instance : Monad (Fallible I ε) where
  pure value := lift (.ok value)
  bind := Fallible.bind

def throw (error : ε) : Fallible I ε α := lift (.err error)

theorem bind_assoc {γ : Type} (program : Fallible I ε α) (next : α → Fallible I ε β)
    (last : β → Fallible I ε γ) :
    program >>= next >>= last = program >>= fun value => next value >>= last := by
  apply (Prog.bind_assoc program _ _).trans
  change _ = Prog.bind program _
  congr 1
  funext outcome
  cases outcome <;> rfl

def mapErr (translate : ε → δ) (program : Fallible I ε α) : Fallible I δ α :=
  Prog.bind program fun outcome => Prog.done (outcome.mapErr translate)

def outcome (world : World I) (clock : Nat) (program : Fallible I ε α) : Outcome ε α :=
  Prog.result world clock program

def events (world : World I) (clock : Nat) (program : Fallible I ε α) : List (Event I) :=
  Prog.trace world clock program

section Running

variable (world : World I) (clock : Nat)

theorem outcome_bind (program : Fallible I ε α) (next : α → Fallible I ε β) :
    (program >>= next).outcome world clock =
      (program.outcome world clock).bind fun value =>
        (next value).outcome world (clock + (program.events world clock).length) := by
  apply (Prog.result_bind world clock program _).trans
  unfold outcome events
  cases Prog.result world clock program <;> rfl

theorem events_bind_of_ok {program : Fallible I ε α} {value : α}
    (returns : program.outcome world clock = .ok value) (next : α → Fallible I ε β) :
    (program >>= next).events world clock =
      program.events world clock ++
        (next value).events world (clock + (program.events world clock).length) := by
  apply (Prog.trace_bind world clock program _).trans
  unfold outcome at returns
  rw [returns]
  rfl

theorem events_bind_of_not_ok {program : Fallible I ε α}
    (stops : ∀ value, program.outcome world clock ≠ .ok value) (next : α → Fallible I ε β) :
    (program >>= next).events world clock = program.events world clock := by
  apply (Prog.trace_bind world clock program _).trans
  unfold outcome at stops
  unfold events
  cases ended : Prog.result world clock program with
  | ok value => exact absurd ended (stops value)
  | err error => exact List.append_nil _
  | panic message => exact List.append_nil _

end Running

section Specifications

/-- Whatever the answers, the outcome and the trace satisfy `post`. -/
def Ensures (program : Fallible I ε α) (post : Outcome ε α → List (Event I) → Prop) : Prop :=
  Prog.Ensures program post

variable {post : Outcome ε β → List (Event I) → Prop}

@[simp] theorem ensures_pure {value : β} :
    (pure value : Fallible I ε β).Ensures post ↔ post (.ok value) [] := Iff.rfl

theorem ensures_bind {program : Fallible I ε α} {next : α → Fallible I ε β} :
    (program >>= next).Ensures post ↔
      program.Ensures fun outcome trace =>
        match outcome with
        | .ok value => (next value).Ensures fun final rest => post final (trace ++ rest)
        | .err error => post (.err error) trace
        | .panic message => post (.panic message) trace := by
  refine Prog.ensures_bind.trans (Prog.ensures_congr fun outcome trace => ?_)
  cases outcome with
  | ok value => exact Iff.rfl
  | err error => simp [Prog.Ensures]
  | panic message => simp [Prog.Ensures]

/-- Sequencing: what holds in between is used on each way out. -/
theorem Ensures.bind {middle : Outcome ε α → List (Event I) → Prop} {program : Fallible I ε α}
    {next : α → Fallible I ε β} (first : program.Ensures middle)
    (ok : ∀ value trace, middle (.ok value) trace →
      (next value).Ensures fun final rest => post final (trace ++ rest))
    (err : ∀ error trace, middle (.err error) trace → post (.err error) trace)
    (panic : ∀ message trace, middle (.panic message) trace → post (.panic message) trace) :
    (program >>= next).Ensures post := by
  refine ensures_bind.mpr (Prog.Ensures.mono first fun outcome trace holds => ?_)
  cases outcome with
  | ok value => exact ok value trace holds
  | err error => exact err error trace holds
  | panic message => exact panic message trace holds

theorem Ensures.mono {weaker : Outcome ε β → List (Event I) → Prop}
    {program : Fallible I ε β} (spec : program.Ensures post)
    (weaken : ∀ outcome trace, post outcome trace → weaker outcome trace) :
    program.Ensures weaker := Prog.Ensures.mono spec weaken

theorem Ensures.sound {program : Fallible I ε β} (spec : program.Ensures post)
    (world : World I) (clock : Nat) :
    post (program.outcome world clock) (program.events world clock) :=
  Prog.Ensures.sound spec world clock

/-- Whenever the program returns a value, the value and the trace satisfy `post`. -/
def Returns (program : Fallible I ε β) (post : β → List (Event I) → Prop) : Prop :=
  program.Ensures fun outcome trace => ∀ value, outcome = .ok value → post value trace

end Specifications

namespace Returns

variable {post weaker : β → List (Event I) → Prop}

theorem pure {value : β} (holds : post value []) :
    Returns (Pure.pure value : Fallible I ε β) post := by
  intro _ same
  cases same
  exact holds

theorem lift {outcome : Outcome ε β} (holds : ∀ value, outcome = .ok value → post value []) :
    Returns (Fallible.lift outcome : Fallible I ε β) post := holds

theorem throw (error : ε) : Returns (Fallible.throw error : Fallible I ε β) post := nofun

theorem perform {op : I.Op} {post : I.Answer op → List (Event I) → Prop}
    (holds : ∀ answer, post answer [⟨op, answer⟩]) :
    Returns (Fallible.perform op : Fallible I ε (I.Answer op)) post := by
  intro answer _ same
  cases same
  exact holds answer

theorem mono {program : Fallible I ε β} (spec : program.Returns post)
    (weaken : ∀ value trace, post value trace → weaker value trace) : program.Returns weaker :=
  Ensures.mono spec fun _ trace holds value isOk => weaken value trace (holds value isOk)

/-- The rule of sequencing, on the way where both programs return. -/
theorem bind {middle : α → List (Event I) → Prop} {program : Fallible I ε α}
    {next : α → Fallible I ε β} (first : program.Returns middle)
    (rest : ∀ value trace, middle value trace →
      (next value).Returns fun final later => post final (trace ++ later)) :
    (program >>= next).Returns post := by
  apply Ensures.bind first
  · intro value trace holds
    exact rest value trace (holds value rfl)
  · exact fun _ _ _ => nofun
  · exact fun _ _ _ => nofun

theorem anything (program : Fallible I ε β) : program.Returns fun _ _ => True := by
  apply Prog.Ensures.mono (Prog.ensures_trivial program)
  exact fun _ _ _ _ _ => trivial

/-- What the program returns is returned by its last part. -/
theorem of_last {property : β → Prop} {program : Fallible I ε α} {next : α → Fallible I ε β}
    (last : ∀ value, (next value).Returns fun final _ => property final) :
    (program >>= next).Returns fun final _ => property final :=
  bind (anything program) fun value _ _ => last value

theorem sound {program : Fallible I ε β} (spec : program.Returns post) {world : World I}
    {clock : Nat} {value : β} (returns : program.outcome world clock = .ok value) :
    post value (program.events world clock) :=
  Ensures.sound spec world clock value returns

end Returns

/-- Every operation with its answer is allowed, and a value that is returned
satisfies `returns`. -/
def Confined (allowed : Event I → Prop) (returns : β → Prop) (program : Fallible I ε β) : Prop :=
  Prog.Confined allowed (fun outcome => ∀ value, outcome = .ok value → returns value) program

namespace Confined

variable {allowed : Event I → Prop} {returns : β → Prop}

theorem toReturns {program : Fallible I ε β} (confined : Confined allowed returns program) :
    program.Returns fun value trace => returns value ∧ ∀ event ∈ trace, allowed event := by
  apply Ensures.mono confined
  rintro outcome trace ⟨holds, allAllowed⟩ value isOk
  exact ⟨holds value isOk, allAllowed⟩

theorem mono {stronger : β → Prop} {program : Fallible I ε β}
    (confined : Confined allowed stronger program)
    (weaken : ∀ value, stronger value → returns value) : Confined allowed returns program := by
  apply Prog.Ensures.mono confined
  rintro outcome trace ⟨holds, allAllowed⟩
  exact ⟨fun value isOk => weaken value (holds value isOk), allAllowed⟩

theorem lift {outcome : Outcome ε β} (holds : ∀ value, outcome = .ok value → returns value) :
    Confined allowed returns (Fallible.lift outcome) := .done holds

theorem pure {value : β} (holds : returns value) :
    Confined allowed returns (Pure.pure value : Fallible I ε β) := by
  apply Confined.lift
  intro _ same
  cases same
  exact holds

theorem throw (error : ε) : Confined allowed returns (Fallible.throw error : Fallible I ε β) :=
  .lift nofun

theorem perform {op : I.Op} (isAllowed : ∀ answer, allowed ⟨op, answer⟩) :
    Confined allowed (fun _ => True) (Fallible.perform op : Fallible I ε (I.Answer op)) :=
  .call isAllowed fun _ => .done fun _ _ => trivial

theorem bind {middle : α → Prop} {program : Fallible I ε α} {next : α → Fallible I ε β}
    (first : Confined allowed middle program)
    (rest : ∀ value, middle value → Confined allowed returns (next value)) :
    Confined allowed returns (program >>= next) := by
  apply Prog.Confined.bind first
  intro outcome holds
  cases outcome with
  | ok value => exact rest value (holds value rfl)
  | err error => exact .done nofun
  | panic message => exact .done nofun

theorem mapErr {translate : ε → δ} {program : Fallible I ε β}
    (confined : Confined allowed returns program) :
    Confined allowed returns (Fallible.mapErr translate program) := by
  apply Prog.Confined.bind confined
  intro outcome holds
  apply Prog.Confined.done
  intro value isOk
  cases outcome with
  | ok returned =>
      cases isOk
      exact holds value rfl
  | err error => cases isOk
  | panic message => cases isOk

end Confined

end Fallible

end Effect
