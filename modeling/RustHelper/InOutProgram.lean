import RustHelper.LockInterleaving

/-!
# Programs with an in/out argument

A function that takes `&mut` an argument leaves a value in it however it ends:
what was assigned before an error or a panic stays assigned.
-/

namespace Effect

/-- A program with an in/out argument of type `σ`. -/
def InOut (I : Interface) (σ ε α : Type) : Type := σ → Prog I (Outcome ε α × σ)

namespace InOut

variable {I : Interface} {σ ε α β : Type}

protected def bind (program : InOut I σ ε α) (next : α → InOut I σ ε β) : InOut I σ ε β :=
  fun slot => (program slot).bind fun
    | (.ok value, left) => next value left
    | (.err error, left) => .done (.err error, left)
    | (.panic message, left) => .done (.panic message, left)

instance : Monad (InOut I σ ε) where
  pure value := fun slot => .done (.ok value, slot)
  bind := InOut.bind

def read : InOut I σ ε σ := fun slot => .done (.ok slot, slot)

def assign (value : σ) : InOut I σ ε Unit := fun _ => .done (.ok (), value)

/-- A program that does not touch the argument. -/
def lift (program : Fallible I ε α) : InOut I σ ε α :=
  fun slot => Prog.bind program fun outcome => .done (outcome, slot)

/-- Call with a local variable as the argument and forget the variable. -/
def call (program : InOut I σ ε α) (slot : σ) : Fallible I ε α :=
  (program slot).bind fun ended => .done ended.1

section Sequencing

theorem bind_assoc {γ : Type} (program : InOut I σ ε α) (next : α → InOut I σ ε β)
    (last : β → InOut I σ ε γ) :
    program >>= next >>= last = program >>= fun value => next value >>= last := by
  funext slot
  apply (Prog.bind_assoc (program slot) _ _).trans
  change _ = Prog.bind (program slot) _
  congr 1
  funext ended
  obtain ⟨outcome, left⟩ := ended
  cases outcome <;> rfl

/-- A program that does not touch the argument may be lifted step by step. -/
theorem lift_bind (program : Fallible I ε α) (next : α → Fallible I ε β) :
    (lift (program >>= next) : InOut I σ ε β) =
      lift program >>= fun value => lift (next value) := by
  funext slot
  apply (Prog.bind_assoc program _ _).trans
  refine Eq.trans ?_ (Prog.bind_assoc program _ _).symm
  congr 1
  funext outcome
  cases outcome <;> rfl

end Sequencing

section Specifications

/-- Whatever the answers, how the program ends, what it leaves in the argument
and the trace satisfy `post`. -/
def Ensures (program : InOut I σ ε α) (slot : σ)
    (post : Outcome ε α → σ → List (Event I) → Prop) : Prop :=
  Prog.Ensures (program slot) fun ended trace => post ended.1 ended.2 trace

variable {slot : σ} {post : Outcome ε β → σ → List (Event I) → Prop}

theorem ensures_assign_bind {value : σ} {next : Unit → InOut I σ ε β} :
    (assign value >>= next).Ensures slot post ↔ (next ()).Ensures value post := Iff.rfl

theorem ensures_lift {program : Fallible I ε β} :
    (lift program).Ensures slot post ↔
      program.Ensures fun outcome trace => post outcome slot trace := by
  refine Prog.ensures_bind.trans (Prog.ensures_congr fun outcome trace => ?_)
  simp [Prog.Ensures]

/-- An error or a panic of the lifted part leaves the argument as it is. -/
theorem ensures_lift_bind {program : Fallible I ε α} {next : α → InOut I σ ε β} :
    (lift program >>= next).Ensures slot post ↔
      program.Ensures fun outcome trace =>
        match outcome with
        | .ok value => (next value).Ensures slot fun final left rest =>
            post final left (trace ++ rest)
        | .err error => post (.err error) slot trace
        | .panic message => post (.panic message) slot trace := by
  have lifted : (lift program >>= next) slot = Prog.bind program fun outcome =>
      InOut.bind (fun left => Prog.done (outcome, left)) next slot := Prog.bind_assoc program _ _
  unfold Ensures
  rw [lifted]
  refine Prog.ensures_bind.trans (Prog.ensures_congr fun outcome trace => ?_)
  cases outcome with
  | ok value => exact Iff.rfl
  | err error => simp [InOut.bind, Prog.bind, Prog.Ensures]
  | panic message => simp [InOut.bind, Prog.bind, Prog.Ensures]

theorem Ensures.sound {program : InOut I σ ε β} (spec : program.Ensures slot post)
    (world : World I) (clock : Nat) :
    post ((program slot).result world clock).1 ((program slot).result world clock).2
      ((program slot).trace world clock) :=
  Prog.Ensures.sound spec world clock

end Specifications

section Locks

open LockInterleaving

variable {L : LockInterface} {rank : L.Mutex → Nat} {may : Event L.toInterface → Prop}
  {held : Set L.Mutex}

/-- The program ends with the guards it started with, whatever its argument. -/
def Keeps (rank : L.Mutex → Nat) (may : Event L.toInterface → Prop) (held : Set L.Mutex)
    (program : InOut L.toInterface σ ε α) : Prop :=
  ∀ slot, Disciplined rank may held held (program slot)

namespace Keeps

theorem pure (value : α) :
    Keeps rank may held (Pure.pure value : InOut L.toInterface σ ε α) := fun _ => rfl

theorem read : Keeps rank may held (InOut.read : InOut L.toInterface σ ε σ) := fun _ => rfl

theorem assign (value : σ) :
    Keeps rank may held (InOut.assign value : InOut L.toInterface σ ε Unit) := fun _ => rfl

theorem lift {program : Fallible L.toInterface ε α}
    (first : Fallible.Keeps rank may held program) :
    Keeps rank may held (InOut.lift program : InOut L.toInterface σ ε α) :=
  fun _ => Disciplined.bind first fun _ => rfl

theorem bind {program : InOut L.toInterface σ ε α} {next : α → InOut L.toInterface σ ε β}
    (first : Keeps rank may held program) (rest : ∀ value, Keeps rank may held (next value)) :
    Keeps rank may held (program >>= next) := by
  intro slot
  apply Disciplined.bind (first slot)
  rintro ⟨value | error | message, left⟩
  · exact rest value left
  · rfl
  · rfl

theorem call {program : InOut L.toInterface σ ε α} (first : Keeps rank may held program)
    (slot : σ) : Fallible.Keeps rank may held (program.call slot) :=
  Disciplined.bind (first slot) fun _ => rfl

end Keeps

end Locks

end InOut

end Effect
