import Mathlib.Tactic.Common

/-!
# Programs over an effect interface

An asynchronous function is a tree: it either returns, or asks its environment
for an operation and goes on with the answer.  The same tree is read in two
ways.  `Prog.run` plays it against one environment and records every operation
with its answer; `Prog.Ensures` quantifies over all answers at once and is the
predicate in which the specifications are proved.
-/

namespace Effect

/-- Operations offered by an environment, each with the type of its answers. -/
structure Interface where
  Op : Type
  Answer : Op → Type

structure Event (I : Interface) where
  op : I.Op
  answer : I.Answer op

/-- A finite program over the interface. -/
inductive Prog (I : Interface) (α : Type) : Type
  | done (value : α)
  | call (op : I.Op) (next : I.Answer op → Prog I α)

/-- An environment: the answer to each operation, which may depend on how many
operations came before it. -/
abbrev World (I : Interface) := Nat → (op : I.Op) → I.Answer op

namespace Prog

variable {I : Interface} {α β : Type}

def bind : Prog I α → (α → Prog I β) → Prog I β
  | .done value, next => next value
  | .call op rest, next => .call op fun answer => (rest answer).bind next

theorem bind_assoc {γ : Type} (program : Prog I α) (next : α → Prog I β) (last : β → Prog I γ) :
    (program.bind next).bind last = program.bind fun value => (next value).bind last := by
  induction program with
  | done value => rfl
  | call op rest ih =>
      simp only [bind]
      congr 1
      funext answer
      exact ih answer

/-- Play a program against a world; `clock` counts the operations before it. -/
def run (world : World I) : Nat → Prog I α → α × List (Event I)
  | _, .done value => (value, [])
  | clock, .call op next =>
      let rest := run world (clock + 1) (next (world clock op))
      (rest.1, ⟨op, world clock op⟩ :: rest.2)

def result (world : World I) (clock : Nat) (program : Prog I α) : α :=
  (program.run world clock).1

def trace (world : World I) (clock : Nat) (program : Prog I α) : List (Event I) :=
  (program.run world clock).2

/-- Whatever the answers, the value and the trace satisfy `post`. -/
def Ensures : Prog I α → (α → List (Event I) → Prop) → Prop
  | .done value, post => post value []
  | .call op next, post =>
      ∀ answer, (next answer).Ensures fun value trace => post value (⟨op, answer⟩ :: trace)

section Running

variable (world : World I) (clock : Nat)

@[simp] theorem result_call (op : I.Op) (next : I.Answer op → Prog I α) :
    (Prog.call op next).result world clock =
      (next (world clock op)).result world (clock + 1) := rfl

@[simp] theorem trace_call (op : I.Op) (next : I.Answer op → Prog I α) :
    (Prog.call op next).trace world clock =
      ⟨op, world clock op⟩ :: (next (world clock op)).trace world (clock + 1) := rfl

theorem result_bind (program : Prog I α) (next : α → Prog I β) :
    (program.bind next).result world clock =
      (next (program.result world clock)).result world
        (clock + (program.trace world clock).length) := by
  induction program generalizing clock with
  | done value => rfl
  | call op rest ih =>
      simp only [bind, result_call, trace_call, List.length_cons, ih]
      congr 1
      omega

theorem trace_bind (program : Prog I α) (next : α → Prog I β) :
    (program.bind next).trace world clock =
      program.trace world clock ++
        (next (program.result world clock)).trace world
          (clock + (program.trace world clock).length) := by
  induction program generalizing clock with
  | done value => rfl
  | call op rest ih =>
      simp only [bind, result_call, trace_call, List.length_cons, List.cons_append, ih]
      congr 3
      omega

end Running

section Specifications

variable {post weaker : α → List (Event I) → Prop}

/-- A specification holds in every world, however many operations came before. -/
theorem Ensures.sound {program : Prog I α} (spec : program.Ensures post)
    (world : World I) (clock : Nat) :
    post (program.result world clock) (program.trace world clock) := by
  induction program generalizing clock post with
  | done value => exact spec
  | call op next ih => exact ih _ (spec (world clock op)) (clock + 1)

theorem Ensures.mono {program : Prog I α} (spec : program.Ensures post)
    (weaken : ∀ value trace, post value trace → weaker value trace) :
    program.Ensures weaker := by
  induction program generalizing post weaker with
  | done value => exact weaken value [] spec
  | call op next ih =>
      intro answer
      exact ih answer (spec answer) fun value trace => weaken value _

theorem ensures_trivial (program : Prog I α) : program.Ensures fun _ _ => True := by
  induction program with
  | done value => trivial
  | call op next ih => exact ih

theorem ensures_congr {program : Prog I α}
    (same : ∀ value trace, post value trace ↔ weaker value trace) :
    program.Ensures post ↔ program.Ensures weaker :=
  ⟨fun spec => spec.mono fun value trace => (same value trace).mp,
    fun spec => spec.mono fun value trace => (same value trace).mpr⟩

theorem ensures_bind {program : Prog I α} {next : α → Prog I β}
    {post : β → List (Event I) → Prop} :
    (program.bind next).Ensures post ↔
      program.Ensures fun value trace =>
        (next value).Ensures fun final rest => post final (trace ++ rest) := by
  induction program generalizing post with
  | done value => rfl
  | call op rest ih => exact forall_congr' fun answer => ih answer

/-- Every operation with its answer is allowed, and the value satisfies `returns`. -/
def Confined (allowed : Event I → Prop) (returns : α → Prop) (program : Prog I α) : Prop :=
  program.Ensures fun value trace => returns value ∧ ∀ event ∈ trace, allowed event

variable {allowed : Event I → Prop} {returns : α → Prop}

theorem Confined.done {value : α} (holds : returns value) :
    Confined allowed returns (Prog.done value) := ⟨holds, nofun⟩

theorem Confined.call {op : I.Op} {next : I.Answer op → Prog I α}
    (first : ∀ answer, allowed ⟨op, answer⟩)
    (rest : ∀ answer, Confined allowed returns (next answer)) :
    Confined allowed returns (Prog.call op next) := by
  refine fun answer => (rest answer).mono fun value trace ends => ⟨ends.1, ?_⟩
  rintro event (_ | ⟨_, later⟩)
  · exact first answer
  · exact ends.2 event later

/-- The rule of sequencing: what the first program returns is known to the second. -/
theorem Confined.bind {middle : α → Prop} {final : β → Prop} {program : Prog I α}
    {next : α → Prog I β} (first : Confined allowed middle program)
    (rest : ∀ value, middle value → Confined allowed final (next value)) :
    Confined allowed final (program.bind next) := by
  refine ensures_bind.mpr (first.mono fun value trace begins => ?_)
  refine (rest value begins.1).mono fun final later ends => ⟨ends.1, fun event isEvent => ?_⟩
  rcases List.mem_append.mp isEvent with early | late
  · exact begins.2 event early
  · exact ends.2 event late

end Specifications

end Prog

end Effect
