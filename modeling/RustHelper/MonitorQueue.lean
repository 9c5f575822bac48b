import RustHelper.DexHandlers
import RustHelper.PermittedRuns
import RustHelper.ReferenceCrates

/-!
# The two tasks of `monitor_queue`

One task follows the bids account, one the asks account.  A task locks the
websocket client, subscribes, and forwards each notification to the channel of
the response, with the guard kept as long as its loop runs.  So the side that
subscribes first shuts out the other until the receiver is closed.
-/

namespace RustHelper.MonitorQueue

open Effect PermittedRuns

section Messages

/-- `Event` of the protocol: a bid, an ask or neither. -/
structure PbEvent where
  event : Option MonitoredSide
  deriving DecidableEq

abbrev Message := Except Status PbEvent

variable {Update Account : Type}

def readEventQueueBid (_account : Account) : Message := .error (.internal "not implemented yet")

def readEventQueueAsk (_account : Account) : Message := .error (.internal "not implemented yet")

def readEventQueue : MonitoredSide → Account → Message
  | .bids => readEventQueueBid
  | .asks => readEventQueueAsk

/-- The message for what `sub.next()` gave: an update of the account, or the end
of the stream. -/
def messageOf (decode : Update → Option Account) (side : MonitoredSide) :
    Option Update → Message
  | none => .error (.internal "failed to sub.next")
  | some update =>
      match decode update with
      | none => .error (.internal "failed to decode")
      | some account => readEventQueue side account

end Messages

/-- Where a task stands: before the guard, at `account_subscribe`, at
`sub.next()`, at `tx.send(msg)`, or over. -/
inductive Task (Update : Type)
  | waiting
  | subscribing
  | listening
  | sending (next : Option Update)
  | ended

namespace Task

variable {Update : Type}

/-- The task has subscribed and runs its loop. -/
def inLoop : Task Update → Bool
  | .listening => true
  | .sending _ => true
  | _ => false

def holdsGuard : Task Update → Bool
  | .subscribing => true
  | task => task.inLoop

/-- The task keeps the other one out for good: it runs its loop, or it has the
guard and `account_subscribe` will not fail. -/
def blocks (mayFail : Bool) (task : Task Update) : Bool :=
  if mayFail then task.inLoop else task.holdsGuard

/-- The update that is about to be forwarded. -/
def inHand : Task Update → List Update
  | .sending next => next.toList
  | _ => []

theorem holdsGuard_of_inLoop {task : Task Update} (runs : task.inLoop = true) :
    task.holdsGuard = true := by
  cases task <;> first | rfl | cases runs

theorem blocks_of_inLoop {task : Task Update} (mayFail : Bool) (runs : task.inLoop = true) :
    task.blocks mayFail = true := by
  cases mayFail with
  | true => exact runs
  | false => exact holdsGuard_of_inLoop runs

theorem holdsGuard_of_blocks {task : Task Update} {mayFail : Bool}
    (blocks : task.blocks mayFail = true) : task.holdsGuard = true := by
  cases mayFail with
  | true => exact holdsGuard_of_inLoop blocks
  | false => exact blocks

theorem eq_subscribing {task : Task Update} (holds : task.holdsGuard = true)
    (idle : task.inLoop = false) : task = .subscribing := by
  cases task with
  | subscribing => rfl
  | waiting => cases holds
  | listening => cases idle
  | sending next => cases idle
  | ended => cases holds

end Task

/-- The task that follows the other account. -/
def other : MonitoredSide → MonitoredSide
  | .bids => .asks
  | .asks => .bids

@[simp] theorem other_other (side : MonitoredSide) : other (other side) = side := by
  cases side <;> rfl

theorem other_ne (side : MonitoredSide) : other side ≠ side := by
  cases side <;> decide

theorem eq_other_of_ne {first second : MonitoredSide} (different : first ≠ second) :
    first = other second := by
  cases first <;> cases second <;> first | rfl | exact absurd rfl different

/-- The tasks with all they share.  `pending` are the notifications of an account
that its task has not taken yet, `forwarded` those whose message was sent. -/
structure State (Update : Type) where
  task : MonitoredSide → Task Update
  ws : Option MonitoredSide
  channel : List Message
  rxOpen : Bool
  pending : MonitoredSide → List Update
  forwarded : MonitoredSide → List Update
  wsFailed : Bool

namespace State

variable {Update : Type}

def setTask (s : State Update) (side : MonitoredSide) (task : Task Update) : State Update :=
  { s with task := Function.update s.task side task }

/-- The task is over, and its guard is dropped. -/
def endTask (s : State Update) (side : MonitoredSide) : State Update :=
  { s.setTask side .ended with ws := none }

/-- The notifications of an account that have not been forwarded. -/
def due (s : State Update) (side : MonitoredSide) : List Update :=
  (s.task side).inHand ++ s.pending side

variable {s : State Update} {side asked : MonitoredSide} {task : Task Update}

@[simp] theorem setTask_task : (s.setTask side task).task = Function.update s.task side task := rfl

@[simp] theorem setTask_ws : (s.setTask side task).ws = s.ws := rfl

@[simp] theorem setTask_rxOpen : (s.setTask side task).rxOpen = s.rxOpen := rfl

@[simp] theorem setTask_pending : (s.setTask side task).pending = s.pending := rfl

@[simp] theorem setTask_forwarded : (s.setTask side task).forwarded = s.forwarded := rfl

@[simp] theorem setTask_wsFailed : (s.setTask side task).wsFailed = s.wsFailed := rfl

end State

/-- `mpsc::channel(4)` -/
def channelCapacity : Nat := 4

/-- What happens next: a task goes on, the node reports an update of an account,
or the receiver takes a message or is dropped. -/
inductive Action (Update : Type)
  | acquire (side : MonitoredSide)
  | subscribed (side : MonitoredSide)
  | subscribeFailed (side : MonitoredSide)
  | notified (side : MonitoredSide) (update : Update)
  | receive (side : MonitoredSide)
  | streamEnded (side : MonitoredSide)
  | send (side : MonitoredSide)
  | sendRefused (side : MonitoredSide)
  | drain
  | close

/-- The steps of the two tasks and of their environment. -/
inductive Step {Update Account : Type} (decode : Update → Option Account) :
    State Update → Action Update → State Update → Prop
  | acquire {s : State Update} {side : MonitoredSide} (waits : s.task side = .waiting)
      (free : s.ws = none) :
      Step decode s (.acquire side) { s.setTask side .subscribing with ws := some side }
  | subscribed {s : State Update} {side : MonitoredSide} (asked : s.task side = .subscribing) :
      Step decode s (.subscribed side) (s.setTask side .listening)
  -- the bids task panics on the error, the asks task returns: both drop the guard
  | subscribeFailed {s : State Update} {side : MonitoredSide}
      (asked : s.task side = .subscribing) :
      Step decode s (.subscribeFailed side) { s.endTask side with wsFailed := true }
  -- an update is kept for the task, also when it comes before the subscription
  | notified {s : State Update} {side : MonitoredSide} (update : Update) :
      Step decode s (.notified side update)
        { s with pending := Function.update s.pending side (s.pending side ++ [update]) }
  | receive {s : State Update} {side : MonitoredSide} {update : Update} {rest : List Update}
      (listens : s.task side = .listening) (first : s.pending side = update :: rest) :
      Step decode s (.receive side)
        { s.setTask side (.sending (some update)) with
          pending := Function.update s.pending side rest }
  | streamEnded {s : State Update} {side : MonitoredSide} (listens : s.task side = .listening) :
      Step decode s (.streamEnded side)
        { s.setTask side (.sending none) with wsFailed := true }
  | send {s : State Update} {side : MonitoredSide} {next : Option Update}
      (sends : s.task side = .sending next) (isOpen : s.rxOpen = true)
      (room : s.channel.length < channelCapacity) :
      Step decode s (.send side)
        { s.setTask side .listening with
          channel := s.channel ++ [messageOf decode side next]
          forwarded := Function.update s.forwarded side (s.forwarded side ++ next.toList) }
  -- the receiver is gone: `break`, which ends the block and drops the guard
  | sendRefused {s : State Update} {side : MonitoredSide} {next : Option Update}
      (sends : s.task side = .sending next) (isClosed : s.rxOpen = false) :
      Step decode s (.sendRefused side) (s.endTask side)
  | drain {s : State Update} {message : Message} {rest : List Message}
      (isOpen : s.rxOpen = true) (first : s.channel = message :: rest) :
      Step decode s .drain { s with channel := rest }
  | close {s : State Update} (isOpen : s.rxOpen = true) :
      Step decode s .close { s with rxOpen := false, channel := [] }

section Invariant

variable {Update Account : Type} {decode : Update → Option Account} {s s' : State Update}
  {action : Action Update} {side : MonitoredSide}

/-- The guard belongs to the task that has passed `ws_1.lock()`, and only a
failure or the end of the receiver ends a task. -/
structure Consistent (s : State Update) : Prop where
  holder : ∀ side, s.ws = some side ↔ (s.task side).holdsGuard = true
  running : s.rxOpen = true → s.wsFailed = false → ∀ side, s.task side ≠ .ended

/-- A task goes on without taking or dropping the guard. -/
theorem Consistent.moves (consistent : Consistent s) (side : MonitoredSide) (task : Task Update)
    (isTask : s'.task = Function.update s.task side task)
    (sameGuard : task.holdsGuard = (s.task side).holdsGuard) (sameWs : s'.ws = s.ws)
    (goesOn : task ≠ .ended) (stays : s'.rxOpen = true → s'.wsFailed = false →
      s.rxOpen = true ∧ s.wsFailed = false) : Consistent s' := by
  constructor
  case holder =>
    intro any
    rw [isTask, sameWs, consistent.holder any]
    by_cases same : any = side
    · subst same
      rw [Function.update_self, sameGuard]
    · rw [Function.update_of_ne same]
  case running =>
    intro isOpen fine any
    obtain ⟨wasOpen, wasFine⟩ := stays isOpen fine
    rw [isTask]
    by_cases same : any = side
    · subst same
      rwa [Function.update_self]
    · rw [Function.update_of_ne same]
      exact consistent.running wasOpen wasFine any

/-- A task that holds the guard is over. -/
theorem Consistent.ends (consistent : Consistent s) (side : MonitoredSide)
    (held : (s.task side).holdsGuard = true)
    (isTask : s'.task = Function.update s.task side .ended) (dropped : s'.ws = none)
    (isOver : ¬ (s'.rxOpen = true ∧ s'.wsFailed = false)) : Consistent s' := by
  constructor
  case holder =>
    intro any
    rw [isTask, dropped]
    by_cases same : any = side
    · subst same
      simp [Task.holdsGuard, Task.inLoop]
    · rw [Function.update_of_ne same, ← consistent.holder any, (consistent.holder side).mpr held]
      simp [Ne.symm same]
  case running => exact fun isOpen fine => absurd ⟨isOpen, fine⟩ isOver

theorem Consistent.step (consistent : Consistent s) (steps : Step decode s action s') :
    Consistent s' := by
  cases steps with
  | @acquire side waits free =>
      constructor
      case holder =>
        intro any
        by_cases same : any = side
        · subst same
          simp [Task.holdsGuard]
        · have free' := consistent.holder any
          rw [free] at free'
          simpa [Function.update_of_ne same, Ne.symm same] using free'
      case running =>
        intro isOpen fine any
        by_cases same : any = side
        · subst same
          simp
        · simpa [Function.update_of_ne same] using consistent.running isOpen fine any
  | @subscribed side asked =>
      have keeps : true = (s.task side).holdsGuard := by rw [asked]; rfl
      exact consistent.moves side .listening rfl keeps rfl nofun fun isOpen fine => ⟨isOpen, fine⟩
  | @subscribeFailed side asked =>
      have held : (s.task side).holdsGuard = true := by rw [asked]; rfl
      exact consistent.ends side held rfl rfl (by simp)
  | notified update => exact ⟨consistent.holder, consistent.running⟩
  | @receive side update rest listens first =>
      have keeps : true = (s.task side).holdsGuard := by rw [listens]; rfl
      exact consistent.moves side (.sending (some update)) rfl keeps rfl nofun
        fun isOpen fine => ⟨isOpen, fine⟩
  | @streamEnded side listens =>
      have keeps : true = (s.task side).holdsGuard := by rw [listens]; rfl
      exact consistent.moves side (.sending none) rfl keeps rfl nofun fun _ fine => nomatch fine
  | @send side next sends isOpen room =>
      have keeps : true = (s.task side).holdsGuard := by rw [sends]; rfl
      exact consistent.moves side .listening rfl keeps rfl nofun fun isOpen fine => ⟨isOpen, fine⟩
  | @sendRefused side next sends isClosed =>
      have held : (s.task side).holdsGuard = true := by rw [sends]; rfl
      have isOver : ¬ (s.rxOpen = true ∧ s.wsFailed = false) := by simp [isClosed]
      exact consistent.ends side held rfl rfl isOver
  | drain isOpen first => exact ⟨consistent.holder, consistent.running⟩
  | close isOpen => exact ⟨consistent.holder, nofun⟩

end Invariant

/-- The receiver is kept open, no notification comes for the other side, and a
call of the websocket client fails only if it may. -/
def Quiet {Update : Type} (mayFail : Bool) (side : MonitoredSide) (_ : State Update) :
    Action Update → Prop
  | .close => False
  | .notified any _ => any = side
  | .subscribeFailed _ => mayFail = true
  | .streamEnded _ => mayFail = true
  | _ => True

section ShutOut

variable {Update Account : Type} {decode : Update → Option Account} {s s' : State Update}
  {action : Action Update} {mayFail : Bool} {side : MonitoredSide}

/-- The other task blocks this one, and keeps the guard. -/
structure ShutOut (mayFail : Bool) (s : State Update) (side : MonitoredSide) : Prop where
  isOpen : s.rxOpen = true
  busy : (s.task (other side)).blocks mayFail = true
  held : s.ws = some (other side)
  outside : (s.task side).holdsGuard = false

theorem ShutOut.holder (shut : ShutOut mayFail s side) {any : MonitoredSide}
    (holds : (s.task any).holdsGuard = true) : any = other side := by
  apply eq_other_of_ne
  rintro rfl
  rw [shut.outside] at holds
  cases holds

/-- If calls may fail, the holder has subscribed already. -/
theorem ShutOut.ne_subscribing (shut : ShutOut true s side) (any : MonitoredSide) :
    s.task any ≠ .subscribing := by
  intro asked
  have isOther : any = other side := shut.holder (by rw [asked]; rfl)
  have busy := shut.busy
  rw [← isOther, asked] at busy
  cases busy

/-- The other task enters its loop or goes on with it. -/
theorem ShutOut.moves (shut : ShutOut mayFail s side) (task : Task Update)
    (isTask : s'.task = Function.update s.task (other side) task) (runs : task.inLoop = true)
    (sameWs : s'.ws = s.ws) (sameOpen : s'.rxOpen = s.rxOpen) : ShutOut mayFail s' side := by
  constructor
  case isOpen => rw [sameOpen, shut.isOpen]
  case busy => rw [isTask, Function.update_self, Task.blocks_of_inLoop mayFail runs]
  case held => rw [sameWs, shut.held]
  case outside => rw [isTask, Function.update_of_ne (other_ne side).symm, shut.outside]

/-- Nothing but the end of the receiver lets the side back in. -/
theorem ShutOut.step (shut : ShutOut mayFail s side) (steps : Step decode s action s')
    (permitted : Quiet mayFail side s action) :
    ShutOut mayFail s' side ∧ s'.forwarded side = s.forwarded side := by
  cases steps with
  | acquire waits free =>
      rw [shut.held] at free
      cases free
  | subscribed asked =>
      have isOther := shut.holder (by rw [asked]; rfl)
      subst isOther
      exact ⟨shut.moves .listening rfl rfl rfl rfl, rfl⟩
  | subscribeFailed asked =>
      change mayFail = true at permitted
      subst permitted
      exact absurd asked (shut.ne_subscribing _)
  | notified update => exact ⟨⟨shut.isOpen, shut.busy, shut.held, shut.outside⟩, rfl⟩
  | @receive _ update _ listens _ =>
      have isOther := shut.holder (by rw [listens]; rfl)
      subst isOther
      exact ⟨shut.moves (.sending (some update)) rfl rfl rfl rfl, rfl⟩
  | streamEnded listens =>
      have isOther := shut.holder (by rw [listens]; rfl)
      subst isOther
      exact ⟨shut.moves (.sending none) rfl rfl rfl rfl, rfl⟩
  | send sends isOpen room =>
      have isOther := shut.holder (by rw [sends]; rfl)
      subst isOther
      exact ⟨shut.moves .listening rfl rfl rfl rfl, Function.update_of_ne (other_ne side).symm _ _⟩
  | sendRefused sends isClosed =>
      rw [shut.isOpen] at isClosed
      cases isClosed
  | drain isOpen first => exact ⟨⟨shut.isOpen, shut.busy, shut.held, shut.outside⟩, rfl⟩
  | close isOpen => exact permitted.elim

/-- A side stays shut out along every such continuation. -/
theorem ShutOut.run (shut : ShutOut mayFail s side)
    (run : Runs (Step decode) (Quiet mayFail side) s s') :
    ShutOut mayFail s' side ∧ s'.forwarded side = s.forwarded side := by
  refine Runs.invariant
    (fun final => ShutOut mayFail final side ∧ final.forwarded side = s.forwarded side) ?_
    ⟨shut, rfl⟩ run
  rintro before action after ⟨shutBefore, sameLog⟩ permitted steps
  obtain ⟨shutAfter, sameAgain⟩ := shutBefore.step steps permitted
  exact ⟨shutAfter, sameAgain.trans sameLog⟩

end ShutOut

section Forwarding

variable {Update Account : Type} {decode : Update → Option Account} {s s' : State Update}
  {mayFail : Bool} {side : MonitoredSide} {target : List Update}

/-- Some continuation with the receiver open and the other side quiet forwards
all notifications of this side that are due. -/
def ForwardsDue (decode : Update → Option Account) (mayFail : Bool) (s : State Update)
    (side : MonitoredSide) : Prop :=
  ∃ s', Runs (Step decode) (Quiet mayFail side) s s' ∧
    s'.forwarded side = s.forwarded side ++ s.due side

/-- Neither side is shut out. -/
def SharesStream (decode : Update → Option Account) (mayFail : Bool) (s : State Update) : Prop :=
  ∀ side, ForwardsDue decode mayFail s side

/-- From the state, the log of the side is brought to `target`. -/
def Reaches (decode : Update → Option Account) (mayFail : Bool) (s : State Update)
    (side : MonitoredSide) (target : List Update) : Prop :=
  ∃ s', Runs (Step decode) (Quiet mayFail side) s s' ∧ s'.forwarded side = target

theorem Reaches.after {action : Action Update} (steps : Step decode s action s')
    (permitted : Quiet mayFail side s action) (rest : Reaches decode mayFail s' side target) :
    Reaches decode mayFail s side target := by
  obtain ⟨final, run, log⟩ := rest
  exact ⟨final, (Runs.single steps permitted).trans run, log⟩

/-- The receiver takes all messages. -/
theorem runs_drain (isOpen : s.rxOpen = true) :
    Runs (Step decode) (Quiet mayFail side) s { s with channel := [] } := by
  obtain ⟨task, ws, channel, rxOpen, pending, forwarded, wsFailed⟩ := s
  induction channel with
  | nil => exact Runs.refl _
  | cons message rest ih => exact (Runs.single (.drain isOpen rfl) trivial).trans (ih isOpen)

/-- A task at `tx.send(msg)` is back at `sub.next()` once there is room. -/
theorem Reaches.send {next : Option Update} (sends : s.task side = .sending next)
    (isOpen : s.rxOpen = true)
    (rest : ∀ s', s'.task side = .listening → s'.rxOpen = true →
      s'.pending side = s.pending side → s'.forwarded side = s.forwarded side ++ next.toList →
      Reaches decode mayFail s' side target) : Reaches decode mayFail s side target := by
  have room : ([] : List Message).length < channelCapacity := by decide
  obtain ⟨final, run, log⟩ := rest
    { s.setTask side .listening with
      channel := [messageOf decode side next]
      forwarded := Function.update s.forwarded side (s.forwarded side ++ next.toList) }
    (Function.update_self side _ _) isOpen rfl (Function.update_self side _ _)
  have sent : Step decode { s with channel := [] } (.send side) _ := .send sends isOpen room
  exact ⟨final, ((runs_drain isOpen).trans (Runs.single sent trivial)).trans run, log⟩

/-- A task at `sub.next()` forwards what is pending, one notification after the other. -/
theorem reaches_pending (listens : s.task side = .listening) (isOpen : s.rxOpen = true) :
    Reaches decode mayFail s side (s.forwarded side ++ s.pending side) := by
  induction waiting : s.pending side generalizing s with
  | nil => exact ⟨s, Runs.refl s, by rw [List.append_nil]⟩
  | cons update rest ih =>
      apply Reaches.after (.receive listens waiting) trivial
      refine Reaches.send (Function.update_self side _ _) ?_ ?_
      · exact isOpen
      · intro s' listensAgain stillOpen samePending log
        have left : s'.pending side = rest := by
          rw [samePending]
          exact Function.update_self side _ _
        have reached := ih listensAgain stillOpen left
        rw [log] at reached
        simpa using reached

theorem reaches_of_subscribing (asked : s.task side = .subscribing) (isOpen : s.rxOpen = true) :
    Reaches decode mayFail s side (s.forwarded side ++ s.pending side) := by
  apply Reaches.after (.subscribed asked) trivial
  exact reaches_pending (Function.update_self side _ _) isOpen

theorem reaches_of_free (waits : s.task side = .waiting) (free : s.ws = none)
    (isOpen : s.rxOpen = true) :
    Reaches decode mayFail s side (s.forwarded side ++ s.pending side) := by
  apply Reaches.after (.acquire waits free) trivial
  exact reaches_of_subscribing (Function.update_self side _ _) isOpen

/-- A side is not shut out while the other task does not block it. -/
theorem forwardsDue_of_idle (consistent : Consistent s) (isOpen : s.rxOpen = true)
    (fine : s.wsFailed = false) (idle : (s.task (other side)).blocks mayFail = false) :
    ForwardsDue decode mayFail s side := by
  unfold ForwardsDue State.due
  cases isTask : s.task side with
  | waiting =>
      cases held : s.ws with
      | none => exact reaches_of_free isTask held isOpen
      | some holder =>
          -- the holder is the other task, at `account_subscribe`, which has to fail
          have holds := (consistent.holder holder).mp held
          have isOther : holder = other side := by
            apply eq_other_of_ne
            rintro rfl
            rw [isTask] at holds
            cases holds
          subst isOther
          cases mayFail with
          | false => exact absurd holds (Bool.eq_false_iff.mp idle)
          | true =>
              have asked : s.task (other side) = .subscribing := Task.eq_subscribing holds idle
              apply Reaches.after (.subscribeFailed asked) rfl
              refine reaches_of_free ?_ rfl isOpen
              exact (Function.update_of_ne (other_ne side).symm _ _).trans isTask
  | subscribing => exact reaches_of_subscribing isTask isOpen
  | listening => exact reaches_pending isTask isOpen
  | sending next =>
      apply Reaches.send isTask isOpen
      intro s' listens stillOpen samePending log
      have reached : Reaches decode mayFail s' side (s'.forwarded side ++ s'.pending side) :=
        reaches_pending listens stillOpen
      rw [log, samePending] at reached
      simpa [Task.inHand] using reached
  | ended => exact absurd isTask (consistent.running isOpen fine side)

/-- A side with something due is shut out while the other task blocks it. -/
theorem not_forwardsDue_of_busy (consistent : Consistent s) (isOpen : s.rxOpen = true)
    (busy : (s.task (other side)).blocks mayFail = true) (isDue : s.due side ≠ []) :
    ¬ ForwardsDue decode mayFail s side := by
  have held : s.ws = some (other side) :=
    (consistent.holder (other side)).mpr (Task.holdsGuard_of_blocks busy)
  have outside : (s.task side).holdsGuard = false := by
    apply Bool.eq_false_of_not_eq_true
    intro holds
    rw [← consistent.holder side, held] at holds
    exact other_ne side (Option.some.inj holds)
  have shut : ShutOut mayFail s side := ⟨isOpen, busy, held, outside⟩
  rintro ⟨s', run, log⟩
  rw [(shut.run run).2] at log
  exact isDue (List.append_right_eq_self.mp log.symm)

end Forwarding

section Condition

variable {Update Account : Type} {decode : Update → Option Account} {s s' : State Update}
  {action : Action Update} {mayFail : Bool}

/-- No side has something due while the other task blocks it. -/
def Undisturbed (mayFail : Bool) (s : State Update) : Prop :=
  ∀ side, s.due side = [] ∨ (s.task (other side)).blocks mayFail = false

theorem sharesStream_iff (consistent : Consistent s) (isOpen : s.rxOpen = true)
    (fine : s.wsFailed = false) : SharesStream decode mayFail s ↔ Undisturbed mayFail s := by
  constructor
  · intro shares side
    by_cases nothing : s.due side = []
    · exact .inl nothing
    · apply Or.inr
      apply Bool.eq_false_of_not_eq_true
      intro busy
      exact not_forwardsDue_of_busy consistent isOpen busy nothing (shares side)
  · intro undisturbed side
    rcases undisturbed side with nothing | idle
    · exact ⟨s, Runs.refl s, by rw [nothing, List.append_nil]⟩
    · exact forwardsDue_of_idle consistent isOpen fine idle

/-- No task starts to block the other side while a notification for it is due, and
none comes for a side while the other task blocks it. -/
def Considerate (mayFail : Bool) (s : State Update) : Action Update → Prop
  | .acquire side => mayFail = false → s.due (other side) = []
  | .subscribed side => s.due (other side) = []
  | .notified side _ => (s.task (other side)).blocks mayFail = false
  | _ => True

/-- A task goes on without more that is due for its side. -/
theorem Undisturbed.moves (undisturbed : Undisturbed mayFail s) (actor : MonitoredSide)
    (task : Task Update) (isTask : s'.task = Function.update s.task actor task)
    (samePending : s'.pending (other actor) = s.pending (other actor))
    (own : s.due actor = [] → s'.due actor = [])
    (enters : task.blocks mayFail = true →
      (s.task actor).blocks mayFail = true ∨ s.due (other actor) = []) :
    Undisturbed mayFail s' := by
  intro side
  by_cases same : side = actor
  · subst same
    rw [isTask, Function.update_of_ne (other_ne side)]
    exact (undisturbed side).imp_left own
  · have isOther := eq_other_of_ne same
    subst isOther
    have sameDue : s'.due (other actor) = s.due (other actor) := by
      rw [State.due, State.due, isTask, Function.update_of_ne same, samePending]
    rw [sameDue, other_other, isTask, Function.update_self]
    cases blocks : task.blocks mayFail with
    | false => exact .inr rfl
    | true =>
        rcases enters blocks with already | nothing
        · have before := undisturbed (other actor)
          rw [other_other, already] at before
          exact before.imp_right nofun
        · exact .inl nothing

theorem Undisturbed.step (undisturbed : Undisturbed mayFail s)
    (permitted : Considerate mayFail s action) (steps : Step decode s action s') :
    Undisturbed mayFail s' := by
  cases steps with
  | @acquire side waits free =>
      refine undisturbed.moves side .subscribing rfl rfl ?_ fun blocks => .inr ?_
      · simp [State.due, waits, Task.inHand]
      · cases mayFail with
        | true => cases blocks
        | false => exact permitted rfl
  | @subscribed side asked =>
      refine undisturbed.moves side .listening rfl rfl ?_ fun _ => .inr permitted
      simp [State.due, asked, Task.inHand]
  | @subscribeFailed side asked =>
      refine undisturbed.moves side .ended rfl rfl ?_ fun blocks => ?_
      · simp [State.due, State.endTask, asked, Task.inHand]
      · cases Task.holdsGuard_of_blocks blocks
  | @notified actor update =>
      intro side
      by_cases same : side = actor
      · subst same
        exact .inr permitted
      · have sameDue : (s.task side).inHand ++ Function.update s.pending actor
            (s.pending actor ++ [update]) side = s.due side := by
          rw [Function.update_of_ne same, State.due]
        exact (undisturbed side).imp_left sameDue.trans
  | @receive side update rest listens first =>
      have runs : (s.task side).inLoop = true := by rw [listens]; rfl
      have ran := Task.blocks_of_inLoop mayFail runs
      refine undisturbed.moves side (.sending (some update)) rfl ?_ ?_ fun _ => .inl ran
      · exact Function.update_of_ne (other_ne side) _ _
      · simp [State.due, first]
  | @streamEnded side listens =>
      have runs : (s.task side).inLoop = true := by rw [listens]; rfl
      have ran := Task.blocks_of_inLoop mayFail runs
      refine undisturbed.moves side (.sending none) rfl rfl ?_ fun _ => .inl ran
      simp [State.due, listens, Task.inHand]
  | @send side next sends isOpen room =>
      have runs : (s.task side).inLoop = true := by rw [sends]; rfl
      have ran := Task.blocks_of_inLoop mayFail runs
      refine undisturbed.moves side .listening rfl rfl ?_ fun _ => .inl ran
      simp [State.due, sends, Task.inHand]
  | @sendRefused side next sends isClosed =>
      refine undisturbed.moves side .ended rfl rfl ?_ fun blocks => ?_
      · simp [State.due, State.endTask, sends, Task.inHand]
      · cases Task.holdsGuard_of_blocks blocks
  | drain isOpen first => exact undisturbed
  | close isOpen => exact undisturbed

end Condition

section Start

/-- The tasks that a call of `monitor_queue` spawns, with their accounts. -/
def spawned (events : List ServiceEvent) : List (MonitoredSide × Pubkey) :=
  events.filterMap fun
    | ⟨ServiceOp.spawnMonitor side target, _⟩ => some (side, target)
    | _ => none

/-- The spawned tasks have not started, and nothing has happened. -/
def State.start {Update : Type} (tasks : List (MonitoredSide × Pubkey)) : State Update where
  task := fun side => if side ∈ tasks.map Prod.fst then .waiting else .ended
  ws := none
  channel := []
  rxOpen := true
  pending := fun _ => []
  forwarded := fun _ => []
  wsFailed := false

theorem spawned_append (first second : List ServiceEvent) :
    spawned (first ++ second) = spawned first ++ spawned second := List.filterMap_append

theorem spawned_eq_nil {events : List ServiceEvent}
    (quiet : ∀ event ∈ events, spawned [event] = []) : spawned events = [] := by
  induction events with
  | nil => rfl
  | cons event events ih =>
      have first := quiet event (List.mem_cons_self ..)
      have rest := ih fun later isLater => quiet later (List.mem_cons_of_mem _ isLater)
      rw [← List.singleton_append, spawned_append, first, rest, List.append_nil]

theorem spawned_guarded (mutex : ServiceMutex) (events : List ServiceEvent)
    (taken : service.Answer (service.lock mutex)) (given : service.Answer (service.unlock mutex)) :
    spawned (⟨service.lock mutex, taken⟩ :: (events ++ [⟨service.unlock mutex, given⟩])) =
      spawned events := filterMap_guarded rfl rfl events

theorem marketField_spawns_nothing (crates : Crates) (programId : Pubkey)
    (market : Option PbMarketState) :
    (DexHandlers.marketField crates programId market).Confined
      (fun event => spawned [event] = []) fun _ => True := by
  cases market with
  | none => exact .throw _
  | some pbState =>
      apply Fallible.Confined.mapErr
      unfold SerumClient.convertState
      match pbState.market with
      | none => exact .throw _
      | some (.state keys) => exact .lift fun _ _ => trivial
      | some (.id id) =>
          apply Fallible.Confined.bind (.lift fun _ _ => trivial)
          intro key _
          apply Fallible.Confined.mapErr
          apply Fallible.Confined.withGuard (fun _ => rfl) fun _ => rfl
          apply Fallible.Confined.bind (Fallible.Confined.perform fun _ => rfl)
          intro answer _
          cases answer with
          | error error => exact .throw _
          | ok data => exact .lift fun _ _ => trivial

/-- A call that returns has spawned one task for each side of one market. -/
theorem monitorQueue_spawned (crates : Crates) (r : DexHandlers.MonitorQueueRequest) :
    (DexHandlers.monitorQueue crates r).Returns fun _ trace =>
      ∃ state : MarketPubkeys, spawned trace = [(.bids, state.bids), (.asks, state.asks)] := by
  have decoding : (Fallible.lift (DexHandlers.programIdField r.dexProgramId) :
      Svc Status Pubkey).Returns fun _ trace => spawned trace = [] :=
    Fallible.Returns.lift fun _ _ => rfl
  apply decoding.bind
  intro programId first quiet
  apply (marketField_spawns_nothing crates programId r.market).toReturns.bind
  rintro state second ⟨_, silent⟩
  have alsoQuiet : spawned second = [] := spawned_eq_nil silent
  have spawns : ∀ side target, (locked .dexRuntime (spawnMonitor side target) :
      Svc Status Unit).Returns fun _ trace => spawned trace = [(side, target)] := by
    intro side target
    apply Fallible.Returns.withGuard
    apply Fallible.Returns.perform
    intro _ taken given
    rw [spawned_guarded]
    rfl
  apply (spawns .bids state.bids).bind
  intro _ third isBids
  refine Fallible.Returns.mono (spawns .asks state.asks) fun _ fourth isAsks => ⟨state, ?_⟩
  rw [spawned_append, spawned_append, spawned_append, quiet, alsoQuiet, isBids, isAsks]
  rfl

end Start

section SharedStream

variable {Update Account : Type} {decode : Update → Option Account}

theorem start_consistent (bids asks : Pubkey) :
    Consistent (State.start [(.bids, bids), (.asks, asks)] : State Update) := by
  constructor
  case holder => rintro (_ | _) <;> simp [State.start, Task.holdsGuard, Task.inLoop]
  case running => rintro _ _ (_ | _) <;> simp [State.start]

theorem start_undisturbed (mayFail : Bool) (bids asks : Pubkey) :
    Undisturbed mayFail (State.start [(.bids, bids), (.asks, asks)] : State Update) := by
  rintro (_ | _) <;> exact .inl rfl

/-- What every reachable state satisfies. -/
theorem consistent_of_run {may : State Update → Action Update → Prop} {s s' : State Update}
    (start : Consistent s) (run : Runs (Step decode) may s s') : Consistent s' :=
  run.invariant Consistent (fun _ _ _ consistent _ steps => consistent.step steps) start

end SharedStream

/-- For the tasks of one call, in every state reached with the receiver open and
no failed call: neither side is shut out exactly when no side has something due
while the other task blocks it, whether or not calls may fail from then on.  A
run all of whose steps keep to that condition never shuts a side out. -/
theorem monitorQueue_shares_exact (crates : Crates) (r : DexHandlers.MonitorQueueRequest)
    (world : ServiceWorld)
    (answered : (DexHandlers.monitorQueue crates r).outcome world 0 = .ok ())
    {Update Account : Type} (decode : Update → Option Account) (mayFail : Bool) :
    let start : State Update :=
      .start (spawned ((DexHandlers.monitorQueue crates r).events world 0))
    (∀ s, Runs (Step decode) (fun _ _ => True) start s → s.rxOpen = true → s.wsFailed = false →
      (SharesStream decode mayFail s ↔ Undisturbed mayFail s)) ∧
    ∀ s, Runs (Step decode) (Considerate mayFail) start s → s.rxOpen = true →
      s.wsFailed = false → SharesStream decode mayFail s := by
  intro start
  obtain ⟨state, tasks⟩ := (monitorQueue_spawned crates r).sound answered
  have isStart : start = .start [(.bids, state.bids), (.asks, state.asks)] :=
    congrArg State.start tasks
  rw [isStart]
  have consistent : Consistent (State.start [(.bids, state.bids), (.asks, state.asks)] :
      State Update) := start_consistent state.bids state.asks
  constructor
  · intro s run isOpen fine
    exact sharesStream_iff (consistent_of_run consistent run) isOpen fine
  · intro s run isOpen fine
    apply (sharesStream_iff (consistent_of_run consistent run) isOpen fine).mpr
    exact run.invariant (Undisturbed mayFail)
      (fun _ _ _ undisturbed permitted steps => undisturbed.step permitted steps)
      (start_undisturbed mayFail state.bids state.asks)

section Instances

/-- A request that names a market by its eight keys. -/
def stateRequest : DexHandlers.MonitorQueueRequest :=
  let wire : Option PbPubkey := some ⟨List.replicate 32 1⟩
  ⟨some ⟨wire⟩, some ⟨some (.state ⟨wire, wire, wire, wire, wire, wire, wire, wire⟩)⟩⟩

/-- A cluster that answers nothing; the request needs no answer. -/
def silentWorld : ServiceWorld := fun _ =>
  Replies.answer
    { rpc := fun _ => .error ⟨"unavailable"⟩
      transmits := false
      elapsed := 0
      keypair := Reference.keypair
      random := 0
      signature := Reference.signature }

/-- The bids task has locked the client and subscribed. -/
theorem runs_bids_first (may : State Unit → Action Unit → Prop)
    (acquires : ∀ s : State Unit, s.due .asks = [] → may s (.acquire .bids))
    (subscribes : ∀ s : State Unit, s.due .asks = [] → may s (.subscribed .bids)) :
    ∃ s, Runs (Step some) may (.start (spawned
        ((DexHandlers.monitorQueue referenceCrates stateRequest).events silentWorld 0))) s ∧
      s.task .bids = .listening ∧ s.task .asks = .waiting ∧ s.ws = some .bids ∧
      s.rxOpen = true ∧ s.wsFailed = false ∧ (∀ side, s.pending side = []) ∧
      ∀ side, s.forwarded side = [] :=
  ⟨_, (Runs.single (.acquire rfl rfl) (acquires _ rfl)).trans
    (Runs.single (.subscribed rfl) (subscribes _ rfl)), rfl, rfl, rfl, rfl, rfl, fun _ => rfl,
    fun _ => rfl⟩

/-- A notification of the bids account is forwarded while the asks account is quiet. -/
theorem monitorQueue_shares_exact_bids :
    let run := DexHandlers.monitorQueue referenceCrates stateRequest
    ∃ s : State Unit,
      Runs (Step some) (Considerate false) (.start (spawned (run.events silentWorld 0))) s ∧
      s.pending .bids = [()] ∧ SharesStream some false s := by
  intro run
  obtain ⟨s, reached, _, waits, _, isOpen, fine, pending, _⟩ :=
    runs_bids_first (Considerate false) (fun _ nothing _ => nothing) fun _ nothing => nothing
  have asksIdle : (s.task (other .bids)).blocks false = false := by
    rw [show other .bids = .asks from rfl, waits]
    rfl
  have notified := reached.trans (Runs.single (.notified ()) asksIdle)
  have appended : Function.update s.pending .bids (s.pending .bids ++ [()]) .bids = [()] := by
    rw [Function.update_self, pending]
    rfl
  refine ⟨_, notified, appended, ?_⟩
  exact (monitorQueue_shares_exact referenceCrates stateRequest silentWorld rfl some false).2 _
    notified isOpen fine

/-- The bids task subscribes, and then the asks account changes: in no
continuation with the receiver open is the notification forwarded. -/
theorem monitorQueue_shuts_out_asks :
    let run := DexHandlers.monitorQueue referenceCrates stateRequest
    run.outcome silentWorld 0 = .ok () ∧
      ∃ s : State Unit, Runs (Step some) (fun _ _ => True)
          (.start (spawned (run.events silentWorld 0))) s ∧
        s.rxOpen = true ∧ s.wsFailed = false ∧ s.pending .asks = [()] ∧
        s.forwarded .asks = [] ∧
        ∀ s', Runs (Step some) (Quiet true .asks) s s' → s'.forwarded .asks = [] := by
  intro run
  obtain ⟨s, reached, listens, waits, held, isOpen, fine, pending, forwarded⟩ :=
    runs_bids_first (fun _ _ => True) (fun _ _ => trivial) fun _ _ => trivial
  have shut : ShutOut true s .asks := by
    constructor
    case isOpen => exact isOpen
    case busy =>
      rw [show other .asks = .bids from rfl, listens]
      rfl
    case held => exact held
    case outside =>
      rw [waits]
      rfl
  have notified : Step some s (.notified .asks ()) _ := .notified ()
  have stillShut := (shut.step notified rfl).1
  have appended : Function.update s.pending .asks (s.pending .asks ++ [()]) .asks = [()] := by
    rw [Function.update_self, pending]
    rfl
  refine ⟨rfl, _, reached.trans (Runs.single notified trivial), isOpen, fine, appended,
    forwarded .asks, ?_⟩
  exact fun s' run => (stillShut.run run).2.trans (forwarded .asks)

end Instances

end RustHelper.MonitorQueue
