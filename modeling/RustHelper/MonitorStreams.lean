import RustHelper.MonitorQueue
import RustHelper.LabelledHistories
import Mathlib.Data.List.ReduceOption

/-!
# What the streams of `monitor_queue` deliver

All calls of `monitor_queue` share the websocket client of the server.  The tasks
of any number of calls run interleaved.  Each receiver is given messages about one
account only, in the order of its notifications, at most four of them wait, and none
carries an event.  While one task runs its loop, no other task of any call does.
-/

namespace RustHelper.MonitorQueue

open Effect PermittedRuns

/-- What has happened to the tasks of one call. -/
abbrev History (Update : Type) := List (State Update × Action Update)

section Observed

variable {Update Account : Type}

/-- The message that the receiver takes in a step. -/
def takenAt : State Update × Action Update → Option Message
  | (before, .drain) => before.channel.head?
  | _ => none

/-- What a step puts into the channel: for which account, and for which of its
notifications, or for the end of the stream. -/
def sentAt : State Update × Action Update → Option (MonitoredSide × Option Update)
  | (before, .send side) =>
      match before.task side with
      | .sending next => some (side, next)
      | _ => none
  | _ => none

def noticedAt (side : MonitoredSide) : State Update × Action Update → Option Update
  | (_, .notified any update) => if any = side then some update else none
  | _ => none

def taken (history : History Update) : List Message := history.filterMap takenAt

def sent (history : History Update) : List (MonitoredSide × Option Update) :=
  history.filterMap sentAt

/-- The notifications of an account so far. -/
def noticed (side : MonitoredSide) (history : History Update) : List Update :=
  history.filterMap (noticedAt side)

def messageFor (decode : Update → Option Account) (entry : MonitoredSide × Option Update) :
    Message := messageOf decode entry.1 entry.2

variable {history : History Update} {entry : State Update × Action Update} {side : MonitoredSide}

@[simp] theorem taken_append :
    taken (history ++ [entry]) = taken history ++ (takenAt entry).toList := by
  cases isTaken : takenAt entry <;> simp [taken, isTaken]

@[simp] theorem sent_append :
    sent (history ++ [entry]) = sent history ++ (sentAt entry).toList := by
  cases isSent : sentAt entry <;> simp [sent, isSent]

@[simp] theorem noticed_append :
    noticed side (history ++ [entry]) = noticed side history ++ (noticedAt side entry).toList := by
  cases isNoticed : noticedAt side entry <;> simp [noticed, isNoticed]

end Observed

section OneCall

variable {Update Account : Type} {decode : Update → Option Account} {history : History Update}
  {s s' : State Update} {action : Action Update} {start : State Update}

/-- What was taken and what waits in the channel is what was sent. -/
structure Relayed (decode : Update → Option Account) (history : History Update)
    (s : State Update) : Prop where
  room : s.channel.length ≤ channelCapacity
  whole : s.rxOpen = true → taken history ++ s.channel = (sent history).map (messageFor decode)
  begins : taken history <+: (sent history).map (messageFor decode)

theorem Relayed.step (relayed : Relayed decode history s) (steps : Step decode s action s') :
    Relayed decode (history ++ [(s, action)]) s' := by
  have room := relayed.room
  have whole := relayed.whole
  have begins := relayed.begins
  cases steps with
  | acquire waits free => constructor <;> simpa [takenAt, sentAt]
  | subscribed asked => constructor <;> simpa [takenAt, sentAt]
  | subscribeFailed asked => constructor <;> simpa [takenAt, sentAt]
  | notified update => constructor <;> simpa [takenAt, sentAt]
  | receive listens first => constructor <;> simpa [takenAt, sentAt]
  | streamEnded listens => constructor <;> simpa [takenAt, sentAt]
  | sendRefused sends isClosed => constructor <;> simpa [takenAt, sentAt]
  | @send side next sends isOpen free =>
      have sending : sentAt (s, .send side) = some (side, next) := by simp [sentAt, sends]
      constructor
      case room =>
        simp only [List.length_append, List.length_singleton]
        omega
      case whole =>
        intro _
        simp [takenAt, sending, ← List.append_assoc, whole isOpen, messageFor]
      case begins =>
        simp only [taken_append, takenAt, Option.toList_none, List.append_nil, sent_append,
          List.map_append]
        exact begins.trans (List.prefix_append _ _)
  | @drain message rest isOpen first =>
      have takes : takenAt (s, Action.drain) = some message := by simp [takenAt, first]
      have wholeBefore := whole isOpen
      rw [first] at wholeBefore room
      constructor
      case room =>
        rw [List.length_cons] at room
        exact Nat.le_of_succ_le room
      case whole =>
        intro _
        simpa [takes, sentAt] using wholeBefore
      case begins =>
        simp only [taken_append, takes, Option.toList_some, sent_append, sentAt,
          Option.toList_none, List.append_nil, ← wholeBefore]
        exact ⟨rest, by simp⟩
  | close isOpen =>
      constructor
      case room => exact Nat.zero_le _
      case whole => exact nofun
      case begins => simpa [takenAt, sentAt] using begins

/-- The notifications of an account are those that were forwarded, at most one that
was refused, and those that are due, in this order. -/
def Ordered (history : History Update) (s : State Update) : Prop :=
  ∀ side, ∃ refused, noticed side history = s.forwarded side ++ refused ++ s.due side ∧
    (s.rxOpen = true → refused = [])

/-- A step that changes neither what is due nor what was forwarded. -/
theorem Ordered.idle (ordered : Ordered history s)
    (silent : ∀ side, noticedAt side (s, action) = none)
    (sameLog : s'.forwarded = s.forwarded) (sameDue : ∀ side, s'.due side = s.due side)
    (stays : s'.rxOpen = true → s.rxOpen = true) :
    Ordered (history ++ [(s, action)]) s' := by
  intro side
  obtain ⟨refused, isNoticed, fine⟩ := ordered side
  refine ⟨refused, ?_, fun isOpen => fine (stays isOpen)⟩
  simp [silent side, sameLog, sameDue side, isNoticed]

/-- The task of one side turns from its update to another. -/
theorem State.due_setTask {task : Task Update} {side any : MonitoredSide}
    (same : task.inHand = (s.task side).inHand) : (s.setTask side task).due any = s.due any := by
  by_cases isSide : any = side
  · subst isSide
    simp [State.due, same]
  · simp [State.due, Function.update_of_ne isSide]

theorem Ordered.step (ordered : Ordered history s) (steps : Step decode s action s') :
    Ordered (history ++ [(s, action)]) s' := by
  cases steps with
  | @acquire side waits free =>
      refine ordered.idle (fun _ => rfl) rfl (fun any => ?_) fun isOpen => isOpen
      exact State.due_setTask (by simp [waits, Task.inHand])
  | @subscribed side asked =>
      refine ordered.idle (fun _ => rfl) rfl (fun any => ?_) fun isOpen => isOpen
      exact State.due_setTask (by simp [asked, Task.inHand])
  | @subscribeFailed side asked =>
      refine ordered.idle (fun _ => rfl) rfl (fun any => ?_) fun isOpen => isOpen
      exact State.due_setTask (by simp [asked, Task.inHand])
  | @streamEnded side listens =>
      refine ordered.idle (fun _ => rfl) rfl (fun any => ?_) fun isOpen => isOpen
      exact State.due_setTask (by simp [listens, Task.inHand])
  | drain isOpen first => exact ordered.idle (fun _ => rfl) rfl (fun _ => rfl) fun _ => isOpen
  | close isOpen => exact ordered.idle (fun _ => rfl) rfl (fun _ => rfl) (by simp)
  | @notified actor update =>
      intro side
      obtain ⟨refused, isNoticed, fine⟩ := ordered side
      refine ⟨refused, ?_, fine⟩
      by_cases same : side = actor
      · subst same
        simp [noticedAt, isNoticed, State.due]
      · simp [noticedAt, isNoticed, State.due, Ne.symm same, Function.update_of_ne same]
  | @receive actor update rest listens first =>
      refine ordered.idle (fun _ => rfl) rfl ?_ fun isOpen => isOpen
      intro side
      by_cases same : side = actor
      · subst same
        simp [State.due, Task.inHand, listens, first]
      · simp [State.due, Function.update_of_ne same]
  | @send actor next sends isOpen room =>
      intro side
      obtain ⟨refused, isNoticed, fine⟩ := ordered side
      refine ⟨refused, ?_, fun _ => fine isOpen⟩
      by_cases same : side = actor
      · subst same
        simp [noticedAt, isNoticed, fine isOpen, State.due, Task.inHand, sends]
      · simp [noticedAt, isNoticed, State.due, Function.update_of_ne same]
  | @sendRefused actor next sends isClosed =>
      intro side
      obtain ⟨refused, isNoticed, fine⟩ := ordered side
      by_cases same : side = actor
      · subst same
        refine ⟨refused ++ next.toList, ?_, ?_⟩
        · simp [noticedAt, isNoticed, State.due, State.endTask, Task.inHand, sends]
        · simp [State.endTask, isClosed]
      · refine ⟨refused, ?_, ?_⟩
        · simp [noticedAt, isNoticed, State.due, State.endTask, Function.update_of_ne same]
        · simp [State.endTask, isClosed]

/-- The updates of an account among what was sent. -/
def updatesOf (side : MonitoredSide) (entries : List (MonitoredSide × Option Update)) :
    List Update :=
  entries.filterMap fun entry => if entry.1 = side then entry.2 else none

/-- What was forwarded is what was sent. -/
theorem forwarded_step (logged : ∀ side, s.forwarded side = updatesOf side (sent history))
    (steps : Step decode s action s') (side : MonitoredSide) :
    s'.forwarded side = updatesOf side (sent (history ++ [(s, action)])) := by
  cases steps with
  | @send actor next sends isOpen room =>
      have sending : sentAt (s, .send actor) = some (actor, next) := by simp [sentAt, sends]
      by_cases same : side = actor
      · subst same
        cases next <;> simp [sending, updatesOf, logged side]
      · simp [sending, updatesOf, logged side, Function.update_of_ne same, Ne.symm same]
  | _ => simpa [sentAt, State.endTask] using logged side

/-- A task stays in its loop until the receiver is gone. -/
theorem inLoop_step {side : MonitoredSide} (runs : (s.task side).inLoop = true)
    (steps : Step decode s action s') (isOpen : s.rxOpen = true) :
    (s'.task side).inLoop = true := by
  have updates {task : Task Update} {actor : MonitoredSide} (goesOn : actor = side →
      task.inLoop = true) : (Function.update s.task actor task side).inLoop = true := by
    by_cases same : side = actor
    · subst same
      simpa using goesOn rfl
    · rwa [Function.update_of_ne same]
  cases steps with
  | acquire waits free =>
      refine updates ?_
      rintro rfl
      simp [waits, Task.inLoop] at runs
  | subscribed asked => exact updates fun _ => rfl
  | subscribeFailed asked =>
      refine updates ?_
      rintro rfl
      simp [asked, Task.inLoop] at runs
  | notified update => exact runs
  | receive listens first => exact updates fun _ => rfl
  | streamEnded listens => exact updates fun _ => rfl
  | send sends _ room => exact updates fun _ => rfl
  | sendRefused sends isClosed =>
      rw [isOpen] at isClosed
      cases isClosed
  | drain _ first => exact runs
  | close _ => exact runs

/-- Only a task that stays in its loop sends. -/
def OneSided (history : History Update) (s : State Update) : Prop :=
  ∃ side, (∀ entry ∈ sent history, entry.1 = side) ∧
    (sent history ≠ [] → s.rxOpen = true → (s.task side).inLoop = true)

theorem rxOpen_of_step (steps : Step decode s action s') (isOpen : s'.rxOpen = true) :
    s.rxOpen = true := by
  cases steps with
  | close wasOpen => exact wasOpen
  | _ => exact isOpen

theorem OneSided.step (oneSided : OneSided history s) (consistent : Consistent s)
    (steps : Step decode s action s') : OneSided (history ++ [(s, action)]) s' := by
  obtain ⟨side, same, inLoop⟩ := oneSided
  have quiet (nothing : sentAt (s, action) = none) : OneSided (history ++ [(s, action)]) s' := by
    refine ⟨side, ?_, ?_⟩
    · simpa [nothing] using same
    · intro isSent isOpen
      have wasOpen := rxOpen_of_step steps isOpen
      rw [sent_append, nothing, Option.toList_none, List.append_nil] at isSent
      exact inLoop_step (inLoop isSent wasOpen) steps wasOpen
  cases steps with
  | @send actor next sends isOpen room =>
      have sending : sentAt (s, .send actor) = some (actor, next) := by simp [sentAt, sends]
      have runs : (s.task actor).inLoop = true := by rw [sends]; rfl
      refine ⟨actor, ?_, ?_⟩
      · intro entry isEntry
        rw [sent_append, sending, List.mem_append] at isEntry
        rcases isEntry with earlier | last
        · -- both tasks are in their loops, and one guard is all there is
          have ran := inLoop (List.ne_nil_of_mem earlier) isOpen
          have holdsFirst := (consistent.holder side).mpr (Task.holdsGuard_of_inLoop ran)
          have holdsNow := (consistent.holder actor).mpr (Task.holdsGuard_of_inLoop runs)
          rw [same entry earlier]
          exact Option.some.inj (holdsFirst.symm.trans holdsNow)
        · simp only [Option.toList_some, List.mem_singleton] at last
          rw [last]
      · intro _ _
        simp [Task.inLoop]
  | _ => exact quiet rfl

/-- What holds after every history of the tasks of one call. -/
structure Delivering (decode : Update → Option Account) (history : History Update)
    (s : State Update) : Prop where
  relayed : Relayed decode history s
  ordered : Ordered history s
  logged : ∀ side, s.forwarded side = updatesOf side (sent history)
  oneSided : OneSided history s

theorem Delivering.of_trace {bids asks : Pubkey}
    (trace : Trace (Step decode) (.start [(.bids, bids), (.asks, asks)]) history s) :
    Delivering decode history s := by
  refine trace.invariant (Delivering decode) ?_ ?_
  · constructor
    case relayed => exact ⟨Nat.zero_le _, fun _ => rfl, List.nil_prefix⟩
    case ordered => exact fun side => ⟨[], by cases side <;> rfl, fun _ => rfl⟩
    case logged => exact fun _ => rfl
    case oneSided => exact ⟨.bids, nofun, fun nonempty => absurd rfl nonempty⟩
  · intro history before action after trace delivering steps
    have consistent := consistent_of_run (start_consistent bids asks) trace.runs
    constructor
    case relayed => exact delivering.relayed.step steps
    case ordered => exact delivering.ordered.step steps
    case logged => exact forwarded_step delivering.logged steps
    case oneSided => exact delivering.oneSided.step consistent steps

theorem updatesOf_own {side : MonitoredSide} {entries : List (MonitoredSide × Option Update)}
    (same : ∀ entry ∈ entries, entry.1 = side) :
    updatesOf side entries = (entries.map Prod.snd).reduceOption := by
  induction entries with
  | nil => rfl
  | cons entry entries ih =>
      obtain ⟨actor, next⟩ := entry
      obtain ⟨isSide, rest⟩ := List.forall_mem_cons.mp same
      simp only at isSide
      subst isSide
      cases next with
      | some update => simpa [updatesOf, List.reduceOption_cons_of_some] using ih rest
      | none => simpa [updatesOf, List.reduceOption_cons_of_none] using ih rest

theorem updatesOf_other {side : MonitoredSide} {entries : List (MonitoredSide × Option Update)}
    (same : ∀ entry ∈ entries, entry.1 = side) : updatesOf (other side) entries = [] := by
  refine List.filterMap_eq_nil_iff.mpr ?_
  intro entry isEntry
  rw [same entry isEntry, if_neg (other_ne side).symm]

theorem map_messageFor {side : MonitoredSide} {entries : List (MonitoredSide × Option Update)}
    (same : ∀ entry ∈ entries, entry.1 = side) :
    entries.map (messageFor decode) = (entries.map Prod.snd).map (messageOf decode side) := by
  rw [List.map_map]
  apply List.map_congr_left
  intro entry isEntry
  simp [messageFor, same entry isEntry]

end OneCall

section Messages

variable {Update Account : Type}

/-- The texts of all messages. -/
def messageTexts : List String := ["not implemented yet", "failed to decode", "failed to sub.next"]

/-- Every message is an error. -/
theorem messageOf_error (decode : Update → Option Account) (side : MonitoredSide)
    (next : Option Update) :
    ∃ text ∈ messageTexts, messageOf decode side next = .error (.internal text) := by
  cases next with
  | none => exact ⟨"failed to sub.next", by simp [messageTexts], rfl⟩
  | some update =>
      cases decoded : decode update with
      | none => exact ⟨"failed to decode", by simp [messageTexts], by simp [messageOf, decoded]⟩
      | some account =>
          refine ⟨"not implemented yet", by simp [messageTexts], ?_⟩
          cases side <;> simp [messageOf, decoded, readEventQueue, readEventQueueBid,
            readEventQueueAsk]

end Messages

section AllCalls

variable {Call Update Account : Type} [DecidableEq Call]

/-- A task of any call goes on; the websocket client is locked when no task of any
call has locked it. -/
def Together (decode : Update → Option Account) :
    (Call → State Update) → Call × Action Update → (Call → State Update) → Prop :=
  Jointly (Step decode) fun states action =>
    ∀ side, action = .acquire side → ∀ call, (states call).ws = none

/-- The tasks that the calls have spawned. -/
def opened (crates : Crates) (r : Call → DexHandlers.MonitorQueueRequest)
    (world : Call → ServiceWorld) (call : Call) : State Update :=
  .start (spawned ((DexHandlers.monitorQueue crates (r call)).events (world call) 0))

variable {crates : Crates} {r : Call → DexHandlers.MonitorQueueRequest}
  {world : Call → ServiceWorld} {decode : Update → Option Account}
  {history : List ((Call → State Update) × (Call × Action Update))}
  {states states' : Call → State Update}

omit [DecidableEq Call] in
theorem opened_start (Update : Type) (answered : ∀ call,
    (DexHandlers.monitorQueue crates (r call)).outcome (world call) 0 = .ok ()) (call : Call) :
    ∃ bids asks, (opened crates r world call : State Update) =
      .start [(.bids, bids), (.asks, asks)] := by
  obtain ⟨state, tasks⟩ := (monitorQueue_spawned crates (r call)).sound (answered call)
  exact ⟨state.bids, state.asks, congrArg State.start tasks⟩

theorem together_consistent (answered : ∀ call,
      (DexHandlers.monitorQueue crates (r call)).outcome (world call) 0 = .ok ())
    (trace : Trace (Together decode) (opened crates r world) history states) (call : Call) :
    Consistent (states call) := by
  obtain ⟨bids, asks, isStart⟩ := opened_start Update answered call
  refine consistent_of_run ?_ (trace.component call).runs
  rw [isStart]
  exact start_consistent bids asks

end AllCalls

section Instances

theorem Together.of {Call Update Account : Type} [DecidableEq Call]
    {decode : Update → Option Account} {states : Call → State Update} {next : State Update}
    (call : Call) (action : Action Update)
    (free : ∀ side, action = .acquire side → ∀ any, (states any).ws = none)
    (steps : Step decode (states call) action next) :
    Together decode states (call, action) (Function.update states call next) :=
  ⟨free, next, steps, rfl⟩

/-- Two calls for one market. -/
def twoCalls : Bool → State Unit :=
  opened referenceCrates (fun _ => stateRequest) fun _ => silentWorld

/-- One call is told of the bids account, and its client takes the message. -/
theorem twoCalls_told : ∃ history states, Trace (Together some) twoCalls history states ∧
    taken (ofComponent true history) = [.error (.internal "not implemented yet")] ∧
      ((states true).task .bids).inLoop = true ∧ (states true).rxOpen = true := by
  have free (call : Bool) : (twoCalls call).ws = none := rfl
  have acquired : Trace (Together some) twoCalls _ _ :=
    Trace.single (.of true (.acquire .bids) (fun _ _ => free) (.acquire rfl rfl))
  have subscribed := acquired.step (.of true (.subscribed .bids) nofun (.subscribed rfl))
  have notified := subscribed.step (.of true (.notified .bids ()) nofun (.notified ()))
  have received := notified.step (.of true (.receive .bids) nofun (.receive rfl rfl))
  have sent := received.step (.of true (.send .bids) nofun (.send rfl rfl (Nat.zero_lt_succ 3)))
  have drained := sent.step (.of true .drain nofun (.drain rfl rfl))
  exact ⟨_, _, drained, rfl, rfl, rfl⟩

end Instances

/-- However the tasks of all calls are interleaved, and whatever the node reports:
the receiver of a call is given messages about one account only, which are for its
notifications in order without loss; at most four wait, and each is an error. -/
theorem streams_deliver {Call Update Account : Type} [DecidableEq Call] (crates : Crates)
    (r : Call → DexHandlers.MonitorQueueRequest) (world : Call → ServiceWorld)
    (answered : ∀ call, (DexHandlers.monitorQueue crates (r call)).outcome (world call) 0 = .ok ())
    (decode : Update → Option Account)
    (history : List ((Call → State Update) × (Call × Action Update)))
    (states : Call → State Update)
    (trace : Trace (Together decode) (opened crates r world) history states) (call : Call) :
    ∃ side, ∃ updates : List (Option Update),
      taken (ofComponent call history) <+: updates.map (messageOf decode side) ∧
      updates.reduceOption <+: noticed side (ofComponent call history) ∧
      (states call).channel.length ≤ channelCapacity ∧
      ((states call).rxOpen = true →
        taken (ofComponent call history) ++ (states call).channel =
            updates.map (messageOf decode side) ∧
          noticed side (ofComponent call history) =
            updates.reduceOption ++ (states call).due side ∧
          noticed (other side) (ofComponent call history) = (states call).due (other side)) ∧
      ∀ message ∈ taken (ofComponent call history),
        ∃ text ∈ messageTexts, message = .error (.internal text) := by
  obtain ⟨bids, asks, isStart⟩ := opened_start Update answered call
  have own := trace.component call
  rw [isStart] at own
  obtain ⟨relayed, ordered, logged, side, same, -⟩ := Delivering.of_trace own
  have messages : (sent (ofComponent call history)).map (messageFor decode) = _ :=
    map_messageFor same
  have begins := relayed.begins
  rw [messages] at begins
  refine ⟨side, (sent (ofComponent call history)).map Prod.snd, begins, ?_, relayed.room, ?_, ?_⟩
  · obtain ⟨refused, isNoticed, -⟩ := ordered side
    rw [isNoticed, logged side, updatesOf_own same, List.append_assoc]
    exact List.prefix_append _ _
  · intro isOpen
    refine ⟨(relayed.whole isOpen).trans messages, ?_, ?_⟩
    · obtain ⟨refused, isNoticed, fine⟩ := ordered side
      rw [isNoticed, fine isOpen, logged side, updatesOf_own same, List.append_nil]
    · obtain ⟨refused, isNoticed, fine⟩ := ordered (other side)
      rw [isNoticed, fine isOpen, logged (other side), updatesOf_other same]
      rfl
  · intro message isTaken
    obtain ⟨next, -, isMessage⟩ := List.mem_map.mp (begins.subset isTaken)
    obtain ⟨text, isText, isError⟩ := messageOf_error decode side next
    exact ⟨text, isText, isMessage ▸ isError⟩

/-- The client of the call has been told of the bids account. -/
theorem streams_deliver_twoCalls : ∃ history states,
    Trace (Together some) twoCalls history states ∧
      taken (ofComponent true history) = [.error (.internal "not implemented yet")] ∧
      ∃ side, ∃ updates : List (Option Unit),
        taken (ofComponent true history) <+: updates.map (messageOf some side) := by
  obtain ⟨history, states, trace, isTaken, -⟩ := twoCalls_told
  obtain ⟨side, updates, begins, -⟩ := streams_deliver referenceCrates (fun _ => stateRequest)
    (fun _ => silentWorld) (fun _ => rfl) some history states trace true
  exact ⟨history, states, trace, isTaken, side, updates, begins⟩

section OneGuard

variable {Call Update Account : Type} [DecidableEq Call] {decode : Update → Option Account}
  {states states' : Call → State Update} {s s' : State Update} {action : Action Update}
  {side : MonitoredSide}

/-- The task that goes on in a step, if it is not one of the node or the receiver. -/
def Action.actor : Action Update → Option MonitoredSide
  | .acquire side => some side
  | .subscribed side => some side
  | .subscribeFailed side => some side
  | .receive side => some side
  | .streamEnded side => some side
  | .send side => some side
  | .sendRefused side => some side
  | .notified _ _ => none
  | .drain => none
  | .close => none

/-- A task that goes on has the guard, or takes it. -/
theorem holdsGuard_of_step (steps : Step decode s action s') (acts : action.actor = some side) :
    action = .acquire side ∨ (s.task side).holdsGuard = true := by
  cases steps with
  | acquire waits free => exact .inl (congrArg Action.acquire (Option.some.inj acts))
  | notified update => cases acts
  | drain isOpen first => cases acts
  | close isOpen => cases acts
  | subscribed asked =>
      cases acts
      exact .inr (by rw [asked]; rfl)
  | subscribeFailed asked =>
      cases acts
      exact .inr (by rw [asked]; rfl)
  | receive listens first =>
      cases acts
      exact .inr (by rw [listens]; rfl)
  | streamEnded listens =>
      cases acts
      exact .inr (by rw [listens]; rfl)
  | send sends isOpen room =>
      cases acts
      exact .inr (by rw [sends]; rfl)
  | sendRefused sends isClosed =>
      cases acts
      exact .inr (by rw [sends]; rfl)

theorem ws_of_step (steps : Step decode s action s') (held : s'.ws = some side) :
    s.ws = some side ∨ action = .acquire side := by
  cases steps with
  | acquire waits free => exact .inr (congrArg Action.acquire (Option.some.inj held))
  | subscribeFailed asked => cases held
  | sendRefused sends isClosed => cases held
  | _ => exact .inl held

/-- The guard of the websocket client is one for all calls. -/
def OneHolder (states : Call → State Update) : Prop :=
  ∀ first second own others, (states first).ws = some own → (states second).ws = some others →
    first = second

theorem OneHolder.step {move : Call × Action Update} (oneHolder : OneHolder states)
    (moves : Together decode states move states') : OneHolder states' := by
  obtain ⟨mover, action⟩ := move
  obtain ⟨free, next, steps, isAfter⟩ := moves
  -- a call that has the guard had it before, or nobody had it and it is the one that moves
  have held (call : Call) (side : MonitoredSide) (holds : (states' call).ws = some side) :
      (states call).ws = some side ∨ call = mover ∧ ∀ any, (states any).ws = none := by
    rw [isAfter] at holds
    by_cases same : call = mover
    · subst same
      rw [Function.update_self] at holds
      rcases ws_of_step steps holds with already | acquires
      · exact .inl already
      · exact .inr ⟨rfl, free side acquires⟩
    · rw [Function.update_of_ne same] at holds
      exact .inl holds
  intro first second own others holdsFirst holdsSecond
  rcases held first own holdsFirst with before | ⟨isMover, nobody⟩
  · rcases held second others holdsSecond with also | ⟨_, nobody⟩
    · exact oneHolder first second own others before also
    · rw [nobody first] at before
      cases before
  · rcases held second others holdsSecond with before | ⟨alsoMover, _⟩
    · rw [nobody second] at before
      cases before
    · rw [isMover, alsoMover]

theorem consistent_move {move : Call × Action Update}
    (consistent : ∀ call, Consistent (states call))
    (moves : Together decode states move states') (call : Call) : Consistent (states' call) := by
  obtain ⟨mover, action⟩ := move
  obtain ⟨-, next, steps, isAfter⟩ := moves
  rw [isAfter]
  by_cases same : call = mover
  · subst same
    rw [Function.update_self]
    exact (consistent call).step steps
  · rw [Function.update_of_ne same]
    exact consistent call

/-- While a task keeps its loop, only it goes on. -/
theorem alone_while {call : Call} {later : List ((Call → State Update) × (Call × Action Update))}
    (engaged : State Update → Prop) (may : Action Update → Prop)
    (runs : ∀ s, engaged s → (s.task side).inLoop = true)
    (keeps : ∀ s action s', engaged s → may action → Step decode s action s' → engaged s')
    (consistent : ∀ any, Consistent (states any)) (oneHolder : OneHolder states)
    (initially : engaged (states call)) (goesOn : Trace (Together decode) states later states')
    (permitted : ∀ entry ∈ ofComponent call later, may entry.2) :
    engaged (states' call) ∧ ∀ entry ∈ later, ∀ actor, entry.2.2.actor = some actor →
      entry.2.1 = call ∧ actor = side := by
  have all := goesOn.invariant
    (fun later reached => (∀ any, Consistent (reached any)) ∧ OneHolder reached ∧
      ((∀ entry ∈ ofComponent call later, may entry.2) →
        engaged (reached call) ∧ ∀ entry ∈ later, ∀ actor, entry.2.2.actor = some actor →
          entry.2.1 = call ∧ actor = side)) ⟨consistent, oneHolder, fun _ => ⟨initially, nofun⟩⟩ ?_
  · exact all.2.2 permitted
  rintro earlier before ⟨mover, action⟩ after _ ⟨consistentBefore, holderBefore, ih⟩ moves
  refine ⟨consistent_move consistentBefore moves, holderBefore.step moves, ?_⟩
  intro permittedAll
  obtain ⟨free, next, steps, isAfter⟩ := moves
  have split : ofComponent call (earlier ++ [(before, (mover, action))]) =
      ofComponent call earlier ++ ofComponent call [(before, (mover, action))] :=
    List.filterMap_append
  rw [split] at permittedAll
  obtain ⟨engagedBefore, quiet⟩ :=
    ih fun entry isEntry => permittedAll entry (List.mem_append_left _ isEntry)
  have holds := ((consistentBefore call).holder side).mpr
    (Task.holdsGuard_of_inLoop (runs _ engagedBefore))
  constructor
  · rw [isAfter]
    by_cases same : call = mover
    · subst same
      rw [Function.update_self]
      refine keeps _ _ _ engagedBefore ?_ steps
      exact permittedAll (before call, action) (by simp [ofComponent])
    · rw [Function.update_of_ne same]
      exact engagedBefore
  · intro entry isEntry actor acts
    rcases List.mem_append.mp isEntry with isEarlier | isLast
    · exact quiet entry isEarlier actor acts
    · rw [List.mem_singleton.mp isLast] at acts ⊢
      simp only at acts ⊢
      rcases holdsGuard_of_step steps acts with acquires | held
      · rw [free actor acquires call] at holds
        cases holds
      · have alsoHolds := ((consistentBefore mover).holder actor).mpr held
        have same := holderBefore mover call actor side alsoHolds holds
        subst same
        exact ⟨rfl, Option.some.inj (alsoHolds.symm.trans holds)⟩

/-- A task in its loop keeps it while the receiver is there. -/
theorem open_keeps (engaged : s.rxOpen = true ∧ (s.task side).inLoop = true)
    (stays : action ≠ .close) (steps : Step decode s action s') :
    s'.rxOpen = true ∧ (s'.task side).inLoop = true := by
  refine ⟨?_, inLoop_step engaged.2 steps engaged.1⟩
  cases steps with
  | close isOpen => exact absurd rfl stays
  | _ => exact engaged.1

/-- A task at `sub.next()` stays there while it is told nothing. -/
theorem listening_keeps (listens : s.task side = .listening)
    (untold : action ≠ .receive side ∧ action ≠ .streamEnded side)
    (steps : Step decode s action s') : s'.task side = .listening := by
  have unmoved {task : Task Update} {actor : MonitoredSide} (differs : actor ≠ side) :
      Function.update s.task actor task side = .listening := by
    rwa [Function.update_of_ne differs.symm]
  cases steps with
  | acquire waits free =>
      refine unmoved ?_
      rintro rfl
      simp [waits] at listens
  | subscribed asked =>
      refine unmoved ?_
      rintro rfl
      simp [asked] at listens
  | subscribeFailed asked =>
      refine unmoved ?_
      rintro rfl
      simp [asked] at listens
  | receive hears first =>
      refine unmoved ?_
      rintro rfl
      exact untold.1 rfl
  | streamEnded hears =>
      refine unmoved ?_
      rintro rfl
      exact untold.2 rfl
  | send sends isOpen room =>
      refine unmoved ?_
      rintro rfl
      simp [sends] at listens
  | sendRefused sends isClosed =>
      refine unmoved ?_
      rintro rfl
      simp [sends] at listens
  | notified update => exact listens
  | drain isOpen first => exact listens
  | close isOpen => exact listens

end OneGuard

/-- Once a task runs its loop, no other task of any call goes on in any way while its
receiver stays, nor, also when the receiver is gone, while it is told nothing more. -/
theorem streams_shut_out {Call Update Account : Type} [DecidableEq Call] (crates : Crates)
    (r : Call → DexHandlers.MonitorQueueRequest) (world : Call → ServiceWorld)
    (answered : ∀ call, (DexHandlers.monitorQueue crates (r call)).outcome (world call) 0 = .ok ())
    (decode : Update → Option Account)
    (history later : List ((Call → State Update) × (Call × Action Update)))
    (states states' : Call → State Update)
    (trace : Trace (Together decode) (opened crates r world) history states)
    (call : Call) (side : MonitoredSide) (runs : ((states call).task side).inLoop = true)
    (goesOn : Trace (Together decode) states later states')
    (stays : (states call).rxOpen = true ∧
          (∀ entry ∈ ofComponent call later, entry.2 ≠ .close) ∨
        (states call).task side = .listening ∧ ∀ entry ∈ ofComponent call later,
          entry.2 ≠ .receive side ∧ entry.2 ≠ .streamEnded side) :
    ((states' call).task side).inLoop = true ∧
      ∀ entry ∈ later, ∀ actor, entry.2.2.actor = some actor →
        entry.2.1 = call ∧ actor = side := by
  have consistent := together_consistent answered trace
  have oneHolder : OneHolder states := by
    refine trace.invariant (fun _ reached => OneHolder reached) ?_ ?_
    · intro first second own others holds
      obtain ⟨bids, asks, isStart⟩ := opened_start Update answered first
      rw [isStart] at holds
      cases holds
    · exact fun _ _ _ _ _ holder moves => holder.step moves
  rcases stays with ⟨isOpen, kept⟩ | ⟨listens, untold⟩
  · obtain ⟨engaged, quiet⟩ := alone_while
      (fun s => s.rxOpen = true ∧ (s.task side).inLoop = true) (fun action => action ≠ .close)
      (fun _ engaged => engaged.2) (fun _ _ _ engaged may steps => open_keeps engaged may steps)
      consistent oneHolder ⟨isOpen, runs⟩ goesOn kept
    exact ⟨engaged.2, quiet⟩
  · obtain ⟨engaged, quiet⟩ := alone_while (fun s => s.task side = .listening)
      (fun action => action ≠ .receive side ∧ action ≠ .streamEnded side)
      (fun _ engaged => by rw [engaged]; rfl)
      (fun _ _ _ engaged may steps => listening_keeps engaged may steps)
      consistent oneHolder listens goesOn untold
    exact ⟨by rw [engaged]; rfl, quiet⟩

/-- The other call is told of the asks account, and has to wait. -/
theorem streams_shut_out_twoCalls : ∃ states states' : Bool → State Unit, ∃ later,
    Trace (Together some) states later states' ∧ (states' false).pending .asks ≠ [] ∧
      ((states' true).task .bids).inLoop = true := by
  obtain ⟨history, states, trace, -, runs, isOpen⟩ := twoCalls_told
  have goesOn : Trace (Together some) states [(states, (false, .notified .asks ()))]
      (Function.update states false _) :=
    Trace.single (.of false (.notified .asks ()) nofun (.notified ()))
  refine ⟨states, _, _, goesOn, ?_, ?_⟩
  · simp
  · exact (streams_shut_out referenceCrates (fun _ => stateRequest) (fun _ => silentWorld)
      (fun _ => rfl) some history _ states _ trace true .bids runs goesOn
      (.inl ⟨isOpen, by simp [ofComponent]⟩)).1

end RustHelper.MonitorQueue
