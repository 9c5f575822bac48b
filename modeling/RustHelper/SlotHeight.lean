import Mathlib.Order.Bounds.Basic
import RustHelper.GuardedCell
import RustHelper.ServerProgress

/-!
# The slot height of the crank's workers

The workers of the crank share the height of the latest slot whose events they
consumed, behind a mutex of its own.  A worker raises it after the cluster has
accepted its transaction.
-/

namespace Effect.Fallible

variable {I : Interface} {ε α β : Type} (signal : Event I → Prop)

/-- The program returns a value exactly if a signal was among its events. -/
def Signals (program : Fallible I ε β) : Prop :=
  program.Ensures fun outcome trace =>
    (∃ value, outcome = .ok value) ↔ ∃ event ∈ trace, signal event

variable {signal}

/-- The signal comes after a part without signals. -/
theorem Signals.after {middle : α → Prop} {program : Fallible I ε α} {next : α → Fallible I ε β}
    (quiet : Confined (fun event => ¬ signal event) middle program)
    (rest : ∀ value, middle value → (next value).Signals signal) :
    (program >>= next).Signals signal := by
  have silent : ∀ {trace : List (Event I)}, (∀ event ∈ trace, ¬ signal event) →
      ¬ ∃ event ∈ trace, signal event := by
    rintro trace none ⟨event, among, isSignal⟩
    exact none event among isSignal
  apply Ensures.bind quiet
  · rintro value trace ⟨holds, none⟩
    apply Ensures.mono (rest value (holds value rfl))
    intro outcome later same
    simp only [List.mem_append, or_and_right, exists_or, silent none, false_or]
    exact same
  · rintro error trace ⟨-, none⟩
    exact iff_of_false (by simp) (silent none)
  · rintro message trace ⟨-, none⟩
    exact iff_of_false (by simp) (silent none)

end Effect.Fallible

namespace RustHelper.SerumClient

section Maximum

instance lawfulMax : Std.LawfulOrderMax UInt64 := by
  apply Std.LawfulOrderMax.of_max_le_iff
  · intro a b c
    change (if a ≤ b then b else a) ≤ c ↔ a ≤ c ∧ b ≤ c
    have total := UInt64.le_total a b
    grind
  · intro a b
    change (if a ≤ b then b else a) = a ∨ (if a ≤ b then b else a) = b
    split <;> simp

theorem isGreatest_foldl_max {Task α : Type} [LE α] [Max α] [Std.IsLinearOrder α]
    [Std.LawfulOrderMax α] (start : α) (value : Task → α) (tasks : List Task) :
    IsGreatest {best | best = start ∨ ∃ task ∈ tasks, best = value task}
      (tasks.foldl (fun best task => max (value task) best) start) := by
  induction tasks generalizing start with
  | nil => simp [IsGreatest, upperBounds, Std.le_refl]
  | cons first tasks ih =>
      obtain ⟨among, above⟩ := ih (max (value first) start)
      have most := above (.inl rfl)
      rw [List.foldl_cons]
      constructor
      · rcases among with isMax | ⟨task, later, same⟩
        · rcases Std.max_eq_or (a := value first) (b := start) with isFirst | isStart
          · exact .inr ⟨first, List.mem_cons_self, isMax.trans isFirst⟩
          · exact .inl (isMax.trans isStart)
        · exact .inr ⟨task, List.mem_cons_of_mem _ later, same⟩
      · rintro best (isStart | ⟨task, isTask, same⟩)
        · rw [isStart]
          exact Std.le_trans Std.right_le_max most
        · rcases List.mem_cons.mp isTask with isFirst | later
          · rw [same, isFirst]
            exact Std.le_trans Std.left_le_max most
          · exact above (.inr ⟨task, later, same⟩)

end Maximum

open Effect LockInterleaving GuardedCell

section Wrapper

variable (crates : Crates) (rClient : ServiceMutex)

/-- The service and a `u64` behind a mutex. -/
abbrev heightService : LockInterface := withCell service UInt64

/-- The guard lives to the end of its arm; a worker that fails only logs the error. -/
def consumeEventsWrapper (programId : Pubkey) (payer : Keypair) (accountMetas : List AccountMeta)
    (toConsume : Nat) (slot : UInt64) : Fallible heightService.toInterface Empty Unit :=
  Prog.bind (embed (consumeEventsOnce crates rClient programId payer accountMetas toConsume)) fun
    | .ok _signature =>
        Fallible.withGuard (L := heightService) none do
          let maxSlotHeight ← Fallible.perform (I := heightService.toInterface)
            (CellOp.read : CellOp service UInt64)
          let _ ← Fallible.perform (I := heightService.toInterface)
            (CellOp.write (max slot maxSlotHeight) : CellOp service UInt64)
          pure ()
    | .err _ => Fallible.lift (.ok ())
    | .panic message => Fallible.lift (.panic message)

def consumed : Outcome AnyError Signature → Bool
  | .ok _ => true
  | _ => false

/-- How the wrapper ends after `consume_events_once`. -/
def wrapped : Outcome AnyError Signature → Outcome Empty Unit
  | .ok _ => .ok ()
  | .err _ => .ok ()
  | .panic message => .panic message

theorem consumeEventsWrapper_eq (programId : Pubkey) (payer : Keypair)
    (accountMetas : List AccountMeta) (toConsume : Nat) (slot : UInt64) :
    consumeEventsWrapper crates rClient programId payer accountMetas toConsume slot =
      working consumed (max slot) wrapped
        (consumeEventsOnce crates rClient programId payer accountMetas toConsume) := by
  unfold consumeEventsWrapper working
  congr 1
  funext result
  cases result with
  | ok signature => rfl
  | err error => rfl
  | panic message => rfl

end Wrapper

/-- The arguments of one worker. -/
structure Worker where
  programId : Pubkey
  payer : Keypair
  accountMetas : List AccountMeta
  toConsume : Nat
  slot : UInt64

namespace Worker

variable (crates : Crates) (worker : Worker)

def crank : Instruction :=
  ⟨worker.programId, worker.accountMetas,
    crates.pack (.consumeEvents (UInt16.ofNat worker.toConsume))⟩

/-- The cluster accepts a transaction that consumes the worker's events, under the
transaction's own signature. -/
def Accepted : ServiceEvent → Prop
  | ⟨.rpc (.sendTransactionWithConfig _ tx _), .ok signature⟩ =>
      tx.firstSignature = some signature ∧ worker.crank crates ∈ tx.instructions
  | _ => False

variable {crates worker}

theorem getLatestBlockhash_quiet :
    (Rpcnb.getLatestBlockhash .dexRpc).Confined (fun event => ¬ worker.Accepted crates event)
      fun _ => True := by
  apply Fallible.Confined.withGuard (fun _ => id) fun _ => id
  apply Fallible.Confined.bind (Fallible.Confined.perform fun _ => id)
  intro reply _
  exact .lift fun _ _ => trivial

theorem newSignedWithPayer_quiet (instructions : List Instruction) (payer : Option Pubkey)
    (signers : List Keypair) (recentBlockhash : Hash) :
    (newSignedWithPayer instructions payer signers recentBlockhash :
        Svc AnyError Transaction).Confined (fun event => ¬ worker.Accepted crates event)
      fun tx => tx.instructions = instructions := by
  apply Fallible.Confined.bind (Fallible.Confined.perform fun _ => id)
  intro _ _
  split
  · exact .pure rfl
  · exact .lift nofun

/-- The client returns the signature of a crank exactly if the cluster accepts it. -/
theorem accepted_iff {tx : Transaction} (cranks : worker.crank crates ∈ tx.instructions)
    (config : RpcSendTransactionConfig) (reply : Except ForeignError Signature) :
    worker.Accepted crates ⟨ServiceOp.rpc (.sendTransactionWithConfig none tx config), reply⟩ ↔
      ∃ signature, sentSignature tx reply = .ok signature := by
  cases reply with
  | error e => exact iff_of_false id (by simp [sentSignature_eq_ok_iff])
  | ok signature => simp [Accepted, cranks, sentSignature_eq_ok_iff]

/-- `consume_events_once` succeeds exactly if its transaction is accepted. -/
theorem consumeEventsOnce_signals :
    (consumeEventsOnce crates .dexRpc worker.programId worker.payer worker.accountMetas
      worker.toConsume).Signals (worker.Accepted crates) := by
  apply Fallible.Signals.after (Fallible.Confined.perform fun _ => id)
  intro random _
  apply Fallible.Signals.after getLatestBlockhash_quiet
  intro recentHash _
  apply Fallible.Signals.after (newSignedWithPayer_quiet _ _ _ _)
  intro tx hasInstructions
  have cranks : worker.crank crates ∈ tx.instructions := hasInstructions ▸ List.mem_cons_self
  refine Fallible.ensures_withGuard.mpr fun locked => Fallible.ensures_bind.mpr ?_
  apply (sendTransactionWithConfig_spec none _).mono
  rintro _ _ ⟨reply, rfl, rfl⟩
  -- of the events, only the answer of the node can be a signal
  have signals (unlocked : Unit) : (∃ event ∈ ([⟨ServiceOp.lock .dexRpc, locked⟩,
      ⟨ServiceOp.rpc (.sendTransactionWithConfig none tx { skipPreflight := true }), reply⟩,
      ⟨ServiceOp.unlock .dexRpc, unlocked⟩] : List ServiceEvent), worker.Accepted crates event) ↔
        ∃ signature, sentSignature tx reply = .ok signature := by
    rw [← accepted_iff cranks { skipPreflight := true }]
    simp [Accepted]
  cases returned : sentSignature tx reply with
  | ok signature =>
      intro unlocked
      exact iff_of_true ⟨signature, rfl⟩ ((signals unlocked).mpr ⟨signature, returned⟩)
  | err error =>
      intro unlocked
      refine iff_of_false (by simp) (mt (signals unlocked).mp ?_)
      simp [returned]
  | panic message =>
      intro unlocked
      refine iff_of_false (by simp) (mt (signals unlocked).mp ?_)
      simp [returned]

theorem consumeEventsOnce_orderly :
    Orderly (fun _ => True) ∅ (consumeEventsOnce crates .dexRpc worker.programId worker.payer
      worker.accountMetas worker.toConsume) := by
  apply Orderly.bind (Fallible.Keeps.perform (L := service) rfl)
  intro random
  apply Orderly.bind (Rpcnb.getLatestBlockhash_orderly (below_empty _))
  intro recentHash
  apply Orderly.bind (.newSignedWithPayer _ _ _ _)
  intro tx
  apply Orderly.locked (below_empty _)
  apply Orderly.bind (.sendTransactionWithConfig _ _ _)
  intro sent
  cases sent with
  | ok signature => exact .pure _
  | error e => exact .throw _

end Worker

section Cranking

variable {Task : Type} [DecidableEq Task] (crates : Crates) (worker : Task → Worker)

def cranking : State heightService Task (Outcome Empty Unit) :=
  initial fun task =>
    consumeEventsWrapper crates .dexRpc (worker task).programId (worker task).payer
      (worker task).accountMetas (worker task).toConsume (worker task).slot

/-- The workers have been interleaved so, and reading the height gives its value. -/
structure Cranked (start : UInt64) (history : List (Task × CellEvent service UInt64))
    (state : State heightService Task (Outcome Empty Unit)) : Prop where
  recorded : Recorded (fun _ _ => True) (cranking crates worker) history state
  coherent : Coherent start history

variable {crates worker} {start : UInt64} {history : List (Task × CellEvent service UInt64)}
  {state : State heightService Task (Outcome Empty Unit)}

theorem Cranked.updated (cranked : Cranked crates worker start history state) :
    Updated consumed (fun task => max (worker task).slot) wrapped
      (fun task => consumeEventsOnce crates .dexRpc (worker task).programId (worker task).payer
        (worker task).accountMetas (worker task).toConsume) start history state := by
  have recorded := cranked.recorded
  unfold cranking at recorded
  simp only [consumeEventsWrapper_eq] at recorded
  exact updated_of_coherent recorded cranked.coherent

theorem Worker.consumed_iff {worker : Worker} {result : Outcome AnyError Signature}
    {events : List ServiceEvent}
    (goes : (consumeEventsOnce crates .dexRpc worker.programId worker.payer worker.accountMetas
      worker.toConsume).Goes events (.done result)) :
    consumed result = true ↔ ∃ event ∈ events, worker.Accepted crates event := by
  have signals := Prog.Ensures.goes (@Worker.consumeEventsOnce_signals crates worker) goes
  rw [← signals]
  cases result <;> simp [consumed]

/-- However the workers are interleaved and whatever the cluster answers, the slot
height is the greatest of its first value and the slots of the workers that have
raised it.  Each does so at most once, after its transaction was accepted, and has
done so when it ends if it was. -/
theorem slotHeight_is_max (crates : Crates) (worker : Task → Worker) (start : UInt64)
    (history : List (Task × CellEvent service UInt64))
    (state : State heightService Task (Outcome Empty Unit))
    (cranked : Cranked crates worker start history state) :
    IsGreatest {slot | slot = start ∨ ∃ task ∈ writers history, slot = (worker task).slot}
        (cellAfter start history) ∧
      (writers history).Nodup ∧
      ∀ task,
        (task ∈ writers history →
          ∃ event ∈ innerEvents (ofTask task history), (worker task).Accepted crates event) ∧
        ∀ final, state.program task = .done final →
          (task ∈ writers history ↔
            ∃ event ∈ innerEvents (ofTask task history), (worker task).Accepted crates event) := by
  have updated := cranked.updated
  refine ⟨?_, updated.once, ?_⟩
  · rw [updated.cell]
    exact isGreatest_foldl_max start (fun task => (worker task).slot) (writers history)
  · intro task
    constructor
    · intro written
      obtain ⟨result, goes, commit⟩ := (updated.stage task).committed written
      exact (Worker.consumed_iff goes).mp commit
    · intro final ended
      have stage := updated.stage task
      rw [ended] at stage
      obtain ⟨result, goes, -, written⟩ := stage.ended
      exact written.trans (Worker.consumed_iff goes)

instance nonemptyAnswer (op : service.Op) : Nonempty (service.Answer op) :=
  ⟨mintingCluster.answer op⟩

theorem Cranked.disciplined (cranked : Cranked crates worker start history state) (task : Task) :
    Disciplined (L := heightService) (cellRank lockRank) (fun _ => True)
      {mutex | state.owner mutex = some task} ∅ (state.program task) := by
  apply cranked.recorded.disciplined
  rw [consumeEventsWrapper_eq]
  exact working_disciplined consumed _ wrapped Worker.consumeEventsOnce_orderly

/-- When no worker can go on, all of them have ended, nobody owns a mutex, and the
slot height is the greatest of its first value and the slots of all workers whose
transactions were accepted. -/
theorem slotHeight_at_the_end (crates : Crates) (worker : Task → Worker) (start : UInt64)
    (history : List (Task × CellEvent service UInt64))
    (state : State heightService Task (Outcome Empty Unit))
    (cranked : Cranked crates worker start history state)
    (stops : ∀ task event after, Coherent start (history ++ [(task, event)]) →
      ¬ Step state task event after) :
    (∀ task, ∃ final, state.program task = .done final) ∧ (∀ mutex, state.owner mutex = none) ∧
      IsGreatest
        {slot | slot = start ∨ ∃ task,
          (∃ event ∈ innerEvents (ofTask task history), (worker task).Accepted crates event) ∧
            slot = (worker task).slot}
        (cellAfter start history) := by
  have answerable (task : Task) (op : heightService.Op) : ∃ answer : heightService.Answer op,
      Coherent start (history ++ [(task, ⟨op, answer⟩)]) := by
    obtain ⟨answer, sees⟩ := CellOp.exists_sees (cellAfter start history) op
    exact ⟨answer, coherent_concat.mpr ⟨cranked.coherent, sees⟩⟩
  obtain ⟨ended, free⟩ :=
    all_ended cranked.disciplined (cellRank_le lockRank_le) stops answerable
  obtain ⟨greatest, -, raised⟩ := slotHeight_is_max crates worker start history state cranked
  refine ⟨ended, free, ?_⟩
  have accepted (task : Task) : task ∈ writers history ↔
      ∃ event ∈ innerEvents (ofTask task history), (worker task).Accepted crates event := by
    obtain ⟨final, isDone⟩ := ended task
    exact (raised task).2 final isDone
  simpa only [accepted] using greatest

section TwoWorkers

/-- The later worker has the higher slot. -/
def twoWorkers (task : Fin 2) : Worker where
  programId := onesPubkey
  payer := Reference.keypair
  accountMetas := []
  toConsume := 1
  slot := if task = earlier then 3 else 9

def acceptingCluster : Replies where
  rpc
    | .getLatestBlockhash => .ok ⟨Reference.keypair.secret⟩
    | .sendTransactionWithConfig _ tx _ => .ok (tx.firstSignature.getD Reference.signature)
    | _ => .error ⟨"unavailable"⟩
  transmits := false
  elapsed := 0
  keypair := Reference.keypair
  random := 0
  signature := Reference.signature

/-- The height is 5 whenever it is read. -/
def crankAnswer : (op : CellOp service UInt64) → op.Answer
  | .inner op => acceptingCluster.answer op
  | .read => (5 : UInt64)
  | .lock => ()
  | .unlock => ()
  | .write _ => ()

/-- The workers take turns until both transactions are accepted. -/
def crankSchedule : List (Fin 2) :=
  [later, earlier, later, later, later, earlier, earlier, later, earlier, later, later, earlier,
    later, earlier, earlier, earlier] ++ List.replicate 4 earlier ++ List.replicate 4 later

theorem crankSchedule_goes :
    (record (L := heightService) crankAnswer (cranking referenceCrates twoWorkers)
      crankSchedule).isSome = true := rfl

def cranks : List (Fin 2 × CellEvent service UInt64) ×
    State heightService (Fin 2) (Outcome Empty Unit) :=
  (record (L := heightService) crankAnswer (cranking referenceCrates twoWorkers)
    crankSchedule).get crankSchedule_goes

theorem cranks_cranked : Cranked referenceCrates twoWorkers 5 cranks.1 cranks.2 :=
  ⟨recorded_of_isSome (fun _ _ => trivial) crankSchedule_goes, by decide⟩

/-- Both raise the height, the later worker last. -/
theorem slotHeight_is_max_twoWorkers :
    writers cranks.1 = [earlier, later] ∧ cellAfter 5 cranks.1 = 9 ∧
      ∀ task, (twoWorkers task).slot ≤ cellAfter 5 cranks.1 := by
  have raises : writers cranks.1 = [earlier, later] := rfl
  obtain ⟨greatest, -, -⟩ := slotHeight_is_max referenceCrates twoWorkers 5 _ _ cranks_cranked
  refine ⟨raises, rfl, ?_⟩
  intro task
  apply greatest.2
  refine .inr ⟨task, ?_, rfl⟩
  rw [raises]
  decide +revert

theorem slotHeight_at_the_end_twoWorkers :
    cranks.2.owner (some ServiceMutex.dexRpc : Option ServiceMutex) = none ∧ ∃ task,
      (∃ event ∈ innerEvents (ofTask task cranks.1),
        (twoWorkers task).Accepted referenceCrates event) ∧ 9 = (twoWorkers task).slot := by
  have ended : ∀ task, cranks.2.program task = .done (.ok ()) := Fin.forall_fin_two.mpr ⟨rfl, rfl⟩
  have stops : ∀ task event after, Coherent 5 (cranks.1 ++ [(task, event)]) →
      ¬ Step cranks.2 task event after := by
    intro task event after _ step
    obtain ⟨next, atCall, -⟩ := step.goesOn
    rw [ended task] at atCall
    cases atCall
  obtain ⟨-, free, greatest, -⟩ :=
    slotHeight_at_the_end referenceCrates twoWorkers 5 _ _ cranks_cranked stops
  rcases greatest with isStart | raised
  · cases isStart
  · exact ⟨free _, raised⟩

end TwoWorkers

end Cranking

end RustHelper.SerumClient
