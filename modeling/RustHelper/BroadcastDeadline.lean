import RustHelper.ServedRuns

/-!
# The deadline of `send_tx`

A pass that goes on sleeps ten milliseconds for each entry that is not confirmed.
When the clock counts these sleeps, the deadline passes after a bounded number of
passes, so the loop ends, and the number of transmissions is bounded.
-/

namespace RustHelper.Broadcast

open Effect LockInterleaving

section Measures

/-- The milliseconds of `sleep(Duration::from_millis(..))`. -/
def sleepMs : ServiceEvent → Nat
  | ⟨ServiceOp.sleep milliseconds, _⟩ => milliseconds
  | _ => 0

def transmits : ServiceEvent → Nat
  | ⟨ServiceOp.sendWireTransaction _ _, _⟩ => 1
  | _ => 0

def sleptMs (events : List ServiceEvent) : Nat := (events.map sleepMs).sum

/-- How often a transaction was sent to the leaders. -/
def transmissions (events : List ServiceEvent) : Nat := (events.map transmits).sum

/-- A reading of the clock counts what was slept before it. -/
def InTime (past : List ServiceEvent) (event : ServiceEvent) : Prop :=
  ∀ secs ∈ clockReadings [event], sleptMs past < 1000 * (secs + 1)

instance (past : List ServiceEvent) (event : ServiceEvent) : Decidable (InTime past event) :=
  inferInstanceAs (Decidable (∀ secs ∈ clockReadings [event], _))

/-- The clock is never behind the sleeps: `now.elapsed()` is measured by a monotonic
clock, and a sleep takes at least its duration. -/
def ClockCounts (events : List ServiceEvent) : Prop := Warranted InTime [] events

instance (events : List ServiceEvent) : Decidable (ClockCounts events) :=
  inferInstanceAs (Decidable (Warranted InTime [] events))

/-- After a past whose clock counts, a transaction is transmitted only below the limit. -/
def Spends (limit : Nat) (past : List ServiceEvent) (event : ServiceEvent) : Prop :=
  ClockCounts past.reverse → transmits event = 1 → transmissions past < limit

variable {event : ServiceEvent} {past events : List ServiceEvent}

@[simp] theorem sleptMs_cons : sleptMs (event :: past) = sleepMs event + sleptMs past := by
  simp [sleptMs]

@[simp] theorem transmissions_cons :
    transmissions (event :: past) = transmits event + transmissions past := by
  simp [transmissions]

theorem transmissions_reverse : transmissions past.reverse = transmissions past := by
  simp [transmissions, List.map_reverse, List.sum_reverse]

theorem clockCounts_cons : ClockCounts (event :: past).reverse ↔
    ClockCounts past.reverse ∧ InTime past event := by
  rw [ClockCounts, List.reverse_cons, warranted_concat, List.reverse_reverse, List.append_nil]
  rfl

theorem transmits_le (event : ServiceEvent) : transmits event ≤ 1 := by
  unfold transmits
  split <;> omega

/-- The limit bounds every history. -/
theorem transmissions_le {limit : Nat} (warranted : Warranted (Spends limit) [] events)
    (counts : ClockCounts events) : transmissions events ≤ limit := by
  induction events using List.reverseRecOn with
  | nil => exact Nat.zero_le _
  | append_singleton events event ih =>
      obtain ⟨before, last⟩ := warranted_concat.mp warranted
      obtain ⟨countsBefore, -⟩ := warranted_concat.mp counts
      have below := ih before countsBefore
      have split : transmissions (events ++ [event]) = transmissions events + transmits event := by
        simp [transmissions]
      rw [List.append_nil] at last
      have one := transmits_le event
      by_cases sends : transmits event = 1
      · have room := last (by rwa [List.reverse_reverse]) sends
        rw [transmissions_reverse] at room
        omega
      · omega

end Measures

section Passes

variable {limit : Nat} {past later last : List ServiceEvent}

/-- Between two points, as many entries were transmitted and slept for. -/
structure Spent (past later : List ServiceEvent) (entries : Nat) : Prop where
  slept : sleptMs later = sleptMs past + 10 * entries
  transmitted : transmissions later = transmissions past + entries
  counts : ClockCounts later.reverse → ClockCounts past.reverse

theorem Spent.refl (past : List ServiceEvent) : Spent past past 0 := ⟨rfl, rfl, id⟩

theorem Spent.trans {first second : Nat} (begins : Spent past later first)
    (ends : Spent later last second) : Spent past last (first + second) where
  slept := by
    have := begins.slept
    have := ends.slept
    omega
  transmitted := by
    have := begins.transmitted
    have := ends.transmitted
    omega
  counts := fun counts => begins.counts (ends.counts counts)

/-- An event that neither sleeps nor transmits. -/
theorem Spent.quiet {event : ServiceEvent} (awake : sleepMs event = 0)
    (silent : transmits event = 0) : Spent past (event :: past) 0 where
  slept := by simp [awake]
  transmitted := by simp [silent]
  counts := fun counts => (clockCounts_cons.mp counts).1

theorem spends_of_silent {event : ServiceEvent} (silent : transmits event = 0) :
    Spends limit past event := by
  intro _ sends
  omega

/-- The rule for a guard: taking and dropping it is free. -/
theorem spends_locked {α : Type} {mutex : ServiceMutex} {body : Svc Status α}
    {returns : List ServiceEvent → α → Prop}
    (inside : ∀ answer, Fallible.Justified (Spends limit) (⟨ServiceOp.lock mutex, answer⟩ :: past)
      (fun later value => ∀ answer, returns (⟨ServiceOp.unlock mutex, answer⟩ :: later) value)
      body) : Fallible.Justified (Spends limit) past returns (locked mutex body) :=
  Fallible.Justified.withGuard (L := service) (fun _ => spends_of_silent rfl)
    (fun _ _ => spends_of_silent rfl) inside

theorem spends_rpc (call : RpcCall) :
    Fallible.Justified (Spends limit) past (fun later _ => Spent past later 0)
      (rpc call : Svc Status _) := by
  refine Fallible.Justified.mono (Fallible.Justified.perform_only (I := service.toInterface)
    fun _ => spends_of_silent rfl) ?_
  intro later answer _ isLater
  subst isLater
  exact Spent.quiet rfl rfl

theorem sendTransactionWithConfig_spends (entry : Option Nat) (tx : Transaction)
    (config : RpcSendTransactionConfig) :
    Fallible.Justified (Spends limit) past (fun later _ => Spent past later 0)
      (sendTransactionWithConfig entry tx config : Svc Status _) :=
  .bind (spends_rpc _) fun _ _ _ asked => .lift fun _ _ => asked

theorem ensureSent_spends (entry : Nat) (sr : SendResult) :
    Fallible.Justified (Spends limit) past
      (fun later sent => Spent past later 0 ∧ sent.inSystem = sr.inSystem)
      (ensureSent entry sr) := by
  unfold ensureSent
  split
  · exact .pure ⟨Spent.refl past, rfl⟩
  · apply spends_locked
    intro taken
    apply Fallible.Justified.bind (sendTransactionWithConfig_spends _ _ _)
    intro later result _ asked
    cases result with
    | error error => exact .throw _
    | ok signature =>
        apply Fallible.Justified.pure
        intro dropped
        exact ⟨((Spent.quiet rfl rfl).trans asked).trans (Spent.quiet rfl rfl), rfl⟩

/-- An entry that is not confirmed is transmitted and slept for. -/
theorem ensureConfirmed_spends (entry confirmedTxCount : Nat) (sr : SendResult)
    (room : ClockCounts past.reverse → transmissions past < limit) :
    Fallible.Justified (Spends limit) past
      (fun later visited => Spent past later (!sr.inSystem).toNat ∧
        visited.2 + sr.inSystem.toNat = confirmedTxCount + visited.1.inSystem.toNat)
      (ensureConfirmed entry sr confirmedTxCount) := by
  unfold ensureConfirmed
  cases isIn : sr.inSystem with
  | true => exact .pure ⟨Spent.refl past, by simp [isIn]⟩
  | false =>
      rw [if_neg Bool.false_ne_true]
      apply spends_locked
      intro taken
      have locking : Spent past (⟨ServiceOp.lock .broadcastTpu, taken⟩ :: past) 0 :=
        Spent.quiet rfl rfl
      apply Fallible.Justified.bind
        (Fallible.Justified.perform_only (I := service.toInterface) fun _ => ?sending)
      case sending =>
        intro counts _
        have before := room (locking.counts counts)
        have same := locking.transmitted
        omega
      intro wired sent _ isWired
      split
      · apply Fallible.Justified.bind (Fallible.Justified.perform_only (I := service.toInterface)
          fun _ => spends_of_silent rfl)
        intro slept _ _ isSlept
        have spent : Spent past slept 1 := by
          subst isSlept isWired
          constructor
          case slept => simp [sleepMs, Nat.add_comm]
          case transmitted => simp [transmits, Nat.add_comm]
          case counts =>
            intro counts
            exact locking.counts (clockCounts_cons.mp (clockCounts_cons.mp counts).1).1
        apply spends_locked
        intro takenRpc
        cases isSig : sr.sig with
        | none => exact .throw _
        | some signature =>
            refine Fallible.Justified.bind (spends_rpc _) ?_
            intro later reply _ asked
            have all (first second : ServiceEvent) (quiet : sleepMs first = 0 ∧ transmits first = 0)
                (silent : sleepMs second = 0 ∧ transmits second = 0) :
                Spent past (first :: second :: later) 1 :=
              (((spent.trans (Spent.quiet rfl rfl)).trans asked).trans
                (Spent.quiet silent.1 silent.2)).trans (Spent.quiet quiet.1 quiet.2)
            cases reply with
            | error error => exact .throw _
            | ok value =>
                cases value with
                | true => exact .pure fun _ _ => ⟨all _ _ ⟨rfl, rfl⟩ ⟨rfl, rfl⟩, rfl⟩
                | false =>
                    refine .pure fun _ _ => ⟨all _ _ ⟨rfl, rfl⟩ ⟨rfl, rfl⟩, ?_⟩
                    simp [isIn]
      · exact .throw _

theorem visit_spends (entry confirmedTxCount : Nat) (sr : SendResult)
    (room : ClockCounts past.reverse → transmissions past < limit) :
    Fallible.Justified (Spends limit) past
      (fun later visited => Spent past later (!sr.inSystem).toNat ∧
        visited.2 + sr.inSystem.toNat = confirmedTxCount + visited.1.inSystem.toNat)
      (visit entry sr confirmedTxCount) := by
  apply Fallible.Justified.bind (ensureSent_spends entry sr)
  intro later sent _ holds
  obtain ⟨asked, same⟩ := holds
  have stillRoom : ClockCounts later.reverse → transmissions later < limit := by
    intro counts
    have before := room (asked.counts counts)
    have unchanged := asked.transmitted
    omega
  refine (ensureConfirmed_spends entry confirmedTxCount sent stillRoom).mono ?_
  intro last visited _ holds
  rw [same] at holds
  obtain ⟨spent, counted⟩ := holds
  have all := asked.trans spent
  rw [Nat.zero_add] at all
  exact ⟨all, counted⟩

def confirmedEntries (sigList : List SendResult) : Nat :=
  (sigList.map fun sr => sr.inSystem.toNat).sum

def openEntries (sigList : List SendResult) : Nat :=
  (sigList.map fun sr => (!sr.inSystem).toNat).sum

theorem confirmed_add_open (sigList : List SendResult) :
    confirmedEntries sigList + openEntries sigList = sigList.length := by
  induction sigList with
  | nil => rfl
  | cons sr sigList ih =>
      simp only [confirmedEntries, openEntries, List.map_cons, List.sum_cons,
        List.length_cons] at ih ⊢
      cases sr.inSystem <;> simp <;> omega

/-- A pass transmits and sleeps for each entry that is not confirmed. -/
theorem sendPass_spends (sigList : List SendResult) (entry confirmedTxCount : Nat)
    (room : ClockCounts past.reverse → transmissions past + sigList.length ≤ limit) :
    Fallible.Justified (Spends limit) past
      (fun later passed => Spent past later (openEntries sigList) ∧
        passed.1.length = sigList.length ∧
        passed.2 + confirmedEntries sigList = confirmedTxCount + confirmedEntries passed.1)
      (sendPass entry sigList confirmedTxCount) := by
  induction sigList generalizing past entry confirmedTxCount with
  | nil => exact .pure ⟨Spent.refl past, rfl, rfl⟩
  | cons sr sigList ih =>
      rw [List.length_cons] at room
      have roomHere : ClockCounts past.reverse → transmissions past < limit := by
        intro counts
        have := room counts
        omega
      apply Fallible.Justified.bind (visit_spends entry confirmedTxCount sr roomHere)
      intro later visited _ holds
      obtain ⟨spent, counted⟩ := holds
      have roomRest : ClockCounts later.reverse →
          transmissions later + sigList.length ≤ limit := by
        intro counts
        have before := room (spent.counts counts)
        have transmitted := spent.transmitted
        have one := Bool.toNat_le (!sr.inSystem)
        omega
      apply Fallible.Justified.bind (ih (entry + 1) visited.2 roomRest)
      intro last passed _ holds
      obtain ⟨spentRest, sameLength, countedRest⟩ := holds
      apply Fallible.Justified.pure
      refine ⟨spent.trans spentRest, ?_, ?_⟩
      · rw [List.length_cons, List.length_cons, sameLength]
      · simp only [confirmedEntries, List.map_cons, List.sum_cons] at countedRest ⊢
        omega

end Passes

section Loop

variable {crates : Crates} {past : List ServiceEvent}

/-- How many tests of the `while` condition let a pass go on. -/
def passLimit (crates : Crates) : Nat := 100 * (crates.maxProcessingAge + 1)

/-- How often a batch is transmitted in all. -/
def transmissionLimit (crates : Crates) (entries : Nat) : Nat := passLimit crates + entries

/-- After `gone` passes, at least ten milliseconds were slept for each, and one
transmission was made for each ten milliseconds. -/
structure Paced (crates : Crates) (past : List ServiceEvent) (gone : Nat) : Prop where
  slept : 10 * gone ≤ sleptMs past
  transmitted : 10 * transmissions past = sleptMs past
  early : ClockCounts past.reverse → gone ≤ passLimit crates

/-- A test lets a pass go on only before the deadline. -/
theorem Paced.test {gone elapsed : Nat} (paced : Paced crates past gone)
    (beforeDeadline : elapsed ≤ crates.maxProcessingAge)
    (counts : ClockCounts (⟨ServiceOp.elapsedSecs, elapsed⟩ :: past : List ServiceEvent).reverse) :
    transmissions past < passLimit crates ∧ gone < passLimit crates := by
  have inTime := (clockCounts_cons.mp counts).2 elapsed (List.mem_singleton.mpr rfl)
  have slept := paced.slept
  have transmitted := paced.transmitted
  unfold passLimit
  omega

theorem sendLoop_spends (passes gone : Nat) (sigList : List SendResult) (confirmedTxCount : Nat)
    (counted : confirmedTxCount = confirmedEntries sigList) (paced : Paced crates past gone) :
    Fallible.Justified (Spends (transmissionLimit crates sigList.length)) past
      (fun later reply => ∀ left count, reply = .running left count →
        ClockCounts later.reverse → gone + passes ≤ passLimit crates)
      (sendLoop crates passes sigList confirmedTxCount) := by
  induction passes generalizing past gone sigList confirmedTxCount with
  | zero => exact .pure fun _ _ _ counts => paced.early counts
  | succ passes ih =>
      apply Fallible.Justified.bind (Fallible.Justified.perform_only (I := service.toInterface)
        fun _ => spends_of_silent rfl)
      intro timed elapsed _ isTimed
      have read : Spent past timed 0 := isTimed ▸ Spent.quiet rfl rfl
      split
      · rename_i goesOn
        have room : ClockCounts timed.reverse →
            transmissions timed + sigList.length ≤
              transmissionLimit crates sigList.length := by
          intro counts
          rw [isTimed] at counts
          have before := (paced.test goesOn.1 counts).1
          have same := read.transmitted
          unfold transmissionLimit
          omega
        apply Fallible.Justified.bind (sendPass_spends sigList 0 confirmedTxCount room)
        intro later passed _ holds
        obtain ⟨spent, sameLength, countedAfter⟩ := holds
        -- a pass goes on only if some entry is not confirmed, so it sleeps
        have sum := confirmed_add_open sigList
        have all := read.trans spent
        have countedNow : passed.2 = confirmedEntries passed.1 := by omega
        have pacedNow : Paced crates later (gone + 1) := by
          have slept := paced.slept
          have transmitted := paced.transmitted
          constructor
          case slept =>
            have := all.slept
            omega
          case transmitted =>
            have := all.slept
            have := all.transmitted
            omega
          case early =>
            intro counts
            have timedCounts := spent.counts counts
            rw [isTimed] at timedCounts
            exact (paced.test goesOn.1 timedCounts).2
        have rest := ih (gone + 1) passed.1 passed.2 countedNow pacedNow
        rw [sameLength] at rest
        refine rest.mono ?_
        intro last reply _ holds left count isRunning counts
        have bounded := holds left count isRunning counts
        omega
      · exact .pure nofun

theorem confirmedEntries_new {txList : List (List UInt8)} {sigList : List SendResult}
    (decoded : deserializeBatch crates txList = .ok sigList) :
    sigList.length = txList.length ∧ confirmedEntries sigList = 0 := by
  induction txList generalizing sigList with
  | nil =>
      cases decoded
      exact ⟨rfl, rfl⟩
  | cons serializedTx txList ih =>
      simp only [deserializeBatch] at decoded
      split at decoded
      · cases decoded
      · obtain ⟨rest, isRest, same⟩ := Outcome.bind_eq_ok_iff.mp decoded
        cases same
        obtain ⟨sameLength, none⟩ := ih isRest
        exact ⟨congrArg Nat.succ sameLength, by simpa [confirmedEntries, SendResult.new] using none⟩

/-- Within the limit of transmissions, a batch is answered by the pass limit. -/
theorem sendTx_spends (passes : Nat) (txList : List (List UInt8)) :
    Fallible.Justified (Spends (transmissionLimit crates txList.length)) []
      (fun later reply => ∀ left count, reply = .running left count →
        ClockCounts later.reverse → passes ≤ passLimit crates)
      (sendTx crates passes txList) := by
  have decoding : Fallible.Justified (Spends (transmissionLimit crates txList.length)) []
      (fun later sigList => later = [] ∧ deserializeBatch crates txList = .ok sigList)
      (Fallible.lift (deserializeBatch crates txList) : Svc Status _) :=
    .lift fun _ isOk => ⟨rfl, isOk⟩
  apply decoding.bind
  intro later sigList _ holds
  obtain ⟨isStart, decoded⟩ := holds
  subst isStart
  obtain ⟨sameLength, unconfirmed⟩ := confirmedEntries_new decoded
  have paced : Paced crates [] 0 := ⟨Nat.zero_le _, rfl, fun _ => Nat.zero_le _⟩
  have loop := sendLoop_spends passes 0 sigList 0 unconfirmed.symm paced
  rw [sameLength] at loop
  refine loop.mono ?_
  intro last reply _ holds left count isRunning counts
  have bounded := holds left count isRunning counts
  omega

end Loop

/-- With a clock that counts the sleeps, `send_tx` comes to an end: it is over after
`passLimit` passes, and following it further changes nothing. -/
theorem sendTx_ends (crates : Crates) (txList : List (List UInt8)) (world : ServiceWorld)
    (counts : ClockCounts ((sendTx crates (passLimit crates + 1) txList).events world 0)) :
    (∀ left count, (sendTx crates (passLimit crates + 1) txList).outcome world 0 ≠
        .ok (.running left count)) ∧
      ∀ passes, passLimit crates < passes →
        (sendTx crates passes txList).outcome world 0 =
            (sendTx crates (passLimit crates + 1) txList).outcome world 0 ∧
          (sendTx crates passes txList).events world 0 =
            (sendTx crates (passLimit crates + 1) txList).events world 0 := by
  have ended : ∀ left count, (sendTx crates (passLimit crates + 1) txList).outcome world 0 ≠
      .ok (.running left count) := by
    intro left count isRunning
    obtain ⟨-, holds⟩ := (sendTx_spends (passLimit crates + 1) txList).ensures.sound world 0
    have bounded := holds _ isRunning left count rfl
    rw [List.append_nil, List.reverse_reverse] at bounded
    have := bounded counts
    omega
  refine ⟨ended, ?_⟩
  intro passes beyond
  induction passes, Nat.succ_le_of_lt beyond using Nat.le_induction with
  | base => exact ⟨rfl, rfl⟩
  | succ passes further ih =>
      obtain ⟨sameOutcome, sameEvents⟩ := ih further
      have endedHere : ∀ left count,
          (sendTx crates passes txList).outcome world 0 ≠ .ok (.running left count) := by
        rw [sameOutcome]
        exact ended
      have stays := sendTx_stays endedHere
      exact ⟨stays.1.trans sameOutcome, stays.2.trans sameEvents⟩

/-- A cluster that accepts and confirms, with a clock that stands still. -/
def confirmingWorld : ServiceWorld := fun _ => (acceptingCluster true true 0).answer

/-- A batch of one is answered after one pass, however long it is followed. -/
theorem sendTx_ends_confirmed :
    (sendTx referenceCrates 1000000 [Reference.signedWire]).outcome confirmingWorld 0 =
      (sendTx referenceCrates (passLimit referenceCrates + 1) [Reference.signedWire]).outcome
        confirmingWorld 0 :=
  ((sendTx_ends referenceCrates [Reference.signedWire] confirmingWorld (by decide +kernel)).2
    1000000 (by decide)).1

end RustHelper.Broadcast

namespace RustHelper

open Effect LockInterleaving Broadcast

/-- In every interleaving, while the clock of a batch counts its sleeps, the batch
is transmitted at most `transmissionLimit` times, and by the pass limit it is over. -/
theorem served_batch_ends {Task : Type} [DecidableEq Task] (crates : Crates)
    (request : Task → Request) (passes : Task → Nat) (history : List (Task × ServiceEvent))
    (state : State service Task (Outcome Status Response))
    (served : Served crates request passes history state) (index : Task)
    (txList : List (List UInt8)) (isBatch : request index = .sendTx txList)
    (counts : ClockCounts (ofTask index history)) :
    transmissions (ofTask index history) ≤ transmissionLimit crates txList.length ∧
      (passLimit crates < passes index → ∀ left count,
        state.program index ≠ .done (.ok (.batch (.running left count)))) := by
  have own : Fallible.Justified (Spends (transmissionLimit crates txList.length)) []
      (fun later response => ∀ left count, response = .batch (.running left count) →
        ClockCounts later.reverse → passes index ≤ passLimit crates)
      ((request index).respond crates (passes index)) := by
    rw [isBatch]
    apply Fallible.Justified.bind (sendTx_spends (passes index) txList)
    intro later reply _ holds
    apply Fallible.Justified.pure
    intro left count isRunning counts
    cases isRunning
    exact holds left count rfl counts
  obtain ⟨spends, left⟩ := Prog.Keeps.goes own (served.goes index)
  refine ⟨transmissions_le spends counts, ?_⟩
  intro beyond left' count isRunning
  rw [isRunning, List.append_nil] at left
  have bounded := left _ rfl left' count rfl (by rwa [List.reverse_reverse])
  omega

/-- A batch beside a request to mint. -/
def batchBesideMint : Fin 2 → Request
  | 0 => .sendTx [Reference.signedWire]
  | 1 => .runMint mintRequest

def sending : State service (Fin 2) (Outcome Status Response) :=
  responding referenceCrates batchBesideMint fun _ => 1000000

/-- The batch is under way when the mint request takes its turn. -/
def sendingSchedule : List (Fin 2) :=
  List.replicate 7 earlier ++ List.replicate 3 later ++ List.replicate 5 earlier

theorem sendingSchedule_goes : (record (L := service) (acceptingCluster true true 0).answer sending
    sendingSchedule).isSome = true := by decide +kernel

def sent : List (Fin 2 × ServiceEvent) × State service (Fin 2) (Outcome Status Response) :=
  (record (L := service) (acceptingCluster true true 0).answer sending sendingSchedule).get
    sendingSchedule_goes

theorem sent_served :
    Served referenceCrates batchBesideMint (fun _ => 1000000) sent.1 sent.2 :=
  recorded_of_isSome (fun _ _ => trivial) sendingSchedule_goes

/-- The batch sleeps before the mint request takes its turn, and is over after it. -/
theorem served_batch_ends_beside_mint :
    transmissions (ofTask (L := service) 0 sent.1) ≤ transmissionLimit referenceCrates 1 ∧
      ∀ left count, sent.2.program 0 ≠ .done (.ok (.batch (.running left count))) := by
  have ends := served_batch_ends referenceCrates batchBesideMint (fun _ => 1000000) _ _
    sent_served 0 [Reference.signedWire] rfl (by decide +kernel)
  exact ⟨ends.1, ends.2 (by decide)⟩

end RustHelper
