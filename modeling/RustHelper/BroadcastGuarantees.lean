import RustHelper.BroadcastRuns
import RustHelper.ReferenceCrates

/-!
# The loop of `send_tx`

Consequences of the histories for whole calls of `send_tx`, in every world: the
order of the calls for each entry, what holds at each test of the loop, and what
can come after it.
-/

namespace RustHelper.Broadcast

open Effect

section Decoding

variable {crates : Crates} {txList : List (List UInt8)}

theorem deserializeBatch_fails
    (bad : ∃ wire ∈ txList, ∃ error, crates.deserialize wire = .error error) :
    deserializeBatch crates txList = .err (.internal "failed to deserialize") := by
  induction txList with
  | nil =>
      obtain ⟨wire, isEntry, _⟩ := bad
      cases isEntry
  | cons first txList ih =>
      unfold deserializeBatch
      cases decoded : crates.deserialize first with
      | error error => rfl
      | ok tx =>
          obtain ⟨wire, isEntry, error, fails⟩ := bad
          rcases List.mem_cons.mp isEntry with rfl | isLater
          · rw [decoded] at fails
            cases fails
          · simp only [ih ⟨wire, isLater, error, fails⟩]
            rfl

/-- Each entry starts with its bytes and the transaction that they decode to. -/
structure Decoded (crates : Crates) (batch : List (List UInt8)) (items : List Item) : Prop where
  wires : items.map Item.wire = batch
  transactions : batch.map crates.deserialize = items.map fun item => .ok item.tx

theorem Decoded.length_eq {items : List Item} (decoded : Decoded crates txList items) :
    items.length = txList.length := by
  simpa using congrArg List.length decoded.wires

/-- The item at a place of the batch. -/
theorem Decoded.getElem?_eq_some_iff {items : List Item} (decoded : Decoded crates txList items)
    {entry : Nat} {item : Item} :
    items[entry]? = some item ↔
      txList[entry]? = some item.wire ∧ crates.deserialize item.wire = .ok item.tx := by
  obtain ⟨wires, transactions⟩ := decoded
  have wireAt := congrArg (·[entry]?) wires
  have txAt := congrArg (·[entry]?) transactions
  simp only [List.getElem?_map] at wireAt txAt
  rw [← wireAt] at txAt ⊢
  cases isItem : items[entry]? with
  | none => simp
  | some other =>
      simp only [isItem, Option.map_some, Option.some.injEq] at txAt ⊢
      constructor
      · rintro rfl
        exact ⟨rfl, txAt⟩
      · rintro ⟨sameWire, reads⟩
        rw [sameWire, reads, Except.ok.injEq] at txAt
        obtain ⟨wire, tx⟩ := item
        cases other
        simp_all

def Item.fresh (item : Item) : SendResult := SendResult.new item.tx item.wire

theorem standing_fresh (items : List Item) :
    Standing (fun _ => []) items (items.map Item.fresh) 0 := by
  have unsent : ∀ sr ∈ items.map Item.fresh, sr.sig = none ∧ sr.inSystem = false :=
    List.forall_mem_map.mpr fun _ _ => ⟨rfl, rfl⟩
  constructor
  case items_eq => simp [Function.comp_def, Item.fresh, SendResult.new, SendResult.item]
  case alive =>
    generalize 0 = entry
    induction items generalizing entry with
    | nil => trivial
    | cons item items ih => exact ⟨.fresh, ih (List.forall_mem_cons.mp unsent).2 (entry + 1)⟩
  case count =>
    refine (List.countP_eq_zero.mpr fun sr isEntry => ?_).symm
    simp [(unsent sr isEntry).2]
  case uniform => exact .inr fun sr isEntry => (unsent sr isEntry).1

theorem deserializeBatch_ok (good : ∀ wire ∈ txList, ∃ tx, crates.deserialize wire = .ok tx) :
    ∃ items, Decoded crates txList items ∧
      deserializeBatch crates txList = .ok (items.map Item.fresh) := by
  induction txList with
  | nil => exact ⟨[], ⟨rfl, rfl⟩, rfl⟩
  | cons first txList ih =>
      obtain ⟨tx, isTx⟩ := good first (List.mem_cons_self ..)
      obtain ⟨items, ⟨wires, transactions⟩, decoded⟩ :=
        ih fun wire isEntry => good wire (List.mem_cons_of_mem _ isEntry)
      refine ⟨⟨first, tx⟩ :: items, ⟨?_, ?_⟩, ?_⟩
      · rw [List.map_cons, wires]
      · rw [List.map_cons, List.map_cons, transactions, isTx]
      · simp only [deserializeBatch, isTx, decoded, Outcome.ok_bind]
        rfl

theorem decodes_or_fails (crates : Crates) (txList : List (List UInt8)) :
    (∃ wire ∈ txList, ∃ error, crates.deserialize wire = .error error) ∨
      ∀ wire ∈ txList, ∃ tx, crates.deserialize wire = .ok tx := by
  refine or_iff_not_imp_left.mpr fun none wire isEntry => ?_
  cases reads : crates.deserialize wire with
  | ok tx => exact ⟨tx, rfl⟩
  | error error => exact absurd ⟨wire, isEntry, error, reads⟩ none

end Decoding

section Runs

variable (crates : Crates) (passes : Nat) (batch : List (List UInt8))

/-- Every way `send_tx` can end, or stand when it is no longer followed. -/
theorem sendTx_spec :
    (sendTx crates passes batch).Ensures fun outcome trace =>
      (∀ call ∈ calls trace, call.1 < batch.length) ∧
      (outcome = .err (.internal "failed to deserialize") ∧ trace = [] ∨
        ∃ items, Decoded crates batch items ∧
          LoopEnds crates.maxProcessingAge (fun _ => []) items trace outcome) := by
  unfold sendTx
  rcases decodes_or_fails crates batch with bad | good
  · rw [deserializeBatch_fails bad]
    exact ⟨by simp, .inl ⟨rfl, rfl⟩⟩
  · obtain ⟨items, isDecoded, decoded⟩ := deserializeBatch_ok good
    rw [decoded]
    apply (sendLoop_spec crates passes (standing_fresh items)).mono
    rintro outcome trace ⟨inRange, ends⟩
    rw [isDecoded.length_eq] at inRange
    exact ⟨inRange, .inr ⟨items, isDecoded, ends⟩⟩

/-- What is left to do at the end of a followed run. -/
def resume : SendTxReply → Svc Status SendTxReply
  | .response signature => pure (.response signature)
  | .running sigList confirmedTxCount => sendLoop crates 1 sigList confirmedTxCount

theorem sendLoop_succ (sigList : List SendResult) (confirmedTxCount : Nat) :
    sendLoop crates (passes + 1) sigList confirmedTxCount =
      sendLoop crates passes sigList confirmedTxCount >>= resume crates := by
  induction passes generalizing sigList confirmedTxCount with
  | zero => rfl
  | succ passes ih =>
      rw [sendLoop, sendLoop, Fallible.bind_assoc]
      congr 1
      funext elapsed
      split
      · rw [Fallible.bind_assoc]
        congr 1
        funext passed
        exact ih passed.1 passed.2
      · rfl

/-- Following `send_tx` for one more test continues the same run. -/
theorem sendTx_succ :
    sendTx crates (passes + 1) batch = sendTx crates passes batch >>= resume crates := by
  unfold sendTx
  rw [Fallible.bind_assoc]
  congr 1
  funext sigList
  exact sendLoop_succ crates passes sigList 0

end Runs

/-- What has ended is not changed by following it further. -/
theorem sendTx_stays {crates : Crates} {passes : Nat} {batch : List (List UInt8)}
    {world : ServiceWorld} (ended : ∀ left count,
      (sendTx crates passes batch).outcome world 0 ≠ .ok (.running left count)) :
    (sendTx crates (passes + 1) batch).outcome world 0 =
        (sendTx crates passes batch).outcome world 0 ∧
      (sendTx crates (passes + 1) batch).events world 0 =
        (sendTx crates passes batch).events world 0 := by
  rw [sendTx_succ]
  have outcomes := Fallible.outcome_bind world 0 (sendTx crates passes batch) (resume crates)
  cases isOutcome : (sendTx crates passes batch).outcome world 0 with
  | ok reply =>
      have events := Fallible.events_bind_of_ok world 0 isOutcome (resume crates)
      rw [isOutcome] at outcomes
      cases reply with
      | running left count => exact absurd isOutcome (ended left count)
      | response signature => exact ⟨outcomes, events.trans (List.append_nil _)⟩
  | err error =>
      rw [isOutcome] at outcomes
      exact ⟨outcomes, Fallible.events_bind_of_not_ok world 0 (by simp [isOutcome]) _⟩
  | panic message =>
      rw [isOutcome] at outcomes
      exact ⟨outcomes, Fallible.events_bind_of_not_ok world 0 (by simp [isOutcome]) _⟩

section Discipline

variable {history : Nat → List EntryCall} {items : List Item} {sigList : List SendResult}
  {confirmedTxCount : Nat}

theorem Standing.life (standing : Standing history items sigList confirmedTxCount) {entry : Nat}
    {sr : SendResult} (isEntry : sigList[entry]? = some sr) :
    Life sr.item (history entry) sr.sig sr.inSystem := by
  have life := standing.alive.life isEntry
  rwa [Nat.zero_add] at life

theorem Standing.discipline (standing : Standing history items sigList confirmedTxCount)
    {entry : Nat} {item : Item} (isItem : items[entry]? = some item) :
    CallDiscipline item (history entry) := by
  obtain ⟨sr, -, -, life⟩ := standing.life_of_item isItem
  exact life.discipline

theorem LoopEnds.discipline {waitTime : Nat} {trace : List ServiceEvent}
    {outcome : Outcome Status SendTxReply}
    (ends : LoopEnds waitTime (fun _ => []) items trace outcome) {entry : Nat} {item : Item}
    (isItem : items[entry]? = some item) : CallDiscipline item (callsOf entry trace) := by
  change CallDiscipline item (extended (fun _ => []) trace entry)
  match outcome, ends with
  | .ok (.running sigList confirmed), standing => exact Standing.discipline standing isItem
  | .ok (.response signature), ⟨_, _, _, standing, _⟩ => exact standing.discipline isItem
  | .err error, failed => exact Failed.discipline failed entry item isItem
  | .panic message, failed => exact Failed.discipline failed entry item isItem

theorem callsOf_isPrefix {sofar events : List ServiceEvent} (isPrefix : sofar <+: events)
    (entry : Nat) : callsOf entry sofar <+: callsOf entry events := by
  obtain ⟨rest, rfl⟩ := isPrefix
  rw [callsOf_append]
  exact List.prefix_append _ _

theorem Cut.error_ne {item : Item} {made : List EntryCall} {error : Status}
    (cut : Cut item made (.error error)) :
    error ≠ .internal "failed to deserialize" ∧ error ≠ .internal "failed to get signature" := by
  cases cut <;> decide

theorem Standing.inSystem_iff (standing : Standing history items sigList confirmedTxCount)
    {entry : Nat} {sr : SendResult} (isEntry : sigList[entry]? = some sr) :
    sr.inSystem = true ↔ ∃ sig, .check sig (.ok true) ∈ history entry := by
  have life := standing.life isEntry
  generalize history entry = made, sr.item = item, sr.sig = sig, sr.inSystem = inSystem
    at life ⊢
  cases life with
  | fresh => simp
  | pending pending =>
      simp only [Bool.false_eq_true, false_iff, not_exists]
      exact pending.not_confirmed
  | confirmed pending => simp

/-- A pass that panics does so in sending an item without signatures. -/
theorem Standing.panics {trace : List ServiceEvent} {message : String}
    (standing : Standing history items sigList confirmedTxCount)
    (breaks : Breaks history 0 sigList trace (.panic message)) :
    ∃ (broken : Nat) (item : Item), items[broken]? = some item ∧
      item.tx.firstSignature = none ∧
      (broken, .send item.tx (.panic message)) ∈ calls trace := by
  obtain ⟨broken, -, -, halted⟩ := breaks
  rw [standing.items_eq] at halted
  obtain ⟨item, isItem, cut⟩ := halted.cut
  rw [Nat.sub_zero] at isItem
  refine ⟨broken, item, isItem, ?_⟩
  obtain ⟨sr, -, -, life⟩ := standing.life_of_item isItem
  generalize isMade : extended history trace broken = made at cut
  cases cut with
  | crashing _ unsigned =>
      refine ⟨unsigned, ?_⟩
      rw [extended] at isMade
      cases isSig : sr.sig with
      | none =>
          rw [isSig] at life
          rw [life.eq_nil_of_unsent, List.nil_append] at isMade
          exact mem_callsOf.mp (isMade ▸ List.mem_singleton_self _)
      | some sig =>
          rw [isSig] at life
          have accepted := List.mem_append_left (callsOf broken trace) life.accepted
          rw [isMade] at accepted
          simp at accepted

end Discipline

section LoopTests

variable (crates : Crates) (world : ServiceWorld) (clock : Nat)
  (sigList : List SendResult) (confirmedTxCount : Nat)

/-- One pass, after which the loop is no longer followed. -/
def onePass : Svc Status SendTxReply := do
  let passed ← sendPass 0 sigList confirmedTxCount
  pure (.running passed.1 passed.2)

/-- The loop after a reading of the clock. -/
def afterTest (elapsed : Nat) : Svc Status SendTxReply :=
  if elapsed ≤ crates.maxProcessingAge ∧ confirmedTxCount < sigList.length then
    onePass sigList confirmedTxCount
  else
    pure (.response (genSigList sigList))

theorem sendLoop_one :
    (sendLoop crates 1 sigList confirmedTxCount).outcome world clock =
        (afterTest crates sigList confirmedTxCount (clockAt world clock)).outcome world
          (clock + 1) ∧
      (sendLoop crates 1 sigList confirmedTxCount).events world clock =
        ⟨ServiceOp.elapsedSecs, clockAt world clock⟩ ::
          (afterTest crates sigList confirmedTxCount (clockAt world clock)).events world
            (clock + 1) := ⟨rfl, rfl⟩

variable {crates world clock sigList confirmedTxCount}

/-- What a pass comes to that is not finished: it checks some entry, returns an error,
or panics because the node accepted an item without signatures. -/
def Progress (items : List Item) (outcome : Outcome Status SendTxReply)
    (trace : List ServiceEvent) : Prop :=
  (∃ index sig answer, (index, .check sig answer) ∈ calls trace) ∨ outcome.IsErr ∨
    ∃ index item message, items[index]? = some item ∧ item.tx.firstSignature = none ∧
      (index, .send item.tx (.panic message)) ∈ calls trace ∧ outcome = .panic message

/-- A pass makes progress, and is never a response. -/
theorem onePass_checks {history : Nat → List EntryCall} {items : List Item}
    (standing : Standing history items sigList confirmedTxCount)
    (unfinished : confirmedTxCount < sigList.length) :
    (onePass sigList confirmedTxCount).Ensures fun outcome trace =>
      (∀ signature, outcome ≠ .ok (.response signature)) ∧ Progress items outcome trace := by
  apply (sendPass_spec confirmedTxCount standing.alive).bind
  · rintro ⟨after, confirmed⟩ trace ⟨inRange, passed⟩
    refine Fallible.ensures_pure.mpr ⟨by simp, .inl ?_⟩
    rw [List.append_nil]
    exact passed.checked (standing.count_lt_iff.mp unfinished)
  · exact fun error trace _ => ⟨by simp, .inr (.inl trivial)⟩
  · rintro message trace ⟨_, breaks⟩
    obtain ⟨broken, item, isItem, unsigned, sent⟩ := standing.panics breaks
    exact ⟨by simp, .inr (.inr ⟨broken, item, message, isItem, unsigned, sent, rfl⟩)⟩

/-- At a test before the deadline, the loop is left exactly when every entry is
in the system. -/
theorem afterTest_response_iff {history : Nat → List EntryCall} {items : List Item}
    (standing : Standing history items sigList confirmedTxCount) {elapsed : Nat}
    (early : elapsed ≤ crates.maxProcessingAge) :
    (∃ signature, (afterTest crates sigList confirmedTxCount elapsed).outcome world clock =
        .ok (.response signature)) ↔ ∀ sr ∈ sigList, sr.inSystem := by
  by_cases unfinished : confirmedTxCount < sigList.length
  · rw [afterTest, if_pos ⟨early, unfinished⟩]
    constructor
    · rintro ⟨signature, responds⟩
      exact absurd responds
        (((onePass_checks standing unfinished).sound world clock).1 signature)
    · intro all
      obtain ⟨sr, isEntry, notInSystem⟩ := standing.count_lt_iff.mp unfinished
      have inSystem := all sr isEntry
      rw [notInSystem] at inSystem
      cases inSystem
  · rw [afterTest, if_neg fun both => unfinished both.2]
    refine ⟨fun _ sr isEntry => ?_, fun _ => ⟨_, rfl⟩⟩
    by_contra notInSystem
    exact unfinished (standing.count_lt_iff.mpr ⟨sr, isEntry, by simpa using notInSystem⟩)

end LoopTests

section LoopDiscipline

/-- What is true when the `while` condition is about to be tested, and of that
test.  `events` are the operations so far; `next` and `later` are how `send_tx`
stands after the test and, if it succeeds, the pass. -/
structure AtTest (crates : Crates) (items : List Item) (world : ServiceWorld)
    (events : List ServiceEvent) (sigList : List SendResult) (confirmedTxCount : Nat)
    (next : Outcome Status SendTxReply) (later : List ServiceEvent) : Prop where
  items_eq : sigList.map SendResult.item = items
  count : confirmedTxCount = sigList.countP SendResult.inSystem
  count_le : confirmedTxCount ≤ items.length
  signed : ∀ sr ∈ sigList, sr.inSystem → sr.sig.isSome
  confirmed : ∀ entry sr, sigList[entry]? = some sr →
    (sr.inSystem = true ↔ ∃ sig, .check sig (.ok true) ∈ callsOf entry events)
  left : clockAt world events.length ≤ crates.maxProcessingAge →
    ((∃ signature, next = .ok (.response signature)) ↔ ∀ sr ∈ sigList, sr.inSystem)
  expired : crates.maxProcessingAge < clockAt world events.length →
    next = .ok (.response (genSigList sigList)) ∧ calls later = []
  progress : clockAt world events.length ≤ crates.maxProcessingAge →
    confirmedTxCount < items.length → Progress items next later

theorem atTest_of_running {crates : Crates} {batch : List (List UInt8)} {world : ServiceWorld}
    {passes : Nat} {sigList : List SendResult} {confirmedTxCount : Nat}
    (running : (sendTx crates passes batch).outcome world 0 =
      .ok (.running sigList confirmedTxCount)) :
    ∃ items later, Decoded crates batch items ∧
      (sendTx crates (passes + 1) batch).events world 0 =
        (sendTx crates passes batch).events world 0 ++ later ∧
      AtTest crates items world ((sendTx crates passes batch).events world 0) sigList
        confirmedTxCount ((sendTx crates (passes + 1) batch).outcome world 0) later := by
  have ends := ((sendTx_spec crates passes batch).sound world 0).2
  rw [running] at ends
  generalize soFar : (sendTx crates passes batch).events world 0 = events at ends ⊢
  rcases ends with ⟨impossible, _⟩ | ⟨items, decoded, ends⟩
  · cases impossible
  have standing : Standing (extended (fun _ => []) events) items sigList confirmedTxCount := ends
  have length := standing.length_eq
  have nextOutcome : (sendTx crates (passes + 1) batch).outcome world 0 =
      (sendLoop crates 1 sigList confirmedTxCount).outcome world events.length := by
    rw [sendTx_succ, Fallible.outcome_bind, running, soFar, Nat.zero_add]
    rfl
  have nextEvents : (sendTx crates (passes + 1) batch).events world 0 =
      events ++ (sendLoop crates 1 sigList confirmedTxCount).events world events.length := by
    rw [sendTx_succ, Fallible.events_bind_of_ok world 0 running, soFar, Nat.zero_add]
    rfl
  obtain ⟨outcomeOne, eventsOne⟩ :=
    sendLoop_one crates world events.length sigList confirmedTxCount
  refine ⟨items, _, decoded, nextEvents, ?_⟩
  constructor
  case items_eq => exact standing.items_eq
  case count => exact standing.count
  case count_le =>
    rw [← length]
    exact standing.count_le
  case signed =>
    intro sr isEntry inSystem
    obtain ⟨index, _, isIndex⟩ := List.mem_iff_getElem.mp isEntry
    have life := standing.life (List.getElem?_eq_some_iff.mpr ⟨_, isIndex⟩)
    rw [inSystem] at life
    exact life.sig_isSome
  case confirmed =>
    intro entry sr isEntry
    have flag := standing.inSystem_iff isEntry
    simpa [extended] using flag
  case left =>
    intro early
    rw [nextOutcome, outcomeOne]
    exact afterTest_response_iff standing early
  case expired =>
    intro late
    rw [nextOutcome, outcomeOne, eventsOne, afterTest, if_neg fun both => by omega]
    exact ⟨rfl, rfl⟩
  case progress =>
    intro early unfinished
    rw [nextOutcome, outcomeOne, eventsOne, afterTest, if_pos ⟨early, by omega⟩]
    exact ((onePass_checks standing (by omega)).sound world (events.length + 1)).2

/-- An end of `send_tx` comes right after a test of the `while` condition. -/
theorem ended_after_test {crates : Crates} {batch : List (List UInt8)} {world : ServiceWorld}
    {sigList : List SendResult}
    (starts : (sendTx crates 0 batch).outcome world 0 = .ok (.running sigList 0)) :
    ∀ passes, (∀ left count,
        (sendTx crates passes batch).outcome world 0 ≠ .ok (.running left count)) →
      ∃ test < passes, ∃ left count,
        (sendTx crates test batch).outcome world 0 = .ok (.running left count) ∧
        (sendTx crates (test + 1) batch).outcome world 0 =
          (sendTx crates passes batch).outcome world 0 ∧
        (sendTx crates (test + 1) batch).events world 0 =
          (sendTx crates passes batch).events world 0 := by
  intro passes
  induction passes with
  | zero => exact fun ended => absurd starts (ended sigList 0)
  | succ passes ih =>
      intro ended
      by_cases before : ∀ left count,
          (sendTx crates passes batch).outcome world 0 ≠ .ok (.running left count)
      · obtain ⟨test, earlier, left, count, running, sameOutcome, sameEvents⟩ := ih before
        obtain ⟨staysOutcome, staysEvents⟩ := sendTx_stays before
        exact ⟨test, by omega, left, count, running, sameOutcome.trans staysOutcome.symm,
          sameEvents.trans staysEvents.symm⟩
      · push Not at before
        obtain ⟨left, count, running⟩ := before
        exact ⟨passes, Nat.lt_succ_self _, left, count, running, rfl, rfl⟩

/-- The loop discipline of `send_tx` on a batch that decodes to these items: it comes to
a first test, its calls for each entry are in order and about that entry's own, every
test is as it should be, and it ends only after one. -/
structure LoopDiscipline (crates : Crates) (batch : List (List UInt8)) (world : ServiceWorld)
    (items : List Item) : Prop where
  starts : (sendTx crates 0 batch).outcome world 0 =
      .ok (.running (items.map Item.fresh) 0) ∧
    (sendTx crates 0 batch).events world 0 = []
  inRange : ∀ passes, ∀ call ∈ calls ((sendTx crates passes batch).events world 0),
    call.1 < items.length
  ordered : ∀ passes sofar, sofar <+: (sendTx crates passes batch).events world 0 →
    ∀ (entry : Nat) (item : Item), items[entry]? = some item →
      CallDiscipline item (callsOf entry sofar)
  never : ∀ passes,
    (sendTx crates passes batch).outcome world 0 ≠ .err (.internal "failed to get signature")
  tested : ∀ passes sigList confirmedTxCount,
    (sendTx crates passes batch).outcome world 0 = .ok (.running sigList confirmedTxCount) →
      ∃ later, (sendTx crates (passes + 1) batch).events world 0 =
          (sendTx crates passes batch).events world 0 ++ later ∧
        AtTest crates items world ((sendTx crates passes batch).events world 0) sigList
          confirmedTxCount ((sendTx crates (passes + 1) batch).outcome world 0) later
  ended : ∀ passes, (∀ left count,
      (sendTx crates passes batch).outcome world 0 ≠ .ok (.running left count)) →
    ∃ test < passes, ∃ left count,
      (sendTx crates test batch).outcome world 0 = .ok (.running left count) ∧
      (sendTx crates (test + 1) batch).outcome world 0 =
        (sendTx crates passes batch).outcome world 0 ∧
      (sendTx crates (test + 1) batch).events world 0 =
        (sendTx crates passes batch).events world 0

theorem loopDiscipline_of_decoded {crates : Crates} {batch : List (List UInt8)}
    {items : List Item} (isDecoded : Decoded crates batch items)
    (decoded : deserializeBatch crates batch = .ok (items.map Item.fresh))
    (world : ServiceWorld) : LoopDiscipline crates batch world items := by
  have starts : (sendTx crates 0 batch).outcome world 0 =
      .ok (.running (items.map Item.fresh) 0) ∧ (sendTx crates 0 batch).events world 0 = [] := by
    unfold sendTx
    rw [decoded]
    exact ⟨rfl, rfl⟩
  have others : ∀ {other : List Item}, Decoded crates batch other → other = items := by
    intro other isOther
    apply List.ext_getElem?
    intro entry
    ext item
    rw [isOther.getElem?_eq_some_iff, isDecoded.getElem?_eq_some_iff]
  constructor
  case starts => exact starts
  case inRange =>
    intro passes
    rw [isDecoded.length_eq]
    exact ((sendTx_spec crates passes batch).sound world 0).1
  case ordered =>
    intro passes sofar isPrefix entry item isItem
    refine CallDiscipline.of_isPrefix ?_ (callsOf_isPrefix isPrefix entry)
    rcases ((sendTx_spec crates passes batch).sound world 0).2 with
      ⟨_, nothing⟩ | ⟨other, isOther, ends⟩
    · rw [nothing]
      exact Life.fresh.discipline
    · exact ends.discipline (others isOther ▸ isItem)
  case never =>
    intro passes returned
    have ends := ((sendTx_spec crates passes batch).sound world 0).2
    rw [returned] at ends
    rcases ends with ⟨different, _⟩ | ⟨_, _, failed⟩
    · exact absurd different (by decide)
    · obtain ⟨broken, item, -, cut⟩ := Failed.cut failed
      exact cut.error_ne.2 rfl
  case tested =>
    intro passes sigList confirmedTxCount running
    obtain ⟨other, later, isOther, extends_, atTest⟩ := atTest_of_running running
    exact ⟨later, extends_, others isOther ▸ atTest⟩
  case ended => exact ended_after_test starts.1

end LoopDiscipline

/-- The loop discipline of `send_tx`, for every batch and every sequence of
outcomes and clock readings. -/
theorem sendTx_loopDiscipline (crates : Crates) (batch : List (List UInt8))
    (world : ServiceWorld) :
    ((∃ wire ∈ batch, ∃ error, crates.deserialize wire = .error error) → ∀ passes,
      (sendTx crates passes batch).outcome world 0 = .err (.internal "failed to deserialize") ∧
      (sendTx crates passes batch).events world 0 = []) ∧
    ((∀ wire ∈ batch, ∃ tx, crates.deserialize wire = .ok tx) →
      ∃ items, Decoded crates batch items ∧ LoopDiscipline crates batch world items) := by
  constructor
  · intro bad passes
    unfold sendTx
    rw [deserializeBatch_fails bad]
    exact ⟨rfl, rfl⟩
  · intro good
    obtain ⟨items, isDecoded, decoded⟩ := deserializeBatch_ok good
    exact ⟨items, isDecoded, loopDiscipline_of_decoded isDecoded decoded world⟩

section Instances

/-- The node accepts every transaction under its own signature and answers every
check with `checked`. -/
def acceptingCluster (transmits checked : Bool) (elapsed : Nat) : Replies where
  rpc
    | .sendTransactionWithConfig _ tx _ => .ok (tx.firstSignature.getD Reference.signature)
    | .confirmTransactionWithCommitment _ _ _ => .ok checked
    | _ => .error ⟨"unavailable"⟩
  transmits := transmits
  elapsed := elapsed
  keypair := Reference.keypair
  random := 0
  signature := Reference.signature

/-- The transaction of `Reference.signedWire`. -/
def signedTx : Transaction :=
  Reference.signedTransaction Reference.signature Reference.keypair.pubkey Reference.zeroHash

theorem deserialize_signedWire :
    referenceCrates.deserialize Reference.signedWire = .ok signedTx := by decide +kernel

/-- The second test of a batch of one that was sent and is not confirmed yet. -/
theorem sendTx_loopDiscipline_unconfirmed :
    let world : ServiceWorld := fun _ => (acceptingCluster true false 0).answer
    let run := fun passes => sendTx referenceCrates passes [Reference.signedWire]
    let sigList : List SendResult :=
      [⟨false, some Reference.signature, signedTx, Reference.signedWire⟩]
    (run 1).outcome world 0 = .ok (.running sigList 0) ∧
      ∃ items later, AtTest referenceCrates items world ((run 1).events world 0) sigList 0
        ((run 2).outcome world 0) later := by
  intro world run sigList
  obtain ⟨items, -, discipline⟩ :=
    (sendTx_loopDiscipline referenceCrates [Reference.signedWire] world).2
      (List.forall_mem_singleton.mpr ⟨signedTx, deserialize_signedWire⟩)
  have running : (run 1).outcome world 0 = .ok (.running sigList 0) := by decide +kernel
  obtain ⟨later, -, atTest⟩ := discipline.tested 1 sigList 0 running
  exact ⟨running, items, later, atTest⟩

/-- A node that accepts a transaction without signatures: the first pass starts, and
neither checks a confirmation nor returns an error. -/
theorem sendTx_pass_panics :
    let world : ServiceWorld := fun _ => (acceptingCluster true true 0).answer
    let run := fun passes => sendTx referenceCrates passes [Reference.emptyWire]
    (∃ sigList, (run 0).outcome world 0 = .ok (.running sigList 0)) ∧
      clockAt world 0 ≤ referenceCrates.maxProcessingAge ∧
      (run 1).outcome world 0 = .panic "index out of bounds: the len is 0 but the index is 0" ∧
      ∀ index sig answer, (index, .check sig answer) ∉ calls ((run 1).events world 0) := by
  refine ⟨⟨_, rfl⟩, by decide, rfl, fun index sig answer => ?_⟩
  change _ ∉ [(0, EntryCall.send (Reference.emptyTransaction Reference.zeroHash)
    (.panic "index out of bounds: the len is 0 but the index is 0"))]
  simp

end Instances

end RustHelper.Broadcast
