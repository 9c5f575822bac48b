import RustHelper.BroadcastReports

/-!
# The response of `send_tx` lines up with the request

Each entry keeps its transaction, and its signature is the node's answer to the
one submission of that transaction.  A pass visits every entry, so a response
after a started pass has no gaps.
-/

namespace RustHelper.Broadcast

open Effect

/-- A transaction handed to the RPC node, with the answer. -/
abbrev Submission := Transaction × Except ForeignError Signature

/-- The submission that an event makes for an entry. -/
def submission (entry : Nat) : ServiceEvent → Option Submission
  | ⟨ServiceOp.rpc (.sendTransactionWithConfig (some index) tx _), answer⟩ =>
      if index = entry then some (tx, answer) else none
  | _ => none

def submissions (entry : Nat) (events : List ServiceEvent) : List Submission :=
  events.filterMap (submission entry)

section Submissions

@[simp] theorem submissions_nil (entry : Nat) : submissions entry [] = [] := rfl

@[simp] theorem submissions_append (entry : Nat) (first second : List ServiceEvent) :
    submissions entry (first ++ second) =
      submissions entry first ++ submissions entry second := List.filterMap_append

/-- Taking and giving back a guard submits nothing. -/
@[simp] theorem submissions_guarded (entry : Nat) (mutex : ServiceMutex)
    (events : List ServiceEvent) (taken : service.Answer (service.lock mutex))
    (given : service.Answer (service.unlock mutex)) :
    submissions entry (⟨service.lock mutex, taken⟩ :: (events ++ [⟨service.unlock mutex, given⟩])) =
      submissions entry events := filterMap_guarded rfl rfl events

end Submissions

/-- What was submitted for an entry: nothing before it has a signature, and then
its own transaction, once, with this signature as the answer. -/
def Recorded (made : List Submission) (sr : SendResult) : Prop :=
  made = sr.sig.toList.map fun sig => (sr.tx, .ok sig)

/-- Every entry, counted from `entry` on, is recorded. -/
def AllRecorded (made : Nat → List Submission) (entry : Nat) (sigList : List SendResult) : Prop :=
  ∀ numbered ∈ sigList.zipIdx entry, Recorded (made numbered.2) numbered.1

section Visit

variable {made : List Submission} {sr : SendResult} {entry : Nat}

/-- The submission of an entry without a signature, and the answer if it is returned. -/
theorem sending_submits (entry : Nat) (tx : Transaction) :
    (sendTransactionWithConfig (some entry) tx sendConfig :
        Svc Status (Except ForeignError Signature)).Returns fun result trace =>
      (∀ sig, result = .ok sig → submissions entry trace = [(tx, .ok sig)]) ∧
        ∀ other, other ≠ entry → submissions other trace = [] := by
  apply (sendTransactionWithConfig_spec (some entry) sendConfig).mono
  rintro _ _ ⟨reply, rfl, rfl⟩ result returned
  constructor
  · rintro sig rfl
    have answered := (sentSignature_eq_ok_iff.mp (Outcome.kept_eq_ok_ok_iff.mp returned)).2
    simp [submissions, submission, answered]
  · intro other different
    simp [submissions, submission, Ne.symm different]

theorem ensureSent_recorded (recorded : Recorded made sr) :
    (ensureSent entry sr).Returns fun sent trace =>
      sent.tx = sr.tx ∧ sent.sig.isSome ∧ Recorded (made ++ submissions entry trace) sent ∧
        ∀ other, other ≠ entry → submissions other trace = [] := by
  obtain ⟨inSystem, sig, tx, serializedTx⟩ := sr
  cases sig with
  | some sig =>
      apply Fallible.Returns.pure
      rw [submissions_nil, List.append_nil]
      exact ⟨rfl, rfl, recorded, fun _ _ => rfl⟩
  | none =>
      cases recorded
      apply Fallible.Returns.withGuard
      apply Fallible.Returns.bind (sending_submits entry tx)
      rintro (error | sig) trace ⟨own, others⟩
      · exact Fallible.Returns.throw _
      · apply Fallible.Returns.pure
        intro taken given
        simp only [submissions_guarded, List.append_nil]
        refine ⟨rfl, rfl, ?_, others⟩
        rw [own sig rfl]
        rfl

/-- The second half of a visit submits nothing, and changes neither the
transaction nor the signature. -/
theorem ensureConfirmed_quiet (confirmedTxCount : Nat) :
    (ensureConfirmed entry sr confirmedTxCount).Returns fun confirmed trace =>
      confirmed.1.tx = sr.tx ∧ confirmed.1.sig = sr.sig ∧
        ∀ other, submissions other trace = [] := by
  obtain ⟨inSystem, sig, tx, serializedTx⟩ := sr
  cases inSystem with
  | true => exact Fallible.Returns.pure ⟨rfl, rfl, fun _ => rfl⟩
  | false =>
      apply Fallible.Returns.withGuard
      rintro (_ | _)
      · exact nofun
      cases sig with
      | none => exact fun _ _ _ _ => nofun
      | some sig =>
          -- the answer of the check decides how the entry is left
          rintro _ _ (error | _ | _) _ _ ⟨⟩ _ _
          · exact ⟨rfl, rfl, fun _ => rfl⟩
          · exact ⟨rfl, rfl, fun _ => rfl⟩

theorem visit_recorded (confirmedTxCount : Nat) (recorded : Recorded made sr) :
    (visit entry sr confirmedTxCount).Returns fun visited trace =>
      visited.1.tx = sr.tx ∧ visited.1.sig.isSome ∧
        Recorded (made ++ submissions entry trace) visited.1 ∧
        ∀ other, other ≠ entry → submissions other trace = [] := by
  apply Fallible.Returns.bind (ensureSent_recorded recorded)
  rintro sent first ⟨sameTx, signed, record, others⟩
  apply (ensureConfirmed_quiet confirmedTxCount).mono
  rintro confirmed second ⟨keepsTx, keepsSig, quiet⟩
  have own : Recorded (made ++ submissions entry (first ++ second)) confirmed.1 := by
    rw [submissions_append, quiet, List.append_nil]
    unfold Recorded at record ⊢
    rwa [keepsSig, keepsTx]
  refine ⟨keepsTx.trans sameTx, by rwa [keepsSig], own, fun other different => ?_⟩
  rw [submissions_append, others other different, quiet, List.append_nil]

end Visit

/-- A pass over the entries from `entry` on: all are signed, and recorded with
the transactions they had. -/
structure PassRecorded (made : Nat → List Submission) (entry : Nat) (before : List SendResult)
    (trace : List ServiceEvent) (after : List SendResult) : Prop where
  transactions : after.map SendResult.tx = before.map SendResult.tx
  signed : ∀ sr ∈ after, sr.sig.isSome
  recorded : AllRecorded (fun index => made index ++ submissions index trace) entry after
  earlier : ∀ index < entry, submissions index trace = []

section Loops

variable {made : Nat → List Submission} {sigList : List SendResult}

theorem allRecorded_cons {entry : Nat} {sr : SendResult} :
    AllRecorded made entry (sr :: sigList) ↔
      Recorded (made entry) sr ∧ AllRecorded made (entry + 1) sigList := by
  rw [AllRecorded, List.zipIdx_cons, List.forall_mem_cons]
  rfl

/-- Only what was submitted for the entries of the list matters. -/
theorem AllRecorded.congr {other : Nat → List Submission} {entry : Nat}
    (recorded : AllRecorded made entry sigList)
    (same : ∀ index, entry ≤ index → made index = other index) :
    AllRecorded other entry sigList := by
  rintro ⟨sr, index⟩ isEntry
  have isLater : entry ≤ index := List.le_snd_of_mem_zipIdx isEntry
  rw [← same index isLater]
  exact recorded (sr, index) isEntry

theorem sendPass_recorded {entry : Nat} (confirmedTxCount : Nat)
    (recorded : AllRecorded made entry sigList) :
    (sendPass entry sigList confirmedTxCount).Returns fun after trace =>
      PassRecorded made entry sigList trace after.1 := by
  induction sigList generalizing made entry confirmedTxCount with
  | nil =>
      apply Fallible.Returns.pure
      exact ⟨rfl, by simp, by simp [AllRecorded], fun _ _ => rfl⟩
  | cons sr sigList ih =>
      obtain ⟨own, later⟩ := allRecorded_cons.mp recorded
      apply Fallible.Returns.bind (visit_recorded confirmedTxCount own)
      rintro ⟨visited, confirmed⟩ first ⟨sameTx, signed, record, others⟩
      apply Fallible.Returns.bind (ih confirmed later)
      rintro ⟨rest, final⟩ second passed
      apply Fallible.Returns.pure
      rw [List.append_nil]
      constructor
      case transactions =>
        rw [List.map_cons, List.map_cons, sameTx, passed.transactions]
      case signed => exact List.forall_mem_cons.mpr ⟨signed, passed.signed⟩
      case recorded =>
        apply allRecorded_cons.mpr
        constructor
        · rw [submissions_append, passed.earlier entry (Nat.lt_succ_self entry), List.append_nil]
          exact record
        · apply passed.recorded.congr
          intro index isLater
          rw [submissions_append, others index (by omega), List.nil_append]
      case earlier =>
        intro index isEarlier
        rw [submissions_append, others index (by omega), passed.earlier index (by omega)]
        rfl

/-- The `while` condition held at its first test, so a pass was run. -/
def PassRan (waitTime confirmedTxCount length : Nat) (trace : List ServiceEvent) : Prop :=
  ∃ elapsed, (clockReadings trace).head? = some elapsed ∧ elapsed ≤ waitTime ∧
    confirmedTxCount < length

/-- The entries that a response is made of: they have the transactions of the
batch, are recorded, and are signed as soon as a pass was run. -/
structure ResponseRecorded (waitTime : Nat) (made : Nat → List Submission)
    (sigList : List SendResult) (confirmedTxCount : Nat) (trace : List ServiceEvent)
    (final : List SendResult) : Prop where
  transactions : final.map SendResult.tx = sigList.map SendResult.tx
  recorded : AllRecorded (fun index => made index ++ submissions index trace) 0 final
  stays : (∀ sr ∈ sigList, sr.sig.isSome) → ∀ sr ∈ final, sr.sig.isSome
  signed : PassRan waitTime confirmedTxCount sigList.length trace → ∀ sr ∈ final, sr.sig.isSome
  untouched : ¬ PassRan waitTime confirmedTxCount sigList.length trace → final = sigList

theorem sendLoop_recorded (crates : Crates) (passes confirmedTxCount : Nat)
    (recorded : AllRecorded made 0 sigList) :
    (sendLoop crates passes sigList confirmedTxCount).Returns fun reply trace =>
      ∀ signature, reply = .response signature → ∃ final, signature = genSigList final ∧
        ResponseRecorded crates.maxProcessingAge made sigList confirmedTxCount trace final := by
  induction passes generalizing made sigList confirmedTxCount with
  | zero => exact Fallible.Returns.pure nofun
  | succ passes ih =>
      have reading : (elapsedSecs : Svc Status Nat).Returns fun elapsed trace =>
          trace = [⟨ServiceOp.elapsedSecs, elapsed⟩] := Fallible.Returns.perform fun _ => rfl
      apply Fallible.Returns.bind reading
      rintro elapsed _ rfl
      have quiet : ∀ index, submissions index [⟨ServiceOp.elapsedSecs, elapsed⟩] = [] :=
        fun _ => rfl
      have ran : ∀ rest, PassRan crates.maxProcessingAge confirmedTxCount sigList.length
          ([⟨ServiceOp.elapsedSecs, elapsed⟩] ++ rest) ↔
            elapsed ≤ crates.maxProcessingAge ∧ confirmedTxCount < sigList.length := by
        intro rest
        exact ⟨fun ⟨_, isFirst, enters⟩ => Option.some.inj isFirst ▸ enters,
          fun enters => ⟨elapsed, rfl, enters⟩⟩
      split_ifs with enters
      · -- a pass signs all entries, and the rest of the loop keeps that
        apply Fallible.Returns.bind (sendPass_recorded confirmedTxCount recorded)
        rintro ⟨after, confirmed⟩ pass passed
        apply (ih confirmed passed.recorded).mono
        intro reply rest holds signature responds
        obtain ⟨final, rendered, response⟩ := holds signature responds
        have allSigned := response.stays passed.signed
        use final, rendered
        constructor
        case transactions => rw [response.transactions, passed.transactions]
        case recorded =>
          apply response.recorded.congr
          intro index _
          rw [submissions_append, submissions_append, quiet index, List.nil_append,
            List.append_assoc]
        case stays => exact fun _ => allSigned
        case signed => exact fun _ => allSigned
        case untouched => exact fun stopped => absurd ((ran _).mpr enters) stopped
      · -- the loop is left at this test
        apply Fallible.Returns.pure
        rintro signature ⟨⟩
        use sigList, rfl
        constructor
        case transactions => rfl
        case recorded =>
          apply recorded.congr
          intro index _
          rw [List.append_nil, quiet index, List.append_nil]
        case stays => exact id
        case signed => exact fun started => absurd ((ran _).mp started) enters
        case untouched => exact fun _ => rfl

end Loops

section Decoding

variable {crates : Crates} {batch : List (List UInt8)} {sigList : List SendResult}

/-- Each entry starts with the transaction that its bytes decode to. -/
theorem deserializeBatch_entries (decoded : deserializeBatch crates batch = .ok sigList) :
    batch.map crates.deserialize = sigList.map (fun sr => .ok sr.tx) ∧
      ∀ sr ∈ sigList, sr.sig = none := by
  induction batch generalizing sigList with
  | nil =>
      cases decoded
      exact ⟨rfl, nofun⟩
  | cons wire batch ih =>
      unfold deserializeBatch at decoded
      cases isTx : crates.deserialize wire with
      | error error =>
          rw [isTx] at decoded
          cases decoded
      | ok tx =>
          rw [isTx] at decoded
          obtain ⟨rest, later, same⟩ := Outcome.bind_eq_ok_iff.mp decoded
          cases same
          obtain ⟨transactions, unsigned⟩ := ih later
          constructor
          · rw [List.map_cons, List.map_cons, isTx, transactions]
            rfl
          · exact List.forall_mem_cons.mpr ⟨rfl, unsigned⟩

theorem allRecorded_of_unsigned (unsigned : ∀ sr ∈ sigList, sr.sig = none) :
    AllRecorded (fun _ => []) 0 sigList := by
  rintro ⟨sr, index⟩ isEntry
  have none : sr.sig = none := unsigned sr (List.fst_mem_of_mem_zipIdx isEntry)
  rw [Recorded, none]
  rfl

theorem genSigList_of_unsigned (unsigned : ∀ sr ∈ sigList, sr.sig = none) :
    ∀ bytes ∈ genSigList sigList, bytes = [] := by
  intro bytes isElement
  obtain ⟨sr, isEntry, rfl⟩ := List.mem_map.mp isElement
  rw [unsigned sr isEntry]

end Decoding

/-- The entries that the response of a whole call is made of. -/
theorem sendTx_recorded (crates : Crates) (passes : Nat) (batch : List (List UInt8)) :
    (sendTx crates passes batch).Returns fun reply trace =>
      ∀ signature, reply = .response signature → ∃ sigList final,
        batch.map crates.deserialize = sigList.map (fun sr => .ok sr.tx) ∧
        (∀ sr ∈ sigList, sr.sig = none) ∧
        signature = genSigList final ∧
        ResponseRecorded crates.maxProcessingAge (fun _ => []) sigList 0 trace final := by
  have decoding : (Fallible.lift (deserializeBatch crates batch) :
      Svc Status (List SendResult)).Returns fun sigList trace =>
        deserializeBatch crates batch = .ok sigList ∧ trace = [] :=
    Fallible.Returns.lift fun _ decoded => ⟨decoded, rfl⟩
  apply Fallible.Returns.bind decoding
  rintro sigList _ ⟨decoded, rfl⟩
  obtain ⟨transactions, unsigned⟩ := deserializeBatch_entries decoded
  apply (sendLoop_recorded crates passes 0 (allRecorded_of_unsigned unsigned)).mono
  intro reply trace holds signature responds
  obtain ⟨final, rendered, response⟩ := holds signature responds
  exact ⟨sigList, final, transactions, unsigned, rendered, response⟩

/-- When `send_tx` responds, the response has one element for each transaction.
If a pass ran, that of entry `i` is the signature that the node returned for
transaction `i`, which was submitted once; otherwise all are empty. -/
theorem sendTx_response_aligned (crates : Crates) (batch : List (List UInt8))
    (world : ServiceWorld) (passes : Nat) (signature : List (List UInt8))
    (responds : (sendTx crates passes batch).outcome world 0 = .ok (.response signature)) :
    let events := (sendTx crates passes batch).events world 0
    signature.length = batch.length ∧
    (PassRan crates.maxProcessingAge 0 batch.length events →
      ∀ entry (inRange : entry < batch.length), ∃ tx sig,
        crates.deserialize batch[entry] = .ok tx ∧
        submissions entry events = [(tx, .ok sig)] ∧
        signature[entry]? = some sig.bytes ∧ sig.bytes.length = 64) ∧
    (¬ PassRan crates.maxProcessingAge 0 batch.length events →
      ∀ bytes ∈ signature, bytes = []) := by
  intro events
  obtain ⟨sigList, final, decoded, unsigned, rfl, response⟩ :=
    (sendTx_recorded crates passes batch).sound responds signature rfl
  change ResponseRecorded crates.maxProcessingAge _ sigList 0 events final at response
  have startLength : batch.length = sigList.length := by
    simpa using congrArg List.length decoded
  have finalLength : final.length = sigList.length := by
    simpa using congrArg List.length response.transactions
  refine ⟨?_, fun ran entry inRange => ?_, fun stopped => ?_⟩
  · rw [genSigList, List.length_map, finalLength, startLength]
  · rw [startLength] at ran
    have inFinal : entry < final.length := by omega
    obtain ⟨sig, isSig⟩ :=
      Option.isSome_iff_exists.mp (response.signed ran final[entry] (List.getElem_mem inFinal))
    have isEntry : final[entry]? = some final[entry] := List.getElem?_eq_getElem inFinal
    have recorded : Recorded ([] ++ submissions entry events) final[entry] :=
      response.recorded (final[entry], entry) (List.mk_mem_zipIdx_iff_getElem?.mpr isEntry)
    refine ⟨final[entry].tx, sig, ?_, ?_, ?_, sig.length_eq⟩
    · have same : batch.map crates.deserialize = (final.map SendResult.tx).map .ok := by
        rw [decoded, response.transactions, List.map_map]
        rfl
      simpa [inRange, inFinal] using congrArg (·[entry]?) same
    · rw [Recorded, List.nil_append, isSig] at recorded
      exact recorded
    · rw [genSigList_getElem?, isEntry, Option.map_some, isSig]
      rfl
  · rw [startLength] at stopped
    rw [response.untouched stopped]
    exact genSigList_of_unsigned unsigned

/-- The same transaction twice: each entry is submitted and has its element. -/
theorem sendTx_response_aligned_twice :
    let run := sendTx referenceCrates 2 [Reference.signedWire, Reference.signedWire]
    let world : ServiceWorld := fun _ => (acceptingCluster true true 0).answer
    ∀ entry, entry < 2 → ∃ tx sig, submissions entry (run.events world 0) = [(tx, .ok sig)] := by
  intro run world entry inRange
  obtain ⟨_, aligned, _⟩ := sendTx_response_aligned referenceCrates
    [Reference.signedWire, Reference.signedWire] world 2
    [Reference.signature.bytes, Reference.signature.bytes] (by decide +kernel)
  have started : PassRan referenceCrates.maxProcessingAge 0 2 (run.events world 0) :=
    ⟨0, by decide +kernel, by decide, by decide⟩
  obtain ⟨tx, sig, _, submitted, _⟩ := aligned started entry inRange
  exact ⟨tx, sig, submitted⟩

end RustHelper.Broadcast
