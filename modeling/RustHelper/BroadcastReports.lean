import RustHelper.BroadcastGuarantees

/-!
# What `send_tx` reports

An error or a response of `send_tx`, in every world, against what was accepted and
confirmed in the run: the histories of the entries say which signature each has, and
whether a check has confirmed it.
-/

namespace RustHelper.Broadcast

open Effect

theorem genSigList_getElem? (sigList : List SendResult) (entry : Nat) :
    (genSigList sigList)[entry]? =
      sigList[entry]?.map fun sr => sr.sig.elim [] fun sig => sig.bytes := by
  rw [genSigList, List.getElem?_map]
  congr 1
  funext sr
  cases sr.sig <;> rfl

section Rendering

variable {history : Nat → List EntryCall} {items : List Item} {sigList : List SendResult}
  {confirmedTxCount entry : Nat}

theorem Standing.rendered (standing : Standing history items sigList confirmedTxCount)
    (inRange : entry < items.length) {tx : Transaction} {sig : Signature}
    (accepted : .send tx (.ok sig) ∈ history entry) :
    (genSigList sigList)[entry]? = some sig.bytes := by
  rw [← standing.length_eq] at inRange
  have isEntry := List.getElem?_eq_getElem inRange
  have life := standing.life isEntry
  rw [genSigList_getElem?, isEntry, Option.map_some]
  generalize sigList[entry].sig = stored, sigList[entry].inSystem = inSystem at life ⊢
  cases stored with
  | none =>
      rw [life.eq_nil_of_unsent] at accepted
      cases accepted
  | some stored =>
      cases ((life.send_mem_iff _ _).mp accepted).2
      rfl

/-- A signature that is reported is the entry's own, which was sent. -/
theorem Standing.accepted_of_rendered (standing : Standing history items sigList confirmedTxCount)
    {bytes : List UInt8} (isElement : (genSigList sigList)[entry]? = some bytes)
    (nonempty : bytes ≠ []) :
    ∃ item sig, items[entry]? = some item ∧ bytes = sig.bytes ∧
      item.tx.firstSignature = some sig ∧ .send item.tx (.ok sig) ∈ history entry := by
  rw [genSigList_getElem?] at isElement
  obtain ⟨sr, isEntry, rendered⟩ := Option.map_eq_some_iff.mp isElement
  have life := standing.life isEntry
  have isItem : items[entry]? = some sr.item := by
    rw [← standing.items_eq, List.getElem?_map, isEntry, Option.map_some]
  generalize sr.sig = stored, sr.inSystem = inSystem at life rendered
  cases stored with
  | none => exact absurd rendered.symm nonempty
  | some sig =>
      exact ⟨sr.item, sig, isItem, rendered.symm, life.firstSignature, life.accepted⟩

/-- An entry in the system has been confirmed under the signature that it has. -/
theorem Life.confirmed_of_inSystem {item : Item} {made : List EntryCall}
    {stored : Option Signature} (life : Life item made stored true) :
    ∃ sig, stored = some sig ∧ .check sig (.ok true) ∈ made := by
  cases life with
  | confirmed pending => exact ⟨_, rfl, by simp⟩

/-- An entry in the system is reported with the signature that a check confirmed. -/
theorem Standing.confirmed_of_rendered
    (standing : Standing history items sigList confirmedTxCount) {bytes : List UInt8}
    (isElement : (genSigList sigList)[entry]? = some bytes)
    (all : ∀ sr ∈ sigList, sr.inSystem = true) :
    ∃ sig, bytes = sig.bytes ∧ .check sig (.ok true) ∈ history entry := by
  rw [genSigList_getElem?] at isElement
  obtain ⟨sr, isEntry, rendered⟩ := Option.map_eq_some_iff.mp isElement
  have life := standing.life isEntry
  rw [all sr (List.mem_of_getElem? isEntry)] at life
  obtain ⟨sig, stored, confirmed⟩ := life.confirmed_of_inSystem
  rw [stored] at rendered
  exact ⟨sig, rendered.symm, confirmed⟩

end Rendering

/-- Only the first entry has calls if the others have none. -/
theorem calls_eq_of_untouched {events : List ServiceEvent} {entries : Nat}
    (inRange : ∀ call ∈ calls events, call.1 < entries)
    (untouched : ∀ entry < entries, entry ≠ 0 → callsOf entry events = []) :
    calls events = (callsOf 0 events).map (0, ·) := by
  apply calls_eq_map_callsOf
  rintro ⟨entry, call⟩ isCall
  by_contra different
  have member := mem_callsOf.mpr isCall
  rw [untouched entry (inRange _ isCall) different] at member
  cases member

/-- When `send_tx` returns an error, some transaction has been accepted unless
the batch failed to decode or the only call was a refused send of the first
entry; when it responds, every accepted transaction has its signature there. -/
theorem sendTx_error_and_accepted (crates : Crates) (batch : List (List UInt8))
    (world : ServiceWorld) (passes : Nat) :
    (∀ error, (sendTx crates passes batch).outcome world 0 = .err error →
      ((∃ entry tx sig,
          (entry, .send tx (.ok sig)) ∈ calls ((sendTx crates passes batch).events world 0)) ↔
        ¬ (error = .internal "failed to deserialize" ∨ ∃ tx refusal,
          calls ((sendTx crates passes batch).events world 0) =
            [(0, .send tx (.err refusal))]))) ∧
    ∀ signature, (sendTx crates passes batch).outcome world 0 = .ok (.response signature) →
      ∀ entry tx sig,
        (entry, .send tx (.ok sig)) ∈ calls ((sendTx crates passes batch).events world 0) →
          signature[entry]? = some sig.bytes := by
  obtain ⟨inRange, ends⟩ := (sendTx_spec crates passes batch).sound world 0
  generalize (sendTx crates passes batch).outcome world 0 = outcome at ends ⊢
  generalize (sendTx crates passes batch).events world 0 = events at inRange ends ⊢
  constructor
  · rintro error rfl
    rcases ends with ⟨same, rfl⟩ | ⟨items, decoded, failed⟩
    · cases same
      simp
    · constructor
      · rintro ⟨entry, tx, sig, accepted⟩ (undecoded | ⟨first, refusal, only⟩)
        · obtain ⟨broken, item, -, cut⟩ := Failed.cut failed
          exact cut.error_ne.1 undecoded
        · rw [only] at accepted
          simp at accepted
      · intro neither
        rcases Failed.accepted failed with
          ⟨entry, tx, sig, accepted⟩ | ⟨⟨tx, result, first, -, refused⟩, others⟩
        · exact ⟨entry, tx, sig, mem_callsOf.mp (by simpa [extended] using accepted)⟩
        · obtain ⟨refusal, rfl⟩ := refused error rfl
          refine absurd (.inr ⟨tx, refusal, ?_⟩) neither
          simp only [extended, List.nil_append] at first others
          rw [← decoded.length_eq] at inRange
          rw [calls_eq_of_untouched inRange others]
          rw [first]
          rfl
  · rintro signature rfl entry tx sig accepted
    rcases ends with ⟨impossible, _⟩ | ⟨items, decoded, sigList, _, _, standing, rfl, _⟩
    · cases impossible
    · apply standing.rendered
      · rw [decoded.length_eq]
        exact inRange _ accepted
      · rw [extended, List.nil_append]
        exact mem_callsOf.mpr accepted

/-- The node accepts the transaction, the TPU does not take it: the error
carries no signature. -/
theorem sendTx_hides_accepted :
    let world : ServiceWorld := fun _ => (acceptingCluster false false 0).answer
    let run := sendTx referenceCrates 1 [Reference.signedWire]
    run.outcome world 0 = .err (.internal "failed to transmit") ∧
      signedTx.firstSignature = some Reference.signature ∧
      (0, .send signedTx (.ok Reference.signature)) ∈ calls (run.events world 0) := by
  exact ⟨by decide +kernel, rfl, by decide +kernel⟩

/-- When `send_tx` responds, every entry has been confirmed under the signature that is
reported for it unless the last test was after the deadline; and every non-empty
signature is the entry's own, with which the node accepted it. -/
theorem sendTx_response_confirmed (crates : Crates) (batch : List (List UInt8))
    (world : ServiceWorld) (passes : Nat) (signature : List (List UInt8))
    (responds : (sendTx crates passes batch).outcome world 0 = .ok (.response signature)) :
    ∃ elapsed,
      (clockReadings ((sendTx crates passes batch).events world 0)).getLast? = some elapsed ∧
      ∀ entry bytes, signature[entry]? = some bytes →
        (elapsed ≤ crates.maxProcessingAge → ∃ sig, bytes = sig.bytes ∧
          (entry, .check sig (.ok true)) ∈
            calls ((sendTx crates passes batch).events world 0)) ∧
        (bytes ≠ [] → ∃ wire tx sig, batch[entry]? = some wire ∧
          crates.deserialize wire = .ok tx ∧ tx.firstSignature = some sig ∧ bytes = sig.bytes ∧
          (entry, .send tx (.ok sig)) ∈ calls ((sendTx crates passes batch).events world 0)) := by
  obtain ⟨inRange, ends⟩ := (sendTx_spec crates passes batch).sound world 0
  rw [responds] at ends
  generalize (sendTx crates passes batch).events world 0 = events at inRange ends ⊢
  rcases ends with
    ⟨impossible, _⟩ | ⟨items, decoded, sigList, confirmed, elapsed, standing, rfl, last, exits⟩
  · cases impossible
  refine ⟨elapsed, last, fun entry bytes isElement => ⟨fun early => ?_, fun nonempty => ?_⟩⟩
  · have all : ∀ sr ∈ sigList, sr.inSystem = true := by
      intro sr isEntry
      by_contra notInSystem
      exact exits ⟨early, standing.count_lt_iff.mpr ⟨sr, isEntry, by simpa using notInSystem⟩⟩
    obtain ⟨sig, rendered, isCheck⟩ := standing.confirmed_of_rendered isElement all
    rw [extended, List.nil_append] at isCheck
    exact ⟨sig, rendered, mem_callsOf.mp isCheck⟩
  · obtain ⟨item, sig, isItem, rendered, isOwn, accepted⟩ :=
      standing.accepted_of_rendered isElement nonempty
    obtain ⟨isWire, isTx⟩ := decoded.getElem?_eq_some_iff.mp isItem
    rw [extended, List.nil_append] at accepted
    exact ⟨item.wire, item.tx, sig, isWire, isTx, isOwn, rendered, mem_callsOf.mp accepted⟩

/-- A batch of one that is confirmed in the first pass. -/
theorem sendTx_response_confirmed_once :
    let run := sendTx referenceCrates 2 [Reference.signedWire]
    let world : ServiceWorld := fun _ => (acceptingCluster true true 0).answer
    ∃ sig, Reference.signature.bytes = sig.bytes ∧
      (0, .check sig (.ok true)) ∈ calls (run.events world 0) := by
  intro run world
  obtain ⟨elapsed, last, reported⟩ := sendTx_response_confirmed referenceCrates
    [Reference.signedWire] world 2 [Reference.signature.bytes] (by decide +kernel)
  have zero : (clockReadings (run.events world 0)).getLast? = some 0 := by decide +kernel
  have start : elapsed = 0 := Option.some.inj (last.symm.trans zero)
  exact (reported 0 Reference.signature.bytes rfl).1 (by rw [start]; decide)

/-- A clock that reads 0 first and 151 afterwards, and a node that accepts but
does not confirm. -/
def expiringWorld : ServiceWorld := fun clock =>
  (acceptingCluster true false (if clock = 0 then 0 else 151)).answer

/-- The deadline passes after one pass: the response reports a signature that no
check has confirmed. -/
theorem sendTx_reports_unconfirmed :
    let run := sendTx referenceCrates 2 [Reference.signedWire]
    run.outcome expiringWorld 0 = .ok (.response [Reference.signature.bytes]) ∧
      Reference.signature.bytes ≠ [] ∧
      ∀ entry sig, (entry, .check sig (.ok true)) ∉ calls (run.events expiringWorld 0) := by
  intro run
  have made : calls (run.events expiringWorld 0) =
      [(0, .send signedTx (.ok Reference.signature)),
        (0, .transmit Reference.signedWire true), (0, .check Reference.signature (.ok false))] := by
    decide +kernel
  refine ⟨by decide +kernel, by decide, fun entry sig => ?_⟩
  rw [made]
  simp

end RustHelper.Broadcast
