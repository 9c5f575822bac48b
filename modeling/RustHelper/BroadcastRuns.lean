import RustHelper.BroadcastHistories

/-!
# Runs of `send_tx`

One visit extends the history of its entry, one pass extends the histories of
all entries, and the loop keeps the counter, the flags and the signatures in
step with the histories.
-/

namespace RustHelper.Broadcast

open Effect

/-- The histories after more events. -/
def extended (history : Nat → List EntryCall) (trace : List ServiceEvent) :
    Nat → List EntryCall :=
  fun entry => history entry ++ callsOf entry trace

@[simp] theorem extended_nil (history : Nat → List EntryCall) : extended history [] = history := by
  funext entry
  simp [extended]

@[simp] theorem extended_append (history : Nat → List EntryCall)
    (first second : List ServiceEvent) :
    extended history (first ++ second) = extended (extended history first) second := by
  funext entry
  simp [extended]

/-- How the calls `made` for one entry, in addition to its history, leave it. -/
def Visited (history : List EntryCall) (sr : SendResult) (confirmedTxCount : Nat)
    (made : List EntryCall) : Outcome Status (SendResult × Nat) → Prop
  | .ok (visited, confirmed) =>
      visited.item = sr.item ∧
      Life sr.item (history ++ made) visited.sig visited.inSystem ∧
      visited.sig.isSome ∧
      confirmed + sr.inSystem.toNat = confirmedTxCount + visited.inSystem.toNat ∧
      (sr.inSystem = false → ∃ sig answer, .check sig answer ∈ made)
  | .err error => Cut sr.item (history ++ made) (.error error)
  | .panic message => Cut sr.item (history ++ made) (.panic message)

section Visit

variable {history : List EntryCall} {sr : SendResult}

/-- The first half of a visit sends the entry unless it has a signature. -/
theorem ensureSent_spec (entry : Nat) (life : Life sr.item history sr.sig sr.inSystem) :
    (ensureSent entry sr).Ensures fun outcome trace =>
      ∃ made, calls trace = made.map (entry, ·) ∧
        match outcome with
        | .ok sent => sent.item = sr.item ∧
            Life sr.item (history ++ made) sent.sig sent.inSystem ∧ sent.sig.isSome ∧
            sent.inSystem = sr.inSystem
        | .err error => Cut sr.item (history ++ made) (.error error)
        | .panic message => Cut sr.item (history ++ made) (.panic message) := by
  obtain ⟨inSystem, sig, tx, serializedTx⟩ := sr
  cases sig with
  | some sig =>
      refine Fallible.ensures_pure.mpr ⟨[], rfl, rfl, ?_, rfl, rfl⟩
      simpa using life
  | none =>
      cases life
      refine Fallible.ensures_withGuard.mpr fun _ => Fallible.ensures_bind.mpr ?_
      apply (sendTransactionWithConfig_spec (some entry) sendConfig).mono
      rintro _ _ ⟨reply, rfl, rfl⟩
      cases ended : sentSignature tx reply with
      | ok sig =>
          have isOwn := (sentSignature_eq_ok_iff.mp ended).1
          refine fun _ => ⟨[.send tx (.ok sig)], ?_, rfl, .pending (.sent isOwn), rfl, rfl⟩
          exact congrArg (fun result => [(entry, EntryCall.send tx result)]) ended
      | err error =>
          refine fun _ => ⟨[.send tx (.err error)], ?_, .sending error⟩
          exact congrArg (fun result => [(entry, EntryCall.send tx result)]) ended
      | panic message =>
          have panics : (sentSignature tx reply).Panics := by
            rw [ended]
            trivial
          have unsigned := (sentSignature_panics_iff.mp panics).1
          refine fun _ => ⟨[.send tx (.panic message)], ?_, .crashing message unsigned⟩
          exact congrArg (fun result => [(entry, EntryCall.send tx result)]) ended

/-- The second half transmits and checks the entry unless it is in the system. -/
theorem ensureConfirmed_spec (entry confirmedTxCount : Nat)
    (life : Life sr.item history sr.sig sr.inSystem) (signed : sr.sig.isSome) :
    (ensureConfirmed entry sr confirmedTxCount).Ensures fun outcome trace =>
      ∃ made, calls trace = made.map (entry, ·) ∧
        Visited history sr confirmedTxCount made outcome := by
  obtain ⟨inSystem, sig, tx, serializedTx⟩ := sr
  obtain ⟨sig, rfl⟩ := Option.isSome_iff_exists.mp signed
  cases life with
  | confirmed pending =>
      refine Fallible.ensures_pure.mpr ⟨[], rfl, rfl, ?_, rfl, rfl, by simp⟩
      simpa using Life.confirmed pending
  | pending pending =>
      refine Fallible.ensures_withGuard.mpr fun _ => Fallible.ensures_bind.mpr ?_
      rintro (_ | _)
      · exact fun _ => ⟨[.transmit serializedTx false], rfl, .transmitting pending⟩
      · rintro _ _ (error | _ | _) _ _
        · exact ⟨[.transmit serializedTx true, .check sig (.error error)], rfl,
            .checking pending error⟩
        · exact ⟨[.transmit serializedTx true, .check sig (.ok false)], rfl, rfl,
            .pending (.unconfirmed pending), rfl, rfl, fun _ => ⟨sig, .ok false, by simp⟩⟩
        · exact ⟨[.transmit serializedTx true, .check sig (.ok true)], rfl, rfl,
            .confirmed pending, rfl, rfl, fun _ => ⟨sig, .ok true, by simp⟩⟩

theorem visit_spec (entry confirmedTxCount : Nat)
    (life : Life sr.item history sr.sig sr.inSystem) :
    (visit entry sr confirmedTxCount).Ensures fun outcome trace =>
      ∃ made, calls trace = made.map (entry, ·) ∧
        Visited history sr confirmedTxCount made outcome := by
  refine (ensureSent_spec entry life).bind ?_ (fun _ _ holds => holds) fun _ _ holds => holds
  rintro sent first ⟨sending, isFirst, sameItem, sentLife, signed, sameFlag⟩
  rw [← sameItem] at sentLife
  apply (ensureConfirmed_spec entry confirmedTxCount sentLife signed).mono
  rintro outcome second ⟨checking, isSecond, holds⟩
  refine ⟨sending ++ checking, by rw [calls_append, isFirst, isSecond, List.map_append], ?_⟩
  have cut : ∀ {abort : Abort}, Cut sent.item (history ++ sending ++ checking) abort →
      Cut sr.item (history ++ (sending ++ checking)) abort := by
    intro abort cut
    rwa [sameItem, List.append_assoc] at cut
  cases outcome with
  | ok ended =>
      obtain ⟨keeps, life, signed, count, checked⟩ := holds
      rw [sameItem] at keeps
      rw [sameItem, List.append_assoc] at life
      rw [sameFlag] at count checked
      refine ⟨keeps, life, signed, count, fun unconfirmed => ?_⟩
      obtain ⟨sig, answer, isCheck⟩ := checked unconfirmed
      exact ⟨sig, answer, List.mem_append_right _ isCheck⟩
  | err error => exact cut holds
  | panic message => exact cut holds

end Visit

/-- Every entry, counted from `entry` on, has the history that its fields say. -/
def Alive (history : Nat → List EntryCall) : Nat → List SendResult → Prop
  | _, [] => True
  | entry, sr :: sigList =>
      Life sr.item (history entry) sr.sig sr.inSystem ∧ Alive history (entry + 1) sigList

section Alive

variable {history other : Nat → List EntryCall} {entry : Nat} {sigList : List SendResult}

theorem Alive.congr (same : ∀ index, entry ≤ index → history index = other index)
    (alive : Alive history entry sigList) : Alive other entry sigList := by
  induction sigList generalizing entry with
  | nil => trivial
  | cons sr sigList ih =>
      refine ⟨?_, ih (fun index later => same index (by omega)) alive.2⟩
      rw [← same entry le_rfl]
      exact alive.1

theorem Alive.life (alive : Alive history entry sigList) {index : Nat} {sr : SendResult}
    (isEntry : sigList[index]? = some sr) :
    Life sr.item (history (entry + index)) sr.sig sr.inSystem := by
  induction sigList generalizing entry index with
  | nil => simp at isEntry
  | cons first sigList ih =>
      cases index with
      | zero =>
          cases isEntry
          exact alive.1
      | succ index =>
          have life := ih alive.2 (by simpa using isEntry)
          rwa [Nat.add_assoc, Nat.add_comm 1 index] at life

end Alive

/-- A pass over the entries from `entry` on that was completed. -/
structure Passed (history : Nat → List EntryCall) (entry : Nat) (before : List SendResult)
    (confirmedBefore : Nat) (trace : List ServiceEvent) (after : List SendResult)
    (confirmedAfter : Nat) : Prop where
  items : after.map SendResult.item = before.map SendResult.item
  alive : Alive (extended history trace) entry after
  signed : ∀ sr ∈ after, sr.sig.isSome
  count : confirmedAfter + before.countP SendResult.inSystem =
    confirmedBefore + after.countP SendResult.inSystem
  checked : (∃ sr ∈ before, sr.inSystem = false) →
    ∃ index sig answer, (index, .check sig answer) ∈ calls trace

/-- A pass over these items that was broken off at the entry `broken`: the entries
before it have been sent, and those after it have not been visited. -/
structure Halted (history : Nat → List EntryCall) (entry : Nat) (items : List Item)
    (trace : List ServiceEvent) (abort : Abort) (broken : Nat) : Prop where
  cut : ∃ item, items[broken - entry]? = some item ∧
    Cut item (extended history trace broken) abort
  sent : ∀ index, entry ≤ index → index < broken → ∃ item sig inSystem,
    items[index - entry]? = some item ∧
      Life item (extended history trace index) (some sig) inSystem
  unvisited : ∀ index, broken < index → callsOf index trace = []

/-- A pass over the entries from `entry` on was broken off at one of them. -/
def Breaks (history : Nat → List EntryCall) (entry : Nat) (sigList : List SendResult)
    (trace : List ServiceEvent) (abort : Abort) : Prop :=
  ∃ broken, entry ≤ broken ∧ broken < entry + sigList.length ∧
    Halted history entry (sigList.map SendResult.item) trace abort broken

def PassEnds (history : Nat → List EntryCall) (entry : Nat) (sigList : List SendResult)
    (confirmedTxCount : Nat) (trace : List ServiceEvent) :
    Outcome Status (List SendResult × Nat) → Prop
  | .ok (after, confirmed) => Passed history entry sigList confirmedTxCount trace after confirmed
  | .err error => Breaks history entry sigList trace (.error error)
  | .panic message => Breaks history entry sigList trace (.panic message)

section Pass

variable {history : Nat → List EntryCall} {entry confirmedTxCount confirmed : Nat}
  {sr visited : SendResult} {sigList : List SendResult} {first second : List ServiceEvent}
  {made : List EntryCall}

/-- A visit makes no call for another entry. -/
theorem callsOf_other {index : Nat} (only : ∀ call ∈ calls first, call.1 = entry)
    (different : index ≠ entry) : callsOf index first = [] := by
  apply callsOf_eq_nil
  intro call isCall
  have isEntry := only call isCall
  omega

theorem Alive.after_visit (others : Alive history (entry + 1) sigList)
    (only : ∀ call ∈ calls first, call.1 = entry) :
    Alive (extended history first) (entry + 1) sigList := by
  apply others.congr
  intro index isLater
  have untouched : callsOf index first = [] := callsOf_other only (by omega)
  rw [extended, untouched, List.append_nil]

theorem callsOf_rest_eq_nil
    (inRange : ∀ call ∈ calls second, entry + 1 ≤ call.1 ∧
      call.1 < entry + 1 + sigList.length) : callsOf entry second = [] := by
  apply callsOf_eq_nil
  intro call isCall
  have isLater := (inRange call isCall).1
  omega

/-- An entry's history after its visit and the rest of the pass. -/
theorem extended_visited (isCalls : calls first = made.map (entry, ·))
    (inRange : ∀ call ∈ calls second, entry + 1 ≤ call.1 ∧
      call.1 < entry + 1 + sigList.length) :
    extended history (first ++ second) entry = history entry ++ made := by
  have own : callsOf entry first = made := (callsOf_eq_of_calls made isCalls).1
  rw [extended, callsOf_append, own, callsOf_rest_eq_nil inRange, List.append_nil]

theorem Passed.cons {rest : List SendResult} {final : Nat}
    (isCalls : calls first = made.map (entry, ·))
    (holds : Visited (history entry) sr confirmedTxCount made (.ok (visited, confirmed)))
    (inRange : ∀ call ∈ calls second, entry + 1 ≤ call.1 ∧
      call.1 < entry + 1 + sigList.length)
    (passed : Passed (extended history first) (entry + 1) sigList confirmed second rest final) :
    Passed history entry (sr :: sigList) confirmedTxCount (first ++ second) (visited :: rest)
      final := by
  obtain ⟨keeps, life, signed, count, checked⟩ := holds
  constructor
  case items => rw [List.map_cons, List.map_cons, keeps, passed.items]
  case alive =>
    constructor
    · rw [extended_visited isCalls inRange, keeps]
      exact life
    · rw [extended_append]
      exact passed.alive
  case signed => simpa [signed] using passed.signed
  case count =>
    have rest_count := passed.count
    simp only [List.countP_cons]
    cases beforeFlag : sr.inSystem <;> cases afterFlag : visited.inSystem <;>
      simp [beforeFlag, afterFlag] at count ⊢ <;> omega
  case checked =>
    rintro ⟨unconfirmed, isEntry, notInSystem⟩
    rw [calls_append]
    rcases List.mem_cons.mp isEntry with rfl | isLater
    · obtain ⟨sig, answer, isCheck⟩ := checked notInSystem
      have isMade : (entry, .check sig answer) ∈ calls first := by
        rw [isCalls]
        exact List.mem_map_of_mem isCheck
      exact ⟨entry, sig, answer, List.mem_append_left _ isMade⟩
    · obtain ⟨index, sig, answer, isCheck⟩ :=
        passed.checked ⟨unconfirmed, isLater, notInSystem⟩
      exact ⟨index, sig, answer, List.mem_append_right _ isCheck⟩

/-- The visit of the first entry breaks the pass off. -/
theorem Breaks.at_entry {abort : Abort} (isCalls : calls first = made.map (entry, ·))
    (cut : Cut sr.item (history entry ++ made) abort) :
    Breaks history entry (sr :: sigList) first abort := by
  obtain ⟨own, only⟩ := callsOf_eq_of_calls made isCalls
  refine ⟨entry, le_rfl, by simp, ?_⟩
  constructor
  case cut =>
    rw [extended, own]
    exact ⟨sr.item, by simp, cut⟩
  case sent =>
    intro index notEarlier earlier
    omega
  case unvisited =>
    intro index isLater
    exact callsOf_other only (by omega)

theorem getElem?_items_succ {index : Nat} (isLater : entry + 1 ≤ index) :
    ((sr :: sigList).map SendResult.item)[index - entry]? =
      (sigList.map SendResult.item)[index - (entry + 1)]? := by
  have next : index - entry = index - (entry + 1) + 1 := by omega
  rw [next, List.map_cons, List.getElem?_cons_succ]

theorem Breaks.later {abort : Abort} (isCalls : calls first = made.map (entry, ·))
    (holds : Visited (history entry) sr confirmedTxCount made (.ok (visited, confirmed)))
    (inRange : ∀ call ∈ calls second, entry + 1 ≤ call.1 ∧
      call.1 < entry + 1 + sigList.length)
    (breaks : Breaks (extended history first) (entry + 1) sigList second abort) :
    Breaks history entry (sr :: sigList) (first ++ second) abort := by
  obtain ⟨broken, isLater, within, halted⟩ := breaks
  refine ⟨broken, by omega, by simp only [List.length_cons]; omega, ?_⟩
  constructor
  case cut =>
    rw [extended_append, getElem?_items_succ isLater]
    exact halted.cut
  case sent =>
    intro index notEarlier earlier
    rcases Nat.lt_or_eq_of_le notEarlier with behind | rfl
    · rw [extended_append, getElem?_items_succ behind]
      exact halted.sent index behind earlier
    · obtain ⟨_, life, signed, _, _⟩ := holds
      obtain ⟨sig, isSig⟩ := Option.isSome_iff_exists.mp signed
      rw [isSig] at life
      rw [extended_visited isCalls inRange]
      exact ⟨sr.item, sig, visited.inSystem, by simp, life⟩
  case unvisited =>
    intro index after
    have only := (callsOf_eq_of_calls made isCalls).2
    have untouched : callsOf index first = [] := callsOf_other only (by omega)
    rw [callsOf_append, untouched, halted.unvisited index after, List.append_nil]

/-- A pass makes calls for its entries only, and is completed or broken off. -/
theorem sendPass_spec (confirmedTxCount : Nat) (alive : Alive history entry sigList) :
    (sendPass entry sigList confirmedTxCount).Ensures fun outcome trace =>
      (∀ call ∈ calls trace, entry ≤ call.1 ∧ call.1 < entry + sigList.length) ∧
      PassEnds history entry sigList confirmedTxCount trace outcome := by
  induction sigList generalizing history entry confirmedTxCount with
  | nil =>
      refine Fallible.ensures_pure.mpr ⟨by simp, ?_⟩
      exact ⟨rfl, trivial, by simp, rfl, by simp⟩
  | cons sr sigList ih =>
      obtain ⟨life, others⟩ := alive
      have ownRange : ∀ {first : List ServiceEvent} {made : List EntryCall},
          calls first = made.map (entry, ·) → ∀ call ∈ calls first,
            entry ≤ call.1 ∧ call.1 < entry + (sr :: sigList).length := by
        intro first made isCalls call isCall
        have isEntry := (callsOf_eq_of_calls made isCalls).2 call isCall
        simp only [List.length_cons]
        omega
      apply (visit_spec entry confirmedTxCount life).bind
      · -- the entry is visited, and the pass goes on
        rintro ⟨visited, confirmed⟩ first ⟨made, isCalls, holds⟩
        have only := (callsOf_eq_of_calls made isCalls).2
        have bothRange : ∀ {second : List ServiceEvent},
            (∀ call ∈ calls second, entry + 1 ≤ call.1 ∧ call.1 < entry + 1 + sigList.length) →
            ∀ call ∈ calls (first ++ second),
              entry ≤ call.1 ∧ call.1 < entry + (sr :: sigList).length := by
          intro second inRange call isCall
          rw [calls_append] at isCall
          rcases List.mem_append.mp isCall with isFirst | isSecond
          · exact ownRange isCalls call isFirst
          · have range := inRange call isSecond
            simp only [List.length_cons]
            omega
        apply (ih confirmed (others.after_visit only)).bind
        · rintro ⟨rest, final⟩ second ⟨inRange, passed⟩
          apply Fallible.ensures_pure.mpr
          rw [List.append_nil]
          exact ⟨bothRange inRange, Passed.cons isCalls holds inRange passed⟩
        · rintro error second ⟨inRange, breaks⟩
          exact ⟨bothRange inRange, Breaks.later isCalls holds inRange breaks⟩
        · rintro message second ⟨inRange, breaks⟩
          exact ⟨bothRange inRange, Breaks.later isCalls holds inRange breaks⟩
      · rintro error first ⟨made, isCalls, holds⟩
        exact ⟨ownRange isCalls, Breaks.at_entry isCalls holds⟩
      · rintro message first ⟨made, isCalls, holds⟩
        exact ⟨ownRange isCalls, Breaks.at_entry isCalls holds⟩

theorem Passed.length_eq {after : List SendResult}
    (passed : Passed history entry sigList confirmedTxCount first after confirmed) :
    after.length = sigList.length := by
  simpa using congrArg List.length passed.items

end Pass

/-- What holds at every test of the `while` condition.  Before the first pass
no entry has a signature, after it all have. -/
structure Standing (history : Nat → List EntryCall) (items : List Item)
    (sigList : List SendResult) (confirmedTxCount : Nat) : Prop where
  items_eq : sigList.map SendResult.item = items
  alive : Alive history 0 sigList
  count : confirmedTxCount = sigList.countP SendResult.inSystem
  uniform : (∀ sr ∈ sigList, sr.sig.isSome) ∨ ∀ sr ∈ sigList, sr.sig = none

/-- `send_transaction_with_config` returned a signature for some entry. -/
def Accepted (history : Nat → List EntryCall) : Prop :=
  ∃ entry tx sig, .send tx (.ok sig) ∈ history entry

/-- Sending the first entry did not succeed, and nothing else was called. -/
def OnlyRefused (history : Nat → List EntryCall) (length : Nat) (abort : Abort) : Prop :=
  (∃ tx result, history 0 = [.send tx result] ∧ (∀ sig, result ≠ .ok sig) ∧
    ∀ error, abort = .error error → ∃ refusal, result = .err refusal) ∧
  ∀ index, index < length → index ≠ 0 → history index = []

/-- How the histories of the items stand when `send_tx` was broken off in a
pass: one is cut, and some entry was accepted unless that was the very first call. -/
structure Failed (history : Nat → List EntryCall) (items : List Item) (abort : Abort) :
    Prop where
  cut : ∃ (broken : Nat) (item : Item), items[broken]? = some item ∧
    Cut item (history broken) abort
  discipline : ∀ (index : Nat) (item : Item), items[index]? = some item →
    CallDiscipline item (history index)
  accepted : Accepted history ∨ OnlyRefused history items.length abort

section Loop

variable {history : Nat → List EntryCall} {items : List Item} {sigList after : List SendResult}
  {confirmedTxCount confirmed : Nat} {trace : List ServiceEvent}

theorem Standing.length_eq (standing : Standing history items sigList confirmedTxCount) :
    sigList.length = items.length := by
  simpa using congrArg List.length standing.items_eq

/-- The life of an item, by its entry. -/
theorem Standing.life_of_item (standing : Standing history items sigList confirmedTxCount)
    {index : Nat} {item : Item} (isItem : items[index]? = some item) :
    ∃ sr, sigList[index]? = some sr ∧ sr.item = item ∧
      Life item (history index) sr.sig sr.inSystem := by
  rw [← standing.items_eq, List.getElem?_map] at isItem
  obtain ⟨sr, isEntry, rfl⟩ := Option.map_eq_some_iff.mp isItem
  have life := standing.alive.life isEntry
  rw [Nat.zero_add] at life
  exact ⟨sr, isEntry, rfl, life⟩

theorem Standing.count_le (standing : Standing history items sigList confirmedTxCount) :
    confirmedTxCount ≤ sigList.length := by
  rw [standing.count]
  exact List.countP_le_length

/-- The counter has reached the length exactly when all entries are in the system. -/
theorem Standing.count_lt_iff (standing : Standing history items sigList confirmedTxCount) :
    confirmedTxCount < sigList.length ↔ ∃ sr ∈ sigList, sr.inSystem = false := by
  have all := List.countP_eq_length (p := SendResult.inSystem) (l := sigList)
  have below := standing.count_le
  rw [← standing.count] at all
  constructor
  · intro fewer
    by_contra none
    push Not at none
    have every := all.mpr fun sr isEntry => by simpa using none sr isEntry
    omega
  · rintro ⟨sr, isEntry, notInSystem⟩
    apply lt_of_le_of_ne below
    intro full
    have inSystem := all.mp full sr isEntry
    rw [notInSystem] at inSystem
    cases inSystem

theorem Standing.passed (standing : Standing history items sigList confirmedTxCount)
    (passed : Passed history 0 sigList confirmedTxCount trace after confirmed) :
    Standing (extended history trace) items after confirmed := by
  have counts := passed.count
  rw [standing.count] at counts
  have counted : confirmed = after.countP SendResult.inSystem := by omega
  exact ⟨passed.items.trans standing.items_eq, passed.alive, counted, .inl passed.signed⟩

theorem Cut.accepted_or {item : Item} {made : List EntryCall} {abort : Abort}
    (cut : Cut item made abort) :
    (∃ sig, .send item.tx (.ok sig) ∈ made) ∨ ∃ result, made = [.send item.tx result] ∧
      (∀ sig, result ≠ .ok sig) ∧ ∀ error, abort = .error error → ∃ refusal,
        result = .err refusal := by
  cases cut with
  | sending refusal => exact .inr ⟨_, rfl, nofun, fun _ _ => ⟨refusal, rfl⟩⟩
  | crashing message => exact .inr ⟨_, rfl, nofun, nofun⟩
  | transmitting pending =>
      exact .inl ⟨_, List.mem_append_left _ ((pending.send_mem_iff _ _).mpr ⟨rfl, rfl⟩)⟩
  | checking pending error =>
      exact .inl ⟨_, List.mem_append_left _ ((pending.send_mem_iff _ _).mpr ⟨rfl, rfl⟩)⟩

theorem Life.accepted {item : Item} {made : List EntryCall} {sig : Signature} {inSystem : Bool}
    (life : Life item made (some sig) inSystem) : .send item.tx (.ok sig) ∈ made :=
  (life.send_mem_iff _ _).mpr ⟨rfl, rfl⟩

theorem Life.firstSignature {item : Item} {made : List EntryCall} {sig : Signature}
    {inSystem : Bool} (life : Life item made (some sig) inSystem) :
    item.tx.firstSignature = some sig := by
  cases life with
  | pending pending => exact pending.firstSignature
  | confirmed pending => exact pending.firstSignature

/-- What was not visited in the pass that was broken off is as it was before. -/
theorem Halted.before {abort : Abort} {broken index : Nat}
    (halted : Halted history 0 items trace abort broken) (isLater : broken < index) :
    extended history trace index = history index := by
  rw [extended, halted.unvisited index isLater, List.append_nil]

theorem Standing.breaks_accepted {abort : Abort} {broken : Nat}
    (standing : Standing history items sigList confirmedTxCount)
    (halted : Halted history 0 items trace abort broken) :
    Accepted (extended history trace) ∨
      OnlyRefused (extended history trace) items.length abort := by
  obtain ⟨item, isItem, cut⟩ := halted.cut
  obtain ⟨sr, isEntry, -, life⟩ := standing.life_of_item isItem
  rw [Nat.sub_zero] at isEntry life
  rcases standing.uniform with signed | unsigned
  · -- a pass after the first: the broken entry has been accepted
    obtain ⟨sig, isSig⟩ := Option.isSome_iff_exists.mp (signed sr (List.mem_of_getElem? isEntry))
    rw [isSig] at life
    exact .inl ⟨broken, item.tx, sig, List.mem_append_left _ life.accepted⟩
  · rcases cut.accepted_or with ⟨sig, sent⟩ | ⟨result, only, refused, isErr⟩
    · exact .inl ⟨broken, item.tx, sig, sent⟩
    · rcases Nat.eq_zero_or_pos broken with rfl | isLater
      · refine .inr ⟨⟨item.tx, result, only, refused, isErr⟩, fun index bound different => ?_⟩
        obtain ⟨other, isOther, -, life⟩ :=
          standing.life_of_item (List.getElem?_eq_getElem bound)
        rw [unsigned other (List.mem_of_getElem? isOther)] at life
        rw [halted.before (by omega)]
        exact life.eq_nil_of_unsent
      · obtain ⟨first, sig, inSystem, -, life⟩ := halted.sent 0 le_rfl isLater
        exact .inl ⟨0, first.tx, sig, life.accepted⟩

theorem Standing.breaks {abort : Abort}
    (standing : Standing history items sigList confirmedTxCount)
    (breaks : Breaks history 0 sigList trace abort) :
    Failed (extended history trace) items abort := by
  obtain ⟨broken, -, -, halted⟩ := breaks
  rw [standing.items_eq] at halted
  constructor
  case cut => exact ⟨broken, halted.cut⟩
  case discipline =>
    intro index item isItem
    rcases Nat.lt_trichotomy index broken with earlier | rfl | isLater
    · obtain ⟨other, sig, inSystem, isOther, life⟩ := halted.sent index (Nat.zero_le _) earlier
      rw [Nat.sub_zero, isItem] at isOther
      cases isOther
      exact life.discipline
    · obtain ⟨other, isOther, cut⟩ := halted.cut
      rw [Nat.sub_zero, isItem] at isOther
      cases isOther
      exact cut.discipline
    · obtain ⟨sr, -, -, life⟩ := standing.life_of_item isItem
      rw [halted.before isLater]
      exact life.discipline
  case accepted => exact standing.breaks_accepted halted

end Loop

def clockReadings (events : List ServiceEvent) : List Nat :=
  events.filterMap fun
    | ⟨ServiceOp.elapsedSecs, seconds⟩ => some seconds
    | _ => none

/-- How the loop ends, or stands when it is no longer followed. -/
def LoopEnds (waitTime : Nat) (history : Nat → List EntryCall) (items : List Item)
    (trace : List ServiceEvent) : Outcome Status SendTxReply → Prop
  | .ok (.running sigList confirmed) => Standing (extended history trace) items sigList confirmed
  | .ok (.response signature) => ∃ sigList confirmed elapsed,
      Standing (extended history trace) items sigList confirmed ∧
      signature = genSigList sigList ∧ (clockReadings trace).getLast? = some elapsed ∧
      ¬ (elapsed ≤ waitTime ∧ confirmed < sigList.length)
  | .err error => Failed (extended history trace) items (.error error)
  | .panic message => Failed (extended history trace) items (.panic message)

section Loop

variable {history : Nat → List EntryCall} {items : List Item} {sigList : List SendResult}
  {confirmedTxCount : Nat}

theorem LoopEnds.prepend {waitTime : Nat} {first rest : List ServiceEvent}
    {outcome : Outcome Status SendTxReply}
    (ends : LoopEnds waitTime (extended history first) items rest outcome) :
    LoopEnds waitTime history items (first ++ rest) outcome := by
  match outcome, ends with
  | .ok (.running sigList confirmed), standing =>
      change Standing _ items sigList confirmed
      rw [extended_append]
      exact standing
  | .ok (.response signature), ends =>
      obtain ⟨sigList, confirmed, elapsed, standing, rendered, last, exits⟩ := ends
      rw [← extended_append] at standing
      refine ⟨sigList, confirmed, elapsed, standing, rendered, ?_, exits⟩
      rw [clockReadings, List.filterMap_append, List.getLast?_append]
      exact Option.or_eq_some_iff.mpr (.inl last)
  | .err error, failed =>
      change Failed _ items _
      rw [extended_append]
      exact failed
  | .panic message, failed =>
      change Failed _ items _
      rw [extended_append]
      exact failed

theorem sendLoop_spec (crates : Crates) (passes : Nat)
    (standing : Standing history items sigList confirmedTxCount) :
    (sendLoop crates passes sigList confirmedTxCount).Ensures fun outcome trace =>
      (∀ call ∈ calls trace, call.1 < items.length) ∧
      LoopEnds crates.maxProcessingAge history items trace outcome := by
  induction passes generalizing history sigList confirmedTxCount with
  | zero =>
      refine Fallible.ensures_pure.mpr ⟨by simp, ?_⟩
      simpa [LoopEnds] using standing
  | succ passes ih =>
      have reading : (elapsedSecs : Svc Status Nat).Ensures fun outcome trace =>
          ∃ elapsed, outcome = .ok elapsed ∧ trace = [⟨ServiceOp.elapsedSecs, elapsed⟩] :=
        fun elapsed => ⟨elapsed, rfl, rfl⟩
      apply reading.bind
      · rintro elapsed _ ⟨_, ⟨⟩, rfl⟩
        have clock : extended history [⟨ServiceOp.elapsedSecs, elapsed⟩] = history := by
          funext entry
          exact List.append_nil _
        have silent : calls [⟨ServiceOp.elapsedSecs, elapsed⟩] = [] := rfl
        have passRange : ∀ {trace : List ServiceEvent},
            (∀ call ∈ calls trace, 0 ≤ call.1 ∧ call.1 < 0 + sigList.length) →
              ∀ call ∈ calls trace, call.1 < items.length := by
          intro trace inRange call isCall
          have within := (inRange call isCall).2
          rwa [Nat.zero_add, standing.length_eq] at within
        split
        · -- one more pass, then the rest of the loop
          apply (sendPass_spec confirmedTxCount standing.alive).bind
          · rintro ⟨after, confirmed⟩ trace ⟨inRange, passed⟩
            apply (ih (standing.passed passed)).mono
            rintro outcome rest ⟨restInRange, ends⟩
            constructor
            · rw [calls_append, calls_append, silent, List.nil_append]
              exact List.forall_mem_append.mpr ⟨passRange inRange, restInRange⟩
            · apply LoopEnds.prepend
              rw [clock]
              exact ends.prepend
          · rintro error trace ⟨inRange, breaks⟩
            rw [calls_append, silent, List.nil_append]
            refine ⟨passRange inRange, ?_⟩
            change Failed _ items _
            rw [extended_append, clock]
            exact standing.breaks breaks
          · rintro message trace ⟨inRange, breaks⟩
            rw [calls_append, silent, List.nil_append]
            refine ⟨passRange inRange, ?_⟩
            change Failed _ items _
            rw [extended_append, clock]
            exact standing.breaks breaks
        · -- the loop is left
          rename_i exits
          refine Fallible.ensures_pure.mpr ⟨?_, ?_⟩
          · intro call isCall
            cases isCall
          · refine ⟨sigList, confirmedTxCount, elapsed, ?_, rfl, rfl, exits⟩
            rw [List.append_nil, clock]
            exact standing
      · rintro error trace ⟨elapsed, impossible, _⟩
        cases impossible
      · rintro message trace ⟨elapsed, impossible, _⟩
        cases impossible

end Loop

end RustHelper.Broadcast
