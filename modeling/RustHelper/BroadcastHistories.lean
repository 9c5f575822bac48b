import RustHelper.Broadcast

/-!
# The calls made for one entry of a batch

What `send_tx` does for an entry is seen in three calls: sending its transaction,
handing its bytes to the TPU and checking the confirmation of its signature.  An
entry is fresh, pending or confirmed; its history says which, and a history that was
cut short by an error or a panic says which.
-/

namespace RustHelper.Broadcast

open Effect

/-- A call made for an entry, with what the client makes of the answer. -/
inductive EntryCall
  | send (tx : Transaction) (result : Outcome ForeignError Signature)
  | transmit (wire : List UInt8) (accepted : Bool)
  | check (signature : Signature) (answer : Except ForeignError Bool)
  deriving DecidableEq

inductive CallKind
  | send
  | transmit
  | check
  deriving DecidableEq

def EntryCall.kind : EntryCall → CallKind
  | .send _ _ => .send
  | .transmit _ _ => .transmit
  | .check _ _ => .check

/-- The entry that an event is a call for, and the call. -/
def entryCall : ServiceEvent → Option (Nat × EntryCall)
  | ⟨ServiceOp.rpc (.sendTransactionWithConfig (some entry) tx _), reply⟩ =>
      some (entry, .send tx (sentSignature tx reply))
  | ⟨ServiceOp.sendWireTransaction entry wire, accepted⟩ =>
      some (entry, .transmit wire accepted)
  | ⟨ServiceOp.rpc (.confirmTransactionWithCommitment (some entry) signature _), answer⟩ =>
      some (entry, .check signature answer)
  | _ => none

/-- The calls made for entries of the batch, in order. -/
def calls (events : List ServiceEvent) : List (Nat × EntryCall) := events.filterMap entryCall

def callsOf (entry : Nat) (events : List ServiceEvent) : List EntryCall :=
  (calls events).filterMap fun call => if call.1 = entry then some call.2 else none

section Calls

@[simp] theorem calls_nil : calls [] = [] := rfl

@[simp] theorem calls_append (first second : List ServiceEvent) :
    calls (first ++ second) = calls first ++ calls second := List.filterMap_append

@[simp] theorem callsOf_nil (entry : Nat) : callsOf entry [] = [] := rfl

@[simp] theorem callsOf_append (entry : Nat) (first second : List ServiceEvent) :
    callsOf entry (first ++ second) = callsOf entry first ++ callsOf entry second := by
  simp [callsOf]

theorem mem_callsOf {entry : Nat} {call : EntryCall} {events : List ServiceEvent} :
    call ∈ callsOf entry events ↔ (entry, call) ∈ calls events := by
  simp only [callsOf, List.mem_filterMap, Option.ite_none_right_eq_some, Option.some.injEq]
  constructor
  · rintro ⟨⟨index, made⟩, isCall, rfl, rfl⟩
    exact isCall
  · exact fun isCall => ⟨(entry, call), isCall, rfl, rfl⟩

theorem callsOf_eq_nil {entry : Nat} {events : List ServiceEvent}
    (others : ∀ call ∈ calls events, call.1 ≠ entry) : callsOf entry events = [] := by
  apply List.eq_nil_iff_forall_not_mem.mpr
  intro call isCall
  exact others _ (mem_callsOf.mp isCall) rfl

theorem callsOf_eq_of_calls {entry : Nat} {events : List ServiceEvent} (made : List EntryCall)
    (isCalls : calls events = made.map (entry, ·)) :
    callsOf entry events = made ∧ ∀ call ∈ calls events, call.1 = entry := by
  constructor
  · simp [callsOf, isCalls, List.filterMap_map]
  · intro call isCall
    rw [isCalls] at isCall
    obtain ⟨_, _, rfl⟩ := List.mem_map.mp isCall
    rfl

theorem calls_eq_map_callsOf {entry : Nat} {events : List ServiceEvent}
    (only : ∀ call ∈ calls events, call.1 = entry) :
    calls events = (callsOf entry events).map (entry, ·) := by
  unfold callsOf
  generalize calls events = made at only ⊢
  induction made with
  | nil => rfl
  | cons call made ih =>
      obtain ⟨index, call⟩ := call
      have isEntry : index = entry := only (index, call) (List.mem_cons_self ..)
      have rest := ih fun call isCall => only call (List.mem_cons_of_mem _ isCall)
      simp [isEntry, ← rest]

end Calls

/-- What a batch holds at one place: some bytes, and the transaction they decode to. -/
structure Item where
  wire : List UInt8
  tx : Transaction

def SendResult.item (sr : SendResult) : Item := ⟨sr.serializedTx, sr.tx⟩

/-- The call is about the entry's own transaction, bytes or signature. -/
def EntryCall.IsOwn (item : Item) : EntryCall → Prop
  | .send tx _ => tx = item.tx
  | .transmit wire _ => wire = item.wire
  | .check signature _ => item.tx.firstSignature = some signature

/-- A prefix of one send followed by pairs of transmission and check, with
nothing after a check that answered true; all are about the entry's own. -/
structure CallDiscipline (item : Item) (history : List EntryCall) : Prop where
  shape : ∃ pairs, history.map EntryCall.kind <+:
    .send :: (List.replicate pairs [CallKind.transmit, .check]).flatten
  quiet : ∀ before signature after,
    history = before ++ .check signature (.ok true) :: after → after = []
  own : ∀ call ∈ history, call.IsOwn item

theorem CallDiscipline.of_isPrefix {item : Item} {sofar history : List EntryCall}
    (disciplined : CallDiscipline item history) (isPrefix : sofar <+: history) :
    CallDiscipline item sofar := by
  obtain ⟨rest, rfl⟩ := isPrefix
  obtain ⟨⟨pairs, shape⟩, quiet, own⟩ := disciplined
  refine ⟨⟨pairs, ?_⟩, fun before signature after split => ?_, fun call among => ?_⟩
  · rw [List.map_append] at shape
    exact (List.prefix_append _ _).trans shape
  · have nothing := quiet before signature (after ++ rest) (by simp [split])
    exact (List.append_eq_nil_iff.mp nothing).1
  · exact own call (List.mem_append_left _ among)

/-- Sent, and not confirmed by any check so far. -/
inductive Pending (item : Item) (sig : Signature) : List EntryCall → Prop
  | sent (isOwn : item.tx.firstSignature = some sig) :
      Pending item sig [.send item.tx (.ok sig)]
  | unconfirmed {history : List EntryCall} (pending : Pending item sig history) :
      Pending item sig (history ++ [.transmit item.wire true, .check sig (.ok false)])

/-- The history of an entry with the given fields `sig` and `in_system`. -/
inductive Life (item : Item) : List EntryCall → Option Signature → Bool → Prop
  | fresh : Life item [] none false
  | pending {sig : Signature} {history : List EntryCall} (pending : Pending item sig history) :
      Life item history (some sig) false
  | confirmed {sig : Signature} {history : List EntryCall} (pending : Pending item sig history) :
      Life item (history ++ [.transmit item.wire true, .check sig (.ok true)]) (some sig) true

/-- How `send_tx` is broken off. -/
inductive Abort
  | error (status : Status)
  | panic (message : String)

/-- The history of the entry at which `send_tx` was broken off. -/
inductive Cut (item : Item) : List EntryCall → Abort → Prop
  | sending (error : ForeignError) :
      Cut item [.send item.tx (.err error)] (.error (.internal "no signature"))
  | crashing (message : String) (unsigned : item.tx.firstSignature = none) :
      Cut item [.send item.tx (.panic message)] (.panic message)
  | transmitting {sig : Signature} {history : List EntryCall}
      (pending : Pending item sig history) :
      Cut item (history ++ [.transmit item.wire false]) (.error (.internal "failed to transmit"))
  | checking {sig : Signature} {history : List EntryCall} (pending : Pending item sig history)
      (error : ForeignError) :
      Cut item (history ++ [.transmit item.wire true, .check sig (.error error)])
        (.error (.internal "confirmation check failed"))

section Histories

variable {item : Item} {sig : Signature} {history : List EntryCall}

theorem Pending.kinds (pending : Pending item sig history) :
    ∃ pairs, history.map EntryCall.kind =
      .send :: (List.replicate pairs [CallKind.transmit, .check]).flatten := by
  induction pending with
  | sent => exact ⟨0, rfl⟩
  | unconfirmed _ ih =>
      obtain ⟨pairs, shape⟩ := ih
      refine ⟨pairs + 1, ?_⟩
      rw [List.map_append, shape, List.replicate_succ', List.flatten_append]
      simp [EntryCall.kind]

theorem Pending.firstSignature (pending : Pending item sig history) :
    item.tx.firstSignature = some sig := by
  induction pending with
  | sent isOwn => exact isOwn
  | unconfirmed _ ih => exact ih

theorem Pending.own (pending : Pending item sig history) :
    ∀ call ∈ history, call.IsOwn item := by
  have isOwn := pending.firstSignature
  induction pending with
  | sent => simp [EntryCall.IsOwn]
  | unconfirmed _ ih => simpa [or_imp, forall_and, EntryCall.IsOwn, isOwn] using ih

theorem Pending.not_confirmed (pending : Pending item sig history) (signature : Signature) :
    EntryCall.check signature (.ok true) ∉ history := by
  induction pending with
  | sent => simp
  | unconfirmed _ ih => simp [ih]

theorem Pending.send_mem_iff (pending : Pending item sig history) (tx : Transaction)
    (result : Outcome ForeignError Signature) :
    EntryCall.send tx result ∈ history ↔ tx = item.tx ∧ result = .ok sig := by
  induction pending with
  | sent => simp
  | unconfirmed _ ih => simp [ih]

theorem Life.send_mem_iff {inSystem : Bool} (life : Life item history (some sig) inSystem)
    (tx : Transaction) (result : Outcome ForeignError Signature) :
    EntryCall.send tx result ∈ history ↔ tx = item.tx ∧ result = .ok sig := by
  cases life with
  | pending pending => exact pending.send_mem_iff tx result
  | confirmed pending => simp [pending.send_mem_iff tx result]

/-- What comes after a pending history keeps the discipline when it continues
the pairs, is about the entry's own and ends at a check that answered true. -/
theorem Pending.discipline_append (pending : Pending item sig history) {rest : List EntryCall}
    (shape : rest.map EntryCall.kind <+: [.transmit, .check])
    (quiet : ∀ before signature after,
      rest = before ++ .check signature (.ok true) :: after → after = [])
    (own : ∀ call ∈ rest, call.IsOwn item) :
    CallDiscipline item (history ++ rest) := by
  obtain ⟨pairs, kinds⟩ := pending.kinds
  refine ⟨⟨pairs + 1, ?_⟩, fun before signature after split => ?_, fun call among => ?_⟩
  · rw [List.map_append, kinds, List.replicate_succ', List.flatten_append, List.cons_append]
    simpa using shape
  · obtain ⟨middle, early, rest_eq⟩ | ⟨middle, before_eq, rest_eq⟩ :=
      List.append_eq_append_iff.mp split
    · exact quiet middle signature after rest_eq
    · cases middle with
      | nil => exact quiet [] signature after (by simpa using rest_eq.symm)
      | cons call middle =>
          obtain ⟨rfl, _⟩ := List.cons_eq_cons.mp rest_eq
          exact absurd (by simp [before_eq]) (pending.not_confirmed signature)
  · rcases List.mem_append.mp among with isEarlier | isLater
    · exact pending.own call isEarlier
    · exact own call isLater

theorem Life.discipline {sig : Option Signature} {inSystem : Bool}
    (life : Life item history sig inSystem) : CallDiscipline item history := by
  cases life with
  | fresh => exact ⟨⟨0, List.nil_prefix⟩, by simp, by simp⟩
  | pending pending =>
      have disciplined : CallDiscipline item (history ++ []) :=
        pending.discipline_append List.nil_prefix (by simp) (by simp)
      rwa [List.append_nil] at disciplined
  | confirmed pending =>
      apply pending.discipline_append (List.prefix_refl _)
      · intro before signature after split
        match before, split with
        | [], split => simp at split
        | [_], split =>
            simpa using (List.cons_eq_cons.mp (List.cons_eq_cons.mp split).2).2.symm
        | _ :: _ :: _, split => simp at split
      · simp [EntryCall.IsOwn, pending.firstSignature]

/-- The one call of an entry whose sending failed. -/
theorem discipline_of_unsent {result : Outcome ForeignError Signature} :
    CallDiscipline item [.send item.tx result] := by
  refine ⟨⟨0, List.prefix_refl _⟩, fun before signature after split => ?_, by
    simp [EntryCall.IsOwn]⟩
  cases before <;> simp at split

theorem Cut.discipline {abort : Abort} (cut : Cut item history abort) :
    CallDiscipline item history := by
  cases cut with
  | sending error => exact discipline_of_unsent
  | crashing message unsigned => exact discipline_of_unsent
  | transmitting pending =>
      apply pending.discipline_append (by simp [EntryCall.kind])
      · intro before _ _ split
        cases before <;> simp at split
      · simp [EntryCall.IsOwn]
  | checking pending error =>
      apply pending.discipline_append (List.prefix_refl _)
      · intro before _ _ split
        match before, split with
        | [], split => simp at split
        | [_], split => simp at split
        | _ :: _ :: _, split => simp at split
      · simp [EntryCall.IsOwn, pending.firstSignature]

theorem Life.eq_nil_of_unsent {inSystem : Bool} (life : Life item history none inSystem) :
    history = [] := by
  cases life
  rfl

theorem Life.sig_isSome {sig : Option Signature} (life : Life item history sig true) :
    sig.isSome := by
  cases life
  rfl

end Histories

end RustHelper.Broadcast
