import RustHelper.EventCrank

/-!
# When decoding an account panics

The decoders return an error for most malformed accounts.  They panic on data
shorter than the head marker, on a queue whose header is cut off or out of
range, and on a market account that names another address.  Which slices can be
read as words is left to the conversion.
-/

namespace RustHelper.SerumClient

open ByteBlocks Effect

/-- The outcome is a value or an error, and an error if something was malformed. -/
structure Copes {α : Type} (outcome : Outcome AnyError α) (malformed : Prop) : Prop where
  noPanic : ¬ outcome.Panics
  refused : malformed → outcome.IsErr

theorem copes_err {α : Type} (error : AnyError) (malformed : Prop) :
    Copes (.err error : Outcome AnyError α) malformed := ⟨id, fun _ => trivial⟩

/-- A function that decodes what the node replies copes if it copes with the reply. -/
theorem copes_reply_iff {α β : Type} (translate : ForeignError → AnyError)
    (reply : Except ForeignError β) (decode : β → Outcome AnyError α) (malformed : β → Prop) :
    Copes (Outcome.ofExcept translate reply >>= decode)
        (∃ data, reply = .ok data ∧ malformed data) ↔
      ∀ data, reply = .ok data → Copes (decode data) (malformed data) := by
  cases reply with
  | error e => exact iff_of_true (copes_err _ _) nofun
  | ok data =>
      have replied (other : β) : Except.ok (ε := ForeignError) data = .ok other ↔ data = other :=
        Except.ok.injEq data other ▸ Iff.rfl
      simp only [replied, exists_eq_left', forall_eq']
      exact Iff.rfl

theorem padded_injective : Function.Injective padded := by
  intro first second same
  have cut := congrArg innerBytes same
  rwa [innerBytes_padded, innerBytes_padded] at cut

section Padding

variable {crates : Crates}

/-- A slice as words: viewed in place or, where that fails, copied. -/
def readWords (crates : Crates) (data : Buffer) : Except TransmuteError (List UInt64) :=
  match crates.transmuteManyPedantic data with
  | .ok words => .ok words
  | .error transmuteError => crates.transmuteCopy transmuteError

/-- The account data have both markers, and between them what reads as `words`. -/
def HoldsWords (crates : Crates) (data : Buffer) (words : List UInt64) : Prop :=
  ∃ inner, data.bytes = padded inner ∧
    readWords crates ⟨inner, data.address + accountHeadPadding.length⟩ = .ok words

theorem HoldsWords.unique {data : Buffer} {first second : List UInt64}
    (isFirst : HoldsWords crates data first) (isSecond : HoldsWords crates data second) :
    first = second := by
  rcases isFirst with ⟨inner, isPadded, reads⟩
  rcases isSecond with ⟨other, again, readsOther⟩
  have same : inner = other := padded_injective (isPadded.symm.trans again)
  subst same
  rw [reads] at readsOther
  cases readsOther
  rfl

/-- Either the data are too short, or they hold no words and are refused, or
they are cut to their words. -/
theorem removeDexAccountPadding_cases (crates : Crates) (data : Buffer) :
    (data.bytes.length < 5 ∧ (removeDexAccountPadding crates data).Panics) ∨
    (5 ≤ data.bytes.length ∧ (∀ words, ¬ HoldsWords crates data words) ∧
      (removeDexAccountPadding crates data).IsErr) ∨
    ∃ cow, removeDexAccountPadding crates data = .ok cow ∧
      HoldsWords crates data cow.words := by
  by_cases short : data.bytes.length < 5
  · left
    rw [removeDexAccountPadding_short short]
    exact ⟨short, trivial⟩
  have long : 5 ≤ data.bytes.length := not_lt.mp short
  right
  by_cases mismatch : ∀ inner, data.bytes ≠ padded inner
  · left
    have refused : (removeDexAccountPadding crates data).IsErr :=
      removeDexAccountPadding_not_padded long mismatch
    exact ⟨long, fun words ⟨inner, isPadded, _⟩ => mismatch inner isPadded, refused⟩
  rcases not_forall_not.mp mismatch with ⟨inner, isPadded⟩
  rw [removeDexAccountPadding_padded isPadded]
  have conversion : ∀ words, HoldsWords crates data words →
      readWords crates ⟨inner, data.address + 5⟩ = .ok words := by
    rintro words ⟨other, again, reads⟩
    rwa [padded_injective (isPadded.symm.trans again)]
  unfold readWords at conversion
  cases viewed : crates.transmuteManyPedantic ⟨inner, data.address + 5⟩ with
  | ok words =>
      right
      refine ⟨.borrowed words, rfl, inner, isPadded, ?_⟩
      change readWords crates ⟨inner, data.address + 5⟩ = .ok words
      rw [readWords, viewed]
  | error transmuteError =>
      rw [viewed] at conversion
      dsimp only at conversion ⊢
      cases copied : crates.transmuteCopy transmuteError with
      | ok words =>
          right
          refine ⟨.owned words, rfl, inner, isPadded, ?_⟩
          change readWords crates ⟨inner, data.address + 5⟩ = .ok words
          rw [readWords, viewed]
          exact copied
      | error error =>
          left
          refine ⟨long, fun words holds => ?_, trivial⟩
          have impossible := conversion words holds
          rw [copied] at impossible
          cases impossible

theorem removeDexAccountPadding_panics_iff (data : Buffer) :
    (removeDexAccountPadding crates data).Panics ↔ data.bytes.length < 5 := by
  rcases removeDexAccountPadding_cases crates data with
    ⟨short, panics⟩ | ⟨long, _, refused⟩ | ⟨cow, removed, inner, isPadded, _⟩
  · exact iff_of_true panics short
  · exact iff_of_false refused.not_panics (by omega)
  · rw [removed, isPadded, length_padded]
    exact iff_of_false id (by omega)

theorem removeDexAccountPadding_refused {data : Buffer} (long : 5 ≤ data.bytes.length)
    (noWords : ∀ words, ¬ HoldsWords crates data words) :
    (removeDexAccountPadding crates data).IsErr := by
  rcases removeDexAccountPadding_cases crates data with
    ⟨short, _⟩ | ⟨_, _, refused⟩ | ⟨cow, _, holds⟩
  · omega
  · exact refused
  · exact absurd holds (noWords cow.words)

theorem removeDexAccountPadding_eq_ok_iff (data : Buffer) (words : List UInt64) :
    (∃ cow, removeDexAccountPadding crates data = .ok cow ∧ cow.words = words) ↔
      HoldsWords crates data words := by
  rcases removeDexAccountPadding_cases crates data with
    ⟨short, panics⟩ | ⟨_, noWords, refused⟩ | ⟨found, isFound, holds⟩
  · apply iff_of_false
    · rintro ⟨cow, removed, _⟩
      rw [removed] at panics
      exact panics
    · rintro ⟨inner, isPadded, _⟩
      rw [isPadded, length_padded] at short
      omega
  · refine iff_of_false ?_ (noWords words)
    rintro ⟨cow, removed, _⟩
    exact refused.ne_ok cow removed
  · constructor
    · rintro ⟨cow, removed, rfl⟩
      rw [isFound] at removed
      cases removed
      exact holds
    · exact fun isWords => ⟨found, isFound, holds.unique isWords⟩

end Padding

section Queue

variable {crates : Crates} {size : Nat} {head count : Block 32 → UInt64}

theorem bytesOf_eq_append_iff {words : List UInt64} (enough : 4 ≤ words.length)
    (header : Block 32) (records : List UInt8) :
    bytesOf words = header.bytes ++ records ↔
      header = queueHeader words enough ∧ records = bytesOf (words.drop 4) := by
  have split : bytesOf words = (queueHeader words enough).bytes ++ bytesOf (words.drop 4) := by
    change bytesOf words = bytesOf (words.take 4) ++ bytesOf (words.drop 4)
    rw [← bytesOf_append, List.take_append_drop]
  rw [split]
  constructor
  · intro same
    have parts := List.append_inj same (by rw [Block.length_eq, Block.length_eq])
    exact ⟨Block.ext parts.1.symm, parts.2.symm⟩
  · rintro ⟨rfl, rfl⟩
    rfl

/-- The queue parser panics on a header that is cut off, and on one that has a
record behind it and is out of range. -/
theorem parseQueue_panics_iff (laws : crates.RecordLaws) (positive : 0 < size)
    (words : List UInt64) :
    (parseQueue crates size head count words).Panics ↔
      words.length < 4 ∨
      ∃ (header : Block 32) (records : List UInt8), bytesOf words = header.bytes ++ records ∧
        size ≤ records.length ∧
        ¬ ((head header).toNat ≤ records.length / size ∧
          (count header).toNat ≤ records.length / size) := by
  by_cases short : words.length < 4
  · rw [parseQueue_short short]
    exact iff_of_true trivial (.inl short)
  have enough : 4 ≤ words.length := not_lt.mp short
  have behind : (bytesOf (words.drop 4)).length = 8 * (words.length - 4) := by
    rw [length_bytesOf, List.length_drop]
  simp only [bytesOf_eq_append_iff enough, or_iff_right short]
  by_cases none : 8 * (words.length - 4) < size
  · apply iff_of_false (parseQueue_no_record laws enough none).not_panics
    rintro ⟨header, records, ⟨_, rfl⟩, fits, _⟩
    omega
  · rw [parseQueue_records laws enough positive (not_lt.mp none)]
    have capacity : (queueRecords size words).length =
        (bytesOf (words.drop 4)).length / size := length_wholeBlocks size _
    simp only [capacity]
    constructor
    · intro panics
      refine ⟨_, _, ⟨rfl, rfl⟩, by omega, ?_⟩
      rintro ⟨headInRange, countInRange⟩
      rw [if_pos headInRange, if_pos countInRange] at panics
      exact panics
    · rintro ⟨_, _, ⟨rfl, rfl⟩, _, outOfRange⟩
      split_ifs with headInRange countInRange
      · exact absurd ⟨headInRange, countInRange⟩ outOfRange
      · trivial
      · trivial

/-- The header's `head` and `count` are within the capacity of the records. -/
def WithinCapacity (crates : Crates) (header : Block 32) (records : List UInt8) : Prop :=
  (crates.eventQueueHead header).toNat ≤ records.length / eventSize ∧
    (crates.eventQueueCount header).toNat ≤ records.length / eventSize

/-- An event queue account on which the decoder does not panic: if the data hold
words, these contain a header, and a header with a record behind it is within
the capacity. -/
structure QueueInRange (crates : Crates) (data : Buffer) : Prop where
  long : 5 ≤ data.bytes.length
  headed : ∀ words, HoldsWords crates data words → 4 ≤ words.length
  inRange : ∀ words header records, HoldsWords crates data words →
    bytesOf words = header.bytes ++ records → eventSize ≤ records.length →
      WithinCapacity crates header records

theorem not_queueInRange_iff (data : Buffer) :
    ¬ QueueInRange crates data ↔
      data.bytes.length < 5 ∨ ∃ words, HoldsWords crates data words ∧
        (words.length < 4 ∨
          ∃ header records, bytesOf words = header.bytes ++ records ∧
            eventSize ≤ records.length ∧ ¬ WithinCapacity crates header records) := by
  constructor
  · intro broken
    by_contra safe
    rw [not_or, not_lt] at safe
    apply broken
    constructor
    case long => exact safe.1
    case headed =>
      intro words holds
      by_contra cutOff
      exact safe.2 ⟨words, holds, .inl (not_le.mp cutOff)⟩
    case inRange =>
      intro words header records holds laid fits
      by_contra outOfRange
      exact safe.2 ⟨words, holds, .inr ⟨header, records, laid, fits, outOfRange⟩⟩
  · rintro (short | ⟨words, holds, cutOff | ⟨header, records, laid, fits, outOfRange⟩⟩) safe
    · exact absurd safe.long (not_le.mpr short)
    · exact absurd (safe.headed words holds) (not_le.mpr cutOff)
    · exact outOfRange (safe.inRange words header records holds laid fits)

/-- Queue data without words, with too few words for a header, or with a header
beyond the capacity. -/
inductive MalformedQueue (crates : Crates) (data : Buffer) : Prop
  | noWords (none : ∀ words, ¬ HoldsWords crates data words)
  | cutOff {words : List UInt64} (holds : HoldsWords crates data words)
      (short : words.length < 4)
  | outOfRange {words : List UInt64} {header : Block 32} {records : List UInt8}
      (holds : HoldsWords crates data words) (laid : bytesOf words = header.bytes ++ records)
      (exceeds : ¬ WithinCapacity crates header records)

/-- Decode a queue account and use its header and events. -/
def decodeQueue {α : Type} (crates : Crates) (data : Buffer)
    (use : Block 32 × List (Block 88) × List (Block 88) → α) : Outcome AnyError α := do
  let inner ← removeDexAccountPadding crates data
  let parsed ← parseEventQueue crates inner.words
  .ok (use parsed)

variable {data : Buffer} {α : Type} (use : Block 32 × List (Block 88) × List (Block 88) → α)

theorem decodeQueue_panics_iff (laws : crates.RecordLaws) :
    (decodeQueue crates data use).Panics ↔ ¬ QueueInRange crates data := by
  have parsed (cow : CowWords) : (parseEventQueue crates cow.words).Panics ↔ _ :=
    parseQueue_panics_iff laws (show 0 < eventSize by decide) cow.words
  rw [not_queueInRange_iff, decodeQueue, Outcome.panics_bind_iff,
    removeDexAccountPadding_panics_iff]
  simp only [Outcome.panics_bind_iff, Outcome.not_panics_ok, and_false, exists_false, or_false,
    parsed, ← removeDexAccountPadding_eq_ok_iff]
  apply or_congr_right
  constructor
  · rintro ⟨cow, removed, outOfRange⟩
    exact ⟨cow.words, ⟨cow, removed, rfl⟩, outOfRange⟩
  · rintro ⟨_, ⟨cow, removed, rfl⟩, outOfRange⟩
    exact ⟨cow, removed, outOfRange⟩

theorem decodeQueue_refused (laws : crates.RecordLaws) (safe : QueueInRange crates data)
    (malformed : MalformedQueue crates data) : (decodeQueue crates data use).IsErr := by
  cases malformed with
  | noWords none => exact (removeDexAccountPadding_refused safe.long none).bind _
  | cutOff holds short => exact absurd (safe.headed _ holds) (not_le.mpr short)
  | @outOfRange words header records holds laid exceeds =>
      -- only a queue without a single record gets here
      have few : records.length < eventSize := by
        by_contra many
        exact exceeds (safe.inRange words header records holds laid (not_lt.mp many))
      have length : 8 * words.length = 32 + records.length := by
        have lengths := congrArg List.length laid
        rwa [length_bytesOf, List.length_append, Block.length_eq] at lengths
      rcases (removeDexAccountPadding_eq_ok_iff data words).mpr holds with ⟨cow, removed, rfl⟩
      have refused : (parseEventQueue crates cow.words).IsErr :=
        parseQueue_no_record laws (by omega) (by omega)
      unfold decodeQueue
      rw [removed]
      exact refused.bind _

/-- Decoding a queue account copes exactly with the accounts in range. -/
theorem decodeQueue_copes_iff (laws : crates.RecordLaws) :
    Copes (decodeQueue crates data use) (MalformedQueue crates data) ↔
      QueueInRange crates data := by
  have panics : (decodeQueue crates data use).Panics ↔ _ := decodeQueue_panics_iff use laws
  constructor
  · intro copes
    exact not_not.mp (mt panics.mpr copes.noPanic)
  · intro safe
    exact ⟨mt panics.mp (not_not.mpr safe), decodeQueue_refused use laws safe⟩

theorem decodeCrankInstruction_copes_iff (laws : crates.RecordLaws) (programId : Pubkey)
    (state : MarketPubkeys) (coinWallet pcWallet : Pubkey) (data : Buffer) :
    Copes (decodeCrankInstruction crates programId state coinWallet pcWallet data)
        (MalformedQueue crates data) ↔
      QueueInRange crates data :=
  decodeQueue_copes_iff (fun parsed =>
    crankInstruction crates programId state coinWallet pcWallet parsed.2.1 parsed.2.2) laws

theorem decodeQueueLength_copes_iff (laws : crates.RecordLaws) (data : Buffer) :
    Copes (decodeQueueLength crates data) (MalformedQueue crates data) ↔
      QueueInRange crates data :=
  decodeQueue_copes_iff (fun _ => ()) laws

theorem EventQueue.inRange (laws : crates.TransmuteLaws) (queue : EventQueue crates)
    (address : Nat) : QueueInRange crates ⟨queue.bytes, address⟩ := by
  have body : queueBody queue.header queue.events queue.slack ≠ [] := by
    apply List.ne_nil_of_length_pos
    rw [length_queueBody]
    omega
  have isPadded : (⟨queue.bytes, address⟩ : Buffer).bytes = padded _ := rfl
  rcases removeDexAccountPadding_words laws isPadded body queue.whole with ⟨cow, removed, isWords⟩
  have holds : HoldsWords crates ⟨queue.bytes, address⟩ cow.words :=
    (removeDexAccountPadding_eq_ok_iff _ _).mp ⟨cow, removed, rfl⟩
  constructor
  case long =>
    change 5 ≤ (padded _).length
    rw [length_padded]
    omega
  case headed =>
    intro words other
    rw [other.unique holds, isWords, length_wordsOf, length_queueBody]
    omega
  case inRange =>
    intro words header records other laid _
    rw [other.unique holds, isWords, bytesOf_wordsOf queue.whole, queueBody,
      List.append_assoc] at laid
    have parts := List.append_inj laid (by rw [Block.length_eq, Block.length_eq])
    have capacity : queue.events.length ≤ records.length / eventSize := by
      rw [← parts.2, List.length_append, length_joined, eventSize]
      omega
    rw [← Block.ext parts.1]
    exact ⟨queue.headInRange.le.trans capacity, queue.countInRange.trans capacity⟩

end Queue

section Market

variable {crates : Crates} {programId market : Pubkey}

/-- The market state an account stores, in the version that its flags select. -/
inductive StoresMarket (crates : Crates) (data : Buffer) : MarketState → Prop
  | permissioned {words : List UInt64} {flags : AccountFlags} {state : MarketStateV2}
      (holds : HoldsWords crates data words) (hasFlags : crates.accountFlags data.bytes = .ok flags)
      (version : flags.permissioned = true)
      (read : crates.transmuteMarketStateV2 (bytesOf words) = .ok state)
      (checked : crates.checkFlagsV2 state true = .ok ()) : StoresMarket crates data state.inner
  | plain {words : List UInt64} {flags : AccountFlags} {state : MarketState}
      (holds : HoldsWords crates data words) (hasFlags : crates.accountFlags data.bytes = .ok flags)
      (version : flags.permissioned = false)
      (read : crates.transmuteMarketState (bytesOf words) = .ok state)
      (checked : crates.checkFlags state true = .ok ()) : StoresMarket crates data state

theorem StoresMarket.holdsWords {data : Buffer} {state : MarketState}
    (stores : StoresMarket crates data state) : ∃ words, HoldsWords crates data words := by
  cases stores with
  | permissioned holds _ _ _ _ => exact ⟨_, holds⟩
  | plain holds _ _ _ _ => exact ⟨_, holds⟩

/-- A market account on which the decoder does not panic: a market that it
stores, and that has a vault signer, names the address it was read from. -/
structure MarketInPlace (crates : Crates) (programId market : Pubkey) (data : Buffer) :
    Prop where
  long : 5 ≤ data.bytes.length
  own : ∀ state vaultSignerKey, StoresMarket crates data state →
    crates.genVaultSignerKey state.vaultSignerNonce market programId = .ok vaultSignerKey →
      bytesOf state.ownAddress.toList = market.bytes

/-- The account stores a market, with a vault signer, that names another address. -/
def StoresForeignMarket (crates : Crates) (programId market : Pubkey) (data : Buffer) : Prop :=
  ∃ state vaultSignerKey, StoresMarket crates data state ∧
    crates.genVaultSignerKey state.vaultSignerNonce market programId = .ok vaultSignerKey ∧
    bytesOf state.ownAddress.toList ≠ market.bytes

theorem not_marketInPlace_iff {data : Buffer} :
    ¬ MarketInPlace crates programId market data ↔
      data.bytes.length < 5 ∨ StoresForeignMarket crates programId market data := by
  constructor
  · intro broken
    by_contra safe
    rw [not_or, not_lt] at safe
    apply broken
    constructor
    case long => exact safe.1
    case own =>
      intro state vaultSignerKey stores derived
      by_contra foreign
      exact safe.2 ⟨state, vaultSignerKey, stores, derived, foreign⟩
  · rintro (short | ⟨state, vaultSignerKey, stores, derived, foreign⟩) safe
    · exact absurd safe.long (not_le.mpr short)
    · exact foreign (safe.own state vaultSignerKey stores derived)

theorem not_panics_readMarketState (accountFlags : AccountFlags) (words : List UInt64) :
    ¬ (readMarketState crates accountFlags words).Panics := by
  unfold readMarketState
  split_ifs <;> simp [Outcome.panics_bind_iff]

theorem storesMarket_iff {data : Buffer} {words : List UInt64}
    (holds : HoldsWords crates data words) (state : MarketState) :
    StoresMarket crates data state ↔
      ∃ accountFlags, crates.accountFlags data.bytes = .ok accountFlags ∧
        readMarketState crates accountFlags words = .ok state := by
  unfold readMarketState
  constructor
  · rintro (⟨again, hasFlags, version, read, checked⟩ | ⟨again, hasFlags, version, read, checked⟩)
    all_goals
      cases holds.unique again
      refine ⟨_, hasFlags, ?_⟩
      simp [version, read, checked, Outcome.ofExcept]
  · rintro ⟨accountFlags, hasFlags, isRead⟩
    split_ifs at isRead with version
    · simp only [Outcome.bind_eq_ok_iff, Outcome.ofExcept_eq_ok_iff] at isRead
      rcases isRead with ⟨stateV2, read, _, checked, returned⟩
      cases returned
      exact .permissioned holds hasFlags version read checked
    · simp only [Outcome.bind_eq_ok_iff, Outcome.ofExcept_eq_ok_iff] at isRead
      rcases isRead with ⟨_, read, _, checked, returned⟩
      cases returned
      exact .plain holds hasFlags (Bool.eq_false_iff.mpr version) read checked

/-- What the service reads of a market account is what the account stores. -/
theorem storesMarket_iff_reads {data : Buffer} {state : MarketState} :
    StoresMarket crates data state ↔
      ∃ cow, removeDexAccountPadding crates data = .ok cow ∧
        ∃ accountFlags, crates.accountFlags data.bytes = .ok accountFlags ∧
          readMarketState crates accountFlags cow.words = .ok state := by
  constructor
  · intro stores
    rcases stores.holdsWords with ⟨words, holds⟩
    rcases (removeDexAccountPadding_eq_ok_iff data words).mpr holds with ⟨cow, removed, rfl⟩
    exact ⟨cow, removed, (storesMarket_iff holds state).mp stores⟩
  · rintro ⟨cow, removed, reads⟩
    have holds := (removeDexAccountPadding_eq_ok_iff data cow.words).mp ⟨cow, removed, rfl⟩
    exact (storesMarket_iff holds state).mpr reads

/-- Decoding a market account panics exactly when the account is not in place. -/
theorem decodeMarketKeys_panics_iff (data : Buffer) :
    (decodeMarketKeys crates programId market data).Panics ↔
      ¬ MarketInPlace crates programId market data := by
  rw [not_marketInPlace_iff, decodeMarketKeys, Outcome.panics_bind_iff,
    removeDexAccountPadding_panics_iff]
  simp only [Outcome.panics_bind_iff, Outcome.not_panics_ofExcept, Outcome.ofExcept_eq_ok_iff,
    not_panics_readMarketState, false_or]
  apply or_congr_right
  constructor
  · rintro ⟨cow, removed, accountFlags, hasFlags, state, read, vaultSignerKey, derived, panics⟩
    have stores := storesMarket_iff_reads.mpr ⟨cow, removed, accountFlags, hasFlags, read⟩
    have foreign : bytesOf state.ownAddress.toList ≠ market.bytes := by
      intro own
      rw [if_pos own] at panics
      exact panics
    exact ⟨state, vaultSignerKey, stores, derived, foreign⟩
  · rintro ⟨state, vaultSignerKey, stores, derived, foreign⟩
    rcases storesMarket_iff_reads.mp stores with ⟨cow, removed, accountFlags, hasFlags, read⟩
    refine ⟨cow, removed, accountFlags, hasFlags, state, read, vaultSignerKey, derived, ?_⟩
    rw [if_neg foreign]
    trivial

/-- Market data without words, or with a market of another address. -/
def MalformedMarket (crates : Crates) (programId market : Pubkey) (data : Buffer) : Prop :=
  (∀ words, ¬ HoldsWords crates data words) ∨ StoresForeignMarket crates programId market data

theorem decodeMarketKeys_copes_iff (data : Buffer) :
    Copes (decodeMarketKeys crates programId market data)
        (MalformedMarket crates programId market data) ↔
      MarketInPlace crates programId market data := by
  have panics : (decodeMarketKeys crates programId market data).Panics ↔ _ :=
    decodeMarketKeys_panics_iff data
  constructor
  · intro copes
    exact not_not.mp (mt panics.mpr copes.noPanic)
  · intro safe
    refine ⟨mt panics.mp (not_not.mpr safe), ?_⟩
    rintro (noWords | foreign)
    · exact (removeDexAccountPadding_refused safe.long noWords).bind _
    · exact absurd safe (not_marketInPlace_iff.mpr (.inr foreign))

theorem decodeMarketKeys_eq_ok_iff (data : Buffer) (keys : MarketPubkeys) :
    decodeMarketKeys crates programId market data = .ok keys ↔
      ∃ state vaultSignerKey, StoresMarket crates data state ∧
        crates.genVaultSignerKey state.vaultSignerNonce market programId = .ok vaultSignerKey ∧
        bytesOf state.ownAddress.toList = market.bytes ∧
        keys = marketKeysOf market state vaultSignerKey := by
  simp only [decodeMarketKeys, Outcome.bind_eq_ok_iff, Outcome.ofExcept_eq_ok_iff]
  constructor
  · rintro ⟨cow, removed, accountFlags, hasFlags, state, read, vaultSignerKey, derived, returned⟩
    have stores := storesMarket_iff_reads.mpr ⟨cow, removed, accountFlags, hasFlags, read⟩
    split_ifs at returned with own
    cases returned
    exact ⟨state, vaultSignerKey, stores, derived, own, rfl⟩
  · rintro ⟨state, vaultSignerKey, stores, derived, own, rfl⟩
    rcases storesMarket_iff_reads.mp stores with ⟨cow, removed, accountFlags, hasFlags, read⟩
    refine ⟨cow, removed, accountFlags, hasFlags, state, read, vaultSignerKey, derived, ?_⟩
    rw [if_pos own]

end Market

section Requests

variable {crates : Crates} (rClient : ServiceMutex) (programId market : Pubkey)

theorem getKeysForMarket_outcome (world : ServiceWorld) (clock : Nat) :
    (getKeysForMarket crates rClient programId market).outcome world clock =
      Outcome.ofExcept (fun e => .message e.display)
          (clusterReply world (clock + 1) (.getAccountData market)) >>=
        decodeMarketKeys crates programId market := by
  have answered : (rpc (.getAccountData market) : Svc AnyError _).outcome world (clock + 1) =
      .ok (clusterReply world (clock + 1) (.getAccountData market)) := rfl
  apply (Fallible.outcome_withGuard world clock).trans
  apply (Fallible.outcome_bind world (clock + 1) _ _).trans
  rw [answered]
  cases clusterReply world (clock + 1) (.getAccountData market) <;> rfl

/-- Reading the market takes three operations: lock, request and unlock. -/
theorem getKeysForMarket_length_events (crates : Crates) :
    (getKeysForMarket crates rClient programId market).Ensures fun _ trace =>
      trace.length = 3 := by
  apply Fallible.ensures_withGuard.mpr
  intro _
  apply Fallible.ensures_bind.mpr
  intro reply
  cases reply with
  | ok data => exact fun _ => rfl
  | error e => exact fun _ => rfl

/-- `read_queue_length_loop_single`, from the reply about the queue account on. -/
def queueLengthOf (crates : Crates) :
    Except ForeignError (Option Buffer) → Outcome AnyError Unit
  | .ok (some data) => decodeQueueLength crates data
  | .ok none => .err (.message "no value")
  | .error e => .err (.foreign e)

theorem readQueueLengthLoopSingle_outcome (world : ServiceWorld) :
    (readQueueLengthLoopSingle crates rClient programId market).outcome world 0 =
      (getKeysForMarket crates rClient programId market).outcome world 0 >>= fun keys =>
        queueLengthOf crates
          (clusterReply world 4 (.getAccountWithCommitment keys.eventQ .processed)) := by
  have second := (getKeysForMarket_length_events rClient programId market crates).sound world 0
  refine (Fallible.outcome_bind world 0 _ _).trans (congrArg _ (funext fun keys => ?_))
  rw [second, outcome_locked_rpcTry_bind]
  simp only [Nat.reduceAdd]
  rcases clusterReply world 4 (.getAccountWithCommitment keys.eventQ .processed) with
    e | none | data <;> rfl

/-- The event queue of the stored market, as the node returns it. -/
def ReadsQueue (crates : Crates) (programId market : Pubkey) (world : ServiceWorld)
    (queueData : Buffer) : Prop :=
  ∃ data state vaultSignerKey, clusterReply world 1 (.getAccountData market) = .ok data ∧
    StoresMarket crates data state ∧
    crates.genVaultSignerKey state.vaultSignerNonce market programId = .ok vaultSignerKey ∧
    clusterReply world 4 (.getAccountWithCommitment state.eventQ.toPubkey .processed) =
      .ok (some queueData)

/-- The queue that is read is the one of the decoded market. -/
theorem readsQueue_iff {world : ServiceWorld} {data : Buffer}
    (answered : clusterReply world 1 (.getAccountData market) = .ok data)
    (safe : MarketInPlace crates programId market data) (queueData : Buffer) :
    ReadsQueue crates programId market world queueData ↔
      ∃ keys, decodeMarketKeys crates programId market data = .ok keys ∧
        clusterReply world 4 (.getAccountWithCommitment keys.eventQ .processed) =
          .ok (some queueData) := by
  simp only [decodeMarketKeys_eq_ok_iff]
  constructor
  · rintro ⟨other, state, vaultSignerKey, replied, stores, derived, queue⟩
    cases answered.symm.trans replied
    exact ⟨_, ⟨state, vaultSignerKey, stores, derived, safe.own state vaultSignerKey stores derived,
      rfl⟩, queue⟩
  · rintro ⟨_, ⟨state, vaultSignerKey, stores, derived, _, rfl⟩, queue⟩
    exact ⟨data, state, vaultSignerKey, answered, stores, derived, queue⟩

/-- Reading the queue length copes with a market in place if it copes with the
queue of that market. -/
theorem queueLengthOf_copes_iff (laws : crates.RecordLaws) {world : ServiceWorld}
    {data : Buffer} (answered : clusterReply world 1 (.getAccountData market) = .ok data)
    (safe : MarketInPlace crates programId market data) :
    Copes (decodeMarketKeys crates programId market data >>= fun keys =>
          queueLengthOf crates
            (clusterReply world 4 (.getAccountWithCommitment keys.eventQ .processed)))
        (MalformedMarket crates programId market data ∨
          ∃ queueData, ReadsQueue crates programId market world queueData ∧
            MalformedQueue crates queueData) ↔
      ∀ queueData, ReadsQueue crates programId market world queueData →
        QueueInRange crates queueData := by
  have copes := (decodeMarketKeys_copes_iff data).mpr safe
  simp only [readsQueue_iff programId market answered safe]
  cases decoded : decodeMarketKeys crates programId market data with
  | err error => exact iff_of_true (copes_err _ _) fun _ ⟨_, found, _⟩ => nomatch found
  | panic message =>
      rw [decoded] at copes
      exact absurd trivial copes.noPanic
  | ok keys =>
      rw [decoded] at copes
      have wellFormed : ¬ MalformedMarket crates programId market data := copes.refused
      simp only [Outcome.ok_bind, wellFormed, false_or, Outcome.ok.injEq, exists_eq_left']
      generalize clusterReply world 4 (.getAccountWithCommitment keys.eventQ .processed) = reply
      match reply with
      | .error e => exact iff_of_true (copes_err _ _) nofun
      | .ok none => exact iff_of_true (copes_err _ _) nofun
      | .ok (some queueData) =>
          simp only [Except.ok.injEq, Option.some.injEq, exists_eq_left', forall_eq']
          exact decodeQueueLength_copes_iff laws queueData

/-- The accounts that the service reads for the length of a queue are in place. -/
structure QueueLengthInPlace (crates : Crates) (programId market : Pubkey)
    (world : ServiceWorld) : Prop where
  marketInPlace : ∀ data, clusterReply world 1 (.getAccountData market) = .ok data →
    MarketInPlace crates programId market data
  queueInRange : ∀ queueData, ReadsQueue crates programId market world queueData →
    QueueInRange crates queueData

theorem readQueueLengthLoopSingle_copes_iff (laws : crates.RecordLaws)
    (world : ServiceWorld) :
    Copes ((readQueueLengthLoopSingle crates rClient programId market).outcome world 0)
        ((∃ data, clusterReply world 1 (.getAccountData market) = .ok data ∧
            MalformedMarket crates programId market data) ∨
          ∃ queueData, ReadsQueue crates programId market world queueData ∧
            MalformedQueue crates queueData) ↔
      QueueLengthInPlace crates programId market world := by
  rw [readQueueLengthLoopSingle_outcome, getKeysForMarket_outcome]
  cases answered : clusterReply world 1 (.getAccountData market) with
  | error e =>
      have unread (queueData : Buffer) :
          ¬ ReadsQueue crates programId market world queueData := by
        rintro ⟨data, _, _, replied, _⟩
        cases answered.symm.trans replied
      apply iff_of_true (copes_err _ _)
      constructor
      case marketInPlace =>
        intro data replied
        cases answered.symm.trans replied
      case queueInRange =>
        intro queueData reads
        exact absurd reads (unread queueData)
  | ok data =>
      simp only [Except.ok.injEq, exists_eq_left']
      by_cases safe : MarketInPlace crates programId market data
      · have isMarket : ∀ other, clusterReply world 1 (.getAccountData market) = .ok other →
            MarketInPlace crates programId market other := by
          intro other replied
          cases answered.symm.trans replied
          exact safe
        apply (queueLengthOf_copes_iff programId market laws answered safe).trans
        exact ⟨fun inRange => ⟨isMarket, inRange⟩, fun inPlace => inPlace.queueInRange⟩
      · have decoding := (decodeMarketKeys_panics_iff data).mpr safe
        apply iff_of_false
        · exact fun copes => copes.noPanic (Outcome.panics_bind_iff.mpr (.inl decoding))
        · exact fun inPlace => safe (inPlace.marketInPlace data answered)

end Requests

/-- Reading market keys, the accounts of the crank and the length of a queue
return a value or an error, an error for malformed accounts, exactly when the
accounts that the node returns are in place. -/
theorem accountDecoding_exact (crates : Crates) (laws : crates.RecordLaws)
    (rClient : ServiceMutex) (programId market : Pubkey) (state : MarketPubkeys)
    (coinWallet pcWallet : Pubkey) (world : ServiceWorld) :
    (Copes ((getKeysForMarket crates rClient programId market).outcome world 0)
        (∃ data, clusterReply world 1 (.getAccountData market) = .ok data ∧
          MalformedMarket crates programId market data) ↔
      ∀ data, clusterReply world 1 (.getAccountData market) = .ok data →
        MarketInPlace crates programId market data) ∧
    (Copes ((consumeEventsInstruction crates rClient programId state coinWallet
          pcWallet).outcome world 0)
        (∃ data, clusterReply world 1 (.getAccountData state.eventQ) = .ok data ∧
          MalformedQueue crates data) ↔
      ∀ data, clusterReply world 1 (.getAccountData state.eventQ) = .ok data →
        QueueInRange crates data) ∧
    (Copes ((readQueueLengthLoopSingle crates rClient programId market).outcome world 0)
        ((∃ data, clusterReply world 1 (.getAccountData market) = .ok data ∧
            MalformedMarket crates programId market data) ∨
          ∃ queueData, ReadsQueue crates programId market world queueData ∧
            MalformedQueue crates queueData) ↔
      QueueLengthInPlace crates programId market world) := by
  refine ⟨?_, ?_, ?_⟩
  · rw [getKeysForMarket_outcome, copes_reply_iff]
    exact forall₂_congr fun data _ => decodeMarketKeys_copes_iff data
  · rw [consumeEventsInstruction_outcome, copes_reply_iff]
    exact forall₂_congr fun data _ =>
      decodeCrankInstruction_copes_iff laws programId state coinWallet pcWallet data
  · exact readQueueLengthLoopSingle_copes_iff rClient programId market laws world

/-- The account of a queue of two events is decoded without a panic. -/
theorem accountDecoding_exact_two_events :
    let queue := fullQueue [⟨7, 0, 0, 0⟩, ⟨7, 0, 0, 0⟩] (by decide) (by decide)
    let key := onesPubkey
    ¬ ((consumeEventsInstruction referenceCrates .dexRpc key (sameKeys key) key key).outcome
      (accountWorld ⟨queue.bytes, 0⟩) 0).Panics := by
  intro queue key
  have exactly := accountDecoding_exact referenceCrates
    referenceCrates_transmuteLaws.toRecordLaws .dexRpc key key (sameKeys key) key key
    (accountWorld ⟨queue.bytes, 0⟩)
  refine (exactly.2.1.mpr fun data replied => ?_).noPanic
  cases replied
  exact queue.inRange referenceCrates_transmuteLaws 0

/-- An account without data is sliced before its length is tested. -/
theorem accountDecoding_panics_on_empty :
    let key := onesPubkey
    let world := accountWorld ⟨[], 0⟩
    ((getKeysForMarket referenceCrates .dexRpc key key).outcome world 0).Panics ∧
      ((consumeEventsInstruction referenceCrates .dexRpc key (sameKeys key) key key).outcome
        world 0).Panics ∧
      ((readQueueLengthLoopSingle referenceCrates .dexRpc key key).outcome world 0).Panics := by
  refine ⟨?_, ?_, ?_⟩
  · exact trivial
  · exact trivial
  · exact trivial

end RustHelper.SerumClient
