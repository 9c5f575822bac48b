import RustHelper.DexQueues
import RustHelper.SerumClient
import RustHelper.SmallestDistinct

/-!
# The accounts of the event crank

The crank lists the owners of the live events of the queue.  They are sorted,
each is listed once, and the list is cut to the 32 smallest.  So a crowded
queue may leave out any of them, the owner of the first event included.
-/

namespace RustHelper.SerumClient

open ByteBlocks Effect SmallestDistinct

/-- An event queue account whose header is in range: it may start right behind
its last event. -/
structure RingQueue (crates : Crates) where
  header : Block 32
  events : List (Block 88)
  slack : List UInt8
  nonempty : 0 < events.length
  headInRange : (crates.eventQueueHead header).toNat ≤ events.length
  countInRange : (crates.eventQueueCount header).toNat ≤ events.length
  short : slack.length < 88
  whole : (queueBody header events slack).length % 8 = 0

namespace RingQueue

variable {crates : Crates} (ring : RingQueue crates)

def head : Nat := (crates.eventQueueHead ring.header).toNat

def count : Nat := (crates.eventQueueCount ring.header).toNat

def bytes : List UInt8 := padded (queueBody ring.header ring.events ring.slack)

def live : List (Block 88) := Ring.contents ring.events ring.nonempty ring.head ring.count

/-- The owners of the live events, in queue order. -/
def owners : List Words4 := ring.live.map crates.eventOwner

@[simp] theorem length_owners : ring.owners.length = ring.count := by
  rw [owners, List.length_map, live, Ring.length_contents]

theorem count_eq_zero_iff : ring.count = 0 ↔ ring.owners.toFinset = ∅ := by
  rw [List.toFinset_eq_empty_iff, ← List.length_eq_zero_iff, length_owners]

end RingQueue

/-- An event queue account whose header is in range. -/
structure EventQueue (crates : Crates) where
  header : Block 32
  events : List (Block 88)
  slack : List UInt8
  headInRange : (crates.eventQueueHead header).toNat < events.length
  countInRange : (crates.eventQueueCount header).toNat ≤ events.length
  short : slack.length < 88
  whole : (queueBody header events slack).length % 8 = 0

namespace EventQueue

variable {crates : Crates} (queue : EventQueue crates)

def head : Nat := (crates.eventQueueHead queue.header).toNat

def count : Nat := (crates.eventQueueCount queue.header).toNat

def bytes : List UInt8 := padded (queueBody queue.header queue.events queue.slack)

theorem nonempty : 0 < queue.events.length := Nat.zero_lt_of_lt queue.headInRange

def live : List (Block 88) := Ring.contents queue.events queue.nonempty queue.head queue.count

def owners : List Words4 := queue.live.map crates.eventOwner

def ring : RingQueue crates where
  header := queue.header
  events := queue.events
  slack := queue.slack
  nonempty := queue.nonempty
  headInRange := queue.headInRange.le
  countInRange := queue.countInRange
  short := queue.short
  whole := queue.whole

/-- The owner of the event at ring position `head`. -/
def headOwner : Words4 :=
  crates.eventOwner (queue.events.get ⟨queue.head, queue.headInRange⟩)

theorem headOwner_mem_owners (pending : 1 ≤ queue.count) : queue.headOwner ∈ queue.owners :=
  List.mem_map_of_mem (Ring.head_mem_contents queue.nonempty queue.headInRange pending)

end EventQueue

section Accounts

theorem ordersAccounts_eq (owners : List Words4) :
    ordersAccounts owners = smallestDistinct 32 owners := rfl

/-- The accounts of the crank: open orders, then market, queue and wallets. -/
def crankAccounts (state : MarketPubkeys) (coinWallet pcWallet : Pubkey)
    (openOrders : List Pubkey) : List AccountMeta :=
  (openOrders ++ [state.market, state.eventQ, coinWallet, pcWallet]).map (AccountMeta.new · false)

def crankOpenOrders (owners : List Words4) : List Pubkey :=
  (ordersAccounts owners).map Words4.toPubkey

def crankOf (crates : Crates) (programId : Pubkey) (state : MarketPubkeys)
    (coinWallet pcWallet : Pubkey) (owners : List Words4) : Instruction :=
  let accounts := crankAccounts state coinWallet pcWallet (crankOpenOrders owners)
  ⟨programId, accounts, crates.pack (.consumeEvents (UInt16.ofNat accounts.length))⟩

theorem crankInstruction_eq (crates : Crates) (programId : Pubkey) (state : MarketPubkeys)
    (coinWallet pcWallet : Pubkey) (seg0 seg1 : List (Block 88)) :
    crankInstruction crates programId state coinWallet pcWallet seg0 seg1 =
      if seg0 ++ seg1 = [] then none
      else some (crankOf crates programId state coinWallet pcWallet
        ((seg0 ++ seg1).map crates.eventOwner)) := by
  have empty : seg0.length + seg1.length = 0 ↔ seg0 ++ seg1 = [] := by
    rw [← List.length_append, List.length_eq_zero_iff]
  unfold crankInstruction
  simp only [empty, crankOf, crankAccounts, crankOpenOrders, List.map_append, List.map_map,
    Function.comp_def]

/-- An owner is listed exactly when fewer than 32 distinct owners are below it. -/
theorem mem_crankOpenOrders (owners : List Words4) (owner : Words4) :
    owner.toPubkey ∈ crankOpenOrders owners ↔
      owner ∈ owners ∧ (owners.toFinset.filter (· < owner)).card < 32 := by
  rw [crankOpenOrders, List.mem_map_of_injective Words4.toPubkey_injective, ordersAccounts_eq,
    mem_smallestDistinct]

/-- What the crank selects: the smallest live owners, at most 32, each once. -/
structure ExactSelection (owners selected : List Words4) : Prop where
  ascending : selected.Pairwise (· < ·)
  distinct : (selected.map Words4.toPubkey).Nodup
  live : ∀ owner ∈ selected, owner ∈ owners
  length_eq : selected.length = min 32 owners.toFinset.card
  smallest : ∀ kept ∈ selected, ∀ other ∈ owners, other ∉ selected → kept < other
  complete : owners.toFinset.card ≤ 32 → ∀ owner ∈ owners, owner ∈ selected

theorem exactSelection_ordersAccounts (owners : List Words4) :
    ExactSelection owners (ordersAccounts owners) := by
  have ascending := pairwise_smallestDistinct 32 owners
  have nodup : (smallestDistinct 32 owners).Nodup := ascending.imp ne_of_lt
  rw [ordersAccounts_eq]
  constructor
  case ascending => exact ascending
  case distinct => exact nodup.map Words4.toPubkey_injective
  case live =>
    intro owner isKept
    exact ((mem_smallestDistinct 32 owners owner).mp isKept).1
  case length_eq => exact length_smallestDistinct 32 owners
  case smallest =>
    intro kept isKept other isLive leftOut
    exact lt_of_notMem_smallestDistinct isKept isLive leftOut
  case complete =>
    intro few owner isLive
    exact mem_smallestDistinct_of_few isLive few

/-- At most 36 accounts are listed, so their number fits the event limit. -/
theorem toNat_limit {owners selected : List Words4} (selection : ExactSelection owners selected)
    (state : MarketPubkeys) (coinWallet pcWallet : Pubkey) :
    (UInt16.ofNat (crankAccounts state coinWallet pcWallet
        (selected.map Words4.toPubkey)).length).toNat =
      (crankAccounts state coinWallet pcWallet (selected.map Words4.toPubkey)).length := by
  have few : selected.length ≤ 32 := selection.length_eq ▸ Nat.min_le_left _ _
  have length : (crankAccounts state coinWallet pcWallet
      (selected.map Words4.toPubkey)).length = selected.length + 4 := by
    simp [crankAccounts]
  rw [length, UInt16.toNat_ofNat']
  omega

theorem crankAccounts_writable {state : MarketPubkeys} {coinWallet pcWallet : Pubkey}
    {openOrders : List Pubkey} :
    ∀ account ∈ crankAccounts state coinWallet pcWallet openOrders,
      account.isWritable = true ∧ account.isSigner = false := by
  intro account isListed
  rcases List.mem_map.mp isListed with ⟨key, _, rfl⟩
  exact ⟨rfl, rfl⟩

/-- The crank depends on which owners are live, not on their order or number. -/
theorem crankOf_congr {owners others : List Words4} (same : owners.toFinset = others.toFinset)
    (crates : Crates) (programId : Pubkey) (state : MarketPubkeys)
    (coinWallet pcWallet : Pubkey) :
    crankOf crates programId state coinWallet pcWallet owners =
      crankOf crates programId state coinWallet pcWallet others := by
  have listed : crankOpenOrders owners = crankOpenOrders others := by
    rw [crankOpenOrders, crankOpenOrders, ordersAccounts_eq, ordersAccounts_eq,
      smallestDistinct_congr 32 same]
  rw [crankOf, crankOf, listed]

variable {crates : Crates} (queue : EventQueue crates) (programId : Pubkey)
  (state : MarketPubkeys) (coinWallet pcWallet : Pubkey)

theorem decodeCrankInstruction_ring (ring : RingQueue crates) (laws : crates.TransmuteLaws)
    (address : Nat) :
    decodeCrankInstruction crates programId state coinWallet pcWallet ⟨ring.bytes, address⟩ =
      .ok (if ring.count = 0 then none
        else some (crankOf crates programId state coinWallet pcWallet ring.owners)) := by
  have isPadded : (⟨ring.bytes, address⟩ : Buffer).bytes =
      padded (queueBody ring.header ring.events ring.slack) := rfl
  obtain ⟨cow, s0, s1, removed, parsed, contents, lengths⟩ :=
    decode_queueBody laws (by omega) ring.nonempty ring.whole ring.short ring.headInRange
      ring.countInRange isPadded
  have nothing : s0 ++ s1 = [] ↔ ring.count = 0 := by
    rw [← List.length_eq_zero_iff, List.length_append, lengths]
    rfl
  have live : (s0 ++ s1).map crates.eventOwner = ring.owners := by
    rw [contents]
    rfl
  unfold decodeCrankInstruction
  rw [removed, Outcome.ok_bind]
  change Outcome.bind (parseQueue crates 88 _ _ cow.words) _ = _
  rw [parsed]
  change Outcome.ok (crankInstruction crates programId state coinWallet pcWallet s0 s1) = _
  rw [crankInstruction_eq, live]
  simp only [nothing]

theorem decodeCrankInstruction_queue (laws : crates.TransmuteLaws) (address : Nat) :
    decodeCrankInstruction crates programId state coinWallet pcWallet ⟨queue.bytes, address⟩ =
      .ok (if queue.count = 0 then none
        else some (crankOf crates programId state coinWallet pcWallet queue.owners)) :=
  decodeCrankInstruction_ring programId state coinWallet pcWallet queue.ring laws address

theorem consumeEventsInstruction_outcome (rClient : ServiceMutex) (world : ServiceWorld) :
    (consumeEventsInstruction crates rClient programId state coinWallet pcWallet).outcome world 0 =
      Outcome.ofExcept AnyError.foreign (clusterReply world 1 (.getAccountData state.eventQ)) >>=
        decodeCrankInstruction crates programId state coinWallet pcWallet := by
  apply (Fallible.outcome_bind world 0 _ _).trans
  rw [outcome_locked_rpcTry]
  rfl

/-- The crank of a queue that the cluster returns. -/
theorem consumeEventsInstruction_ring (laws : crates.TransmuteLaws) (ring : RingQueue crates)
    (rClient : ServiceMutex) {world : ServiceWorld} {address : Nat}
    (answered : clusterReply world 1 (.getAccountData state.eventQ) =
      .ok ⟨ring.bytes, address⟩) :
    (consumeEventsInstruction crates rClient programId state coinWallet pcWallet).outcome world 0 =
      .ok (if ring.count = 0 then none
        else some (crankOf crates programId state coinWallet pcWallet ring.owners)) := by
  rw [consumeEventsInstruction_outcome, answered]
  exact decodeCrankInstruction_ring programId state coinWallet pcWallet ring laws address

end Accounts

/-- The crank of a queue without live events is no instruction.  Otherwise it
lists the smallest owners of live events, then the market's accounts, with as
many events as accounts; it is the same for every queue with these owners. -/
theorem consumeEventsInstruction_exact (crates : Crates) (laws : crates.TransmuteLaws)
    (ring : RingQueue crates) (rClient : ServiceMutex) (programId : Pubkey)
    (state : MarketPubkeys) (coinWallet pcWallet : Pubkey) (world : ServiceWorld) (address : Nat)
    (answered : clusterReply world 1 (.getAccountData state.eventQ) =
      .ok ⟨ring.bytes, address⟩) :
    let crank := consumeEventsInstruction crates rClient programId state coinWallet pcWallet
    (crank.outcome world 0 = .ok none ↔ ring.count = 0) ∧
    (ring.count ≠ 0 → ∃ selected limit accounts,
      crank.outcome world 0 = .ok (some
        { programId := programId
          accounts := accounts
          data := crates.pack (.consumeEvents limit) }) ∧
      accounts.map AccountMeta.pubkey = selected.map Words4.toPubkey ++
        [state.market, state.eventQ, coinWallet, pcWallet] ∧
      (∀ account ∈ accounts, account.isWritable = true ∧ account.isSigner = false) ∧
      ExactSelection ring.owners selected ∧
      limit.toNat = accounts.length) ∧
    ∀ (other : RingQueue crates) (otherWorld : ServiceWorld) (otherAddress : Nat),
      clusterReply otherWorld 1 (.getAccountData state.eventQ) =
        .ok ⟨other.bytes, otherAddress⟩ →
      other.owners.toFinset = ring.owners.toFinset →
      crank.outcome otherWorld 0 = crank.outcome world 0 := by
  intro crank
  have built := consumeEventsInstruction_ring programId state coinWallet pcWallet laws ring rClient
    answered
  refine ⟨?_, ?_, ?_⟩
  · rw [built]
    by_cases nothing : ring.count = 0
    · simp [nothing]
    · simp [nothing]
  · intro pending
    have selection := exactSelection_ordersAccounts ring.owners
    rw [if_neg pending] at built
    refine ⟨ordersAccounts ring.owners, _, _, built, ?_, crankAccounts_writable, selection,
      toNat_limit selection state coinWallet pcWallet⟩
    simp [crankAccounts, crankOpenOrders, AccountMeta.new, Function.comp_def]
  · intro other otherWorld otherAddress answeredOther sameOwners
    have builtOther := consumeEventsInstruction_ring programId state coinWallet pcWallet laws other
      rClient answeredOther
    have sameEmpty : other.count = 0 ↔ ring.count = 0 := by
      rw [other.count_eq_zero_iff, ring.count_eq_zero_iff, sameOwners]
    rw [builtOther, built, crankOf_congr sameOwners]
    simp only [sameEmpty]

/-- The crank of a queue with a live event lists the owner of the first one
exactly when fewer than 32 distinct owners of live events are below it; with at
most 32 distinct owners it always does. -/
theorem consumeEventsInstruction_head (crates : Crates) (laws : crates.TransmuteLaws)
    (queue : EventQueue crates) (pending : 1 ≤ queue.count) (rClient : ServiceMutex)
    (programId : Pubkey) (state : MarketPubkeys) (coinWallet pcWallet : Pubkey)
    (world : ServiceWorld) (address : Nat)
    (answered : clusterReply world 1 (.getAccountData state.eventQ) =
      .ok ⟨queue.bytes, address⟩) :
    ∃ instruction openOrders,
      (consumeEventsInstruction crates rClient programId state coinWallet pcWallet).outcome
          world 0 = .ok (some instruction) ∧
      instruction.accounts = crankAccounts state coinWallet pcWallet openOrders ∧
      (queue.headOwner.toPubkey ∈ openOrders ↔
        (queue.owners.toFinset.filter (· < queue.headOwner)).card < 32) ∧
      (queue.owners.toFinset.card ≤ 32 → queue.headOwner.toPubkey ∈ openOrders) := by
  have isLive := queue.headOwner_mem_owners pending
  have listed := mem_crankOpenOrders queue.owners queue.headOwner
  refine ⟨crankOf crates programId state coinWallet pcWallet queue.owners,
    crankOpenOrders queue.owners, ?_, rfl, ?_, fun few => listed.mpr ⟨isLive, ?_⟩⟩
  · rw [consumeEventsInstruction_outcome programId state coinWallet pcWallet rClient world,
      answered]
    change decodeCrankInstruction crates programId state coinWallet pcWallet _ = _
    rw [decodeCrankInstruction_queue queue programId state coinWallet pcWallet laws address,
      if_neg (by omega)]
  · rw [listed]
    exact and_iff_right isLive
  · exact ((mem_smallestDistinct 32 _ _).mp (mem_smallestDistinct_of_few isLive few)).2

section Instances

/-- A full queue whose first event belongs to the first of the given owners. -/
def fullQueue (owners : List Words4) (nonempty : 0 < owners.length)
    (small : owners.length < 2 ^ 64) : EventQueue referenceCrates where
  header := Reference.queueHeader 0 (UInt64.ofNat owners.length)
  events := owners.map Reference.eventOf
  slack := []
  headInRange := by simpa using nonempty
  countInRange := by
    have stored : (UInt64.ofNat owners.length).toNat = owners.length := by
      simpa using Nat.mod_eq_of_lt small
    simp [stored]
  short := by decide
  whole := by
    rw [length_queueBody]
    simp
    omega

variable (owners : List Words4) (nonempty : 0 < owners.length) (small : owners.length < 2 ^ 64)

theorem fullQueue_head : (fullQueue owners nonempty small).head = 0 := by
  simp [EventQueue.head, fullQueue]

theorem fullQueue_count : (fullQueue owners nonempty small).count = owners.length := by
  simpa [EventQueue.count, fullQueue] using Nat.mod_eq_of_lt small

theorem fullQueue_owners : (fullQueue owners nonempty small).owners = owners := by
  have full := Ring.contents_full (fullQueue owners nonempty small).nonempty
  have length : (fullQueue owners nonempty small).events.length = owners.length :=
    List.length_map _
  rw [length] at full
  rw [EventQueue.owners, EventQueue.live, fullQueue_head, fullQueue_count, full]
  simp [fullQueue, Function.comp_def]

theorem fullQueue_headOwner :
    (fullQueue owners nonempty small).headOwner = owners.get ⟨0, nonempty⟩ := by
  simp only [EventQueue.headOwner, fullQueue_head]
  simp [fullQueue]

/-- An environment in which every account has the given data. -/
def accountWorld (data : Buffer) : ServiceWorld := fun _ =>
  Replies.answer
    { rpc := fun
        | .getAccountData _ => .ok data
        | _ => .error ⟨"unavailable"⟩
      transmits := false
      elapsed := 0
      keypair := Reference.keypair
      random := 0
      signature := Reference.signature }

theorem consumeEventsInstruction_fullQueue (key : Pubkey) :
    ∃ instruction,
      (consumeEventsInstruction referenceCrates .dexRpc key (sameKeys key) key key).outcome
        (accountWorld ⟨(fullQueue owners nonempty small).bytes, 0⟩) 0 =
          .ok (some instruction) ∧
      instruction.accounts = crankAccounts (sameKeys key) key key (crankOpenOrders owners) := by
  have decoded := decodeCrankInstruction_queue (fullQueue owners nonempty small) key
    (sameKeys key) key key referenceCrates_transmuteLaws 0
  rw [fullQueue_count, if_neg (by omega), fullQueue_owners] at decoded
  refine ⟨crankOf referenceCrates key (sameKeys key) key key owners, ?_, rfl⟩
  rw [consumeEventsInstruction_outcome key (sameKeys key) key key .dexRpc]
  exact decoded

theorem consumeEventsInstruction_head_two_events :
    let queue := fullQueue [⟨7, 0, 0, 0⟩, ⟨7, 0, 0, 0⟩] (by decide) (by decide)
    let key := onesPubkey
    ∃ instruction openOrders,
      (consumeEventsInstruction referenceCrates .dexRpc key (sameKeys key) key key).outcome
        (accountWorld ⟨queue.bytes, 0⟩) 0 = .ok (some instruction) ∧
      instruction.accounts = crankAccounts (sameKeys key) key key openOrders ∧
      queue.headOwner.toPubkey ∈ openOrders := by
  intro queue key
  obtain ⟨instruction, openOrders, built, accounts, _, always⟩ :=
    consumeEventsInstruction_head referenceCrates referenceCrates_transmuteLaws queue
      (by rw [fullQueue_count]; decide) .dexRpc key (sameKeys key) key key
      (accountWorld ⟨queue.bytes, 0⟩) 0 rfl
  refine ⟨instruction, openOrders, built, accounts, always ?_⟩
  rw [fullQueue_owners]
  decide

/-- Two events of one owner give one open-orders account. -/
theorem consumeEventsInstruction_exact_two_events :
    let queue := fullQueue [⟨7, 0, 0, 0⟩, ⟨7, 0, 0, 0⟩] (by decide) (by decide)
    let key := onesPubkey
    ∃ instruction,
      (consumeEventsInstruction referenceCrates .dexRpc key (sameKeys key) key key).outcome
        (accountWorld ⟨queue.bytes, 0⟩) 0 = .ok (some instruction) ∧
      instruction.accounts.length = 5 := by
  intro queue key
  have owners : queue.ring.owners = [⟨7, 0, 0, 0⟩, ⟨7, 0, 0, 0⟩] :=
    fullQueue_owners [⟨7, 0, 0, 0⟩, ⟨7, 0, 0, 0⟩] (by decide) (by decide)
  have pending : queue.ring.count ≠ 0 := by
    rw [← RingQueue.length_owners, owners]
    decide
  obtain ⟨selected, limit, accounts, built, listed, _, selection, _⟩ :=
    (consumeEventsInstruction_exact referenceCrates referenceCrates_transmuteLaws queue.ring
      .dexRpc key (sameKeys key) key key (accountWorld ⟨queue.bytes, 0⟩) 0 rfl).2.1 pending
  have one : selected.length = 1 := by
    rw [selection.length_eq, owners]
    decide
  have lengths := congrArg List.length listed
  rw [List.length_map, List.length_append, List.length_map, one] at lengths
  exact ⟨_, built, lengths⟩

/-- Owners of 33 events; the first is the largest. -/
def crowdedOwners : List Words4 :=
  ⟨33, 0, 0, 0⟩ :: (List.range 32).map fun index => ⟨UInt64.ofNat (index + 1), 0, 0, 0⟩

/-- With 33 distinct owners and the first event's owner the largest of them, the
crank leaves out the account it must process first. -/
theorem consumeEventsInstruction_omits_head :
    let queue := fullQueue crowdedOwners (by decide) (by decide)
    let key := onesPubkey
    ∃ instruction openOrders,
      (consumeEventsInstruction referenceCrates .dexRpc key (sameKeys key) key key).outcome
        (accountWorld ⟨queue.bytes, 0⟩) 0 = .ok (some instruction) ∧
      instruction.accounts = crankAccounts (sameKeys key) key key openOrders ∧
      queue.headOwner.toPubkey ∉ openOrders := by
  intro queue key
  obtain ⟨instruction, built, accounts⟩ :=
    consumeEventsInstruction_fullQueue crowdedOwners (by decide) (by decide) key
  refine ⟨instruction, crankOpenOrders crowdedOwners, built, accounts, ?_⟩
  rw [fullQueue_headOwner, mem_crankOpenOrders]
  rintro ⟨_, few⟩
  have crowded : (crowdedOwners.toFinset.filter (· < crowdedOwners.get ⟨0, by decide⟩)).card =
      32 := by decide +kernel
  omega

end Instances

end RustHelper.SerumClient
