import RustHelper.SerumClient
import RustHelper.ReferenceCrates

/-!
# The open-orders slot of the order set-up

Setting up an account and placing an order fill the caller's slot as soon as the
open-orders account is known, and go on.  So a later failure leaves the key of
an account that was never created, and the slot is only untouched when it was
filled before or when the account could not be prepared.
-/

namespace RustHelper.SerumClient

open Effect

section Traces

/-- The key pairs generated in a run. -/
def generatedKeys (events : List ServiceEvent) : List Keypair :=
  events.filterMap fun
    | ⟨ServiceOp.generateKeypair, key⟩ => some key
    | _ => none

/-- The query for the rent exemption, made while an account is prepared, failed. -/
def RentQueryFailed (events : List ServiceEvent) : Prop :=
  ∃ size error, (⟨ServiceOp.rpc (.getMinimumBalanceForRentExemption size), .error error⟩ :
    ServiceEvent) ∈ events

/-- An event of the steps after an account is prepared. -/
def AfterPreparation : ServiceEvent → Prop
  | ⟨ServiceOp.generateKeypair, _⟩ => False
  | ⟨ServiceOp.rpc (.getMinimumBalanceForRentExemption _), _⟩ => False
  | _ => True

variable {first second : List ServiceEvent}

theorem generatedKeys_append :
    generatedKeys (first ++ second) = generatedKeys first ++ generatedKeys second :=
  List.filterMap_append

theorem generatedKeys_after (after : ∀ event ∈ second, AfterPreparation event) :
    generatedKeys second = [] := by
  rw [generatedKeys, List.filterMap_eq_nil_iff]
  rintro ⟨op, answer⟩ isEvent
  have isAfter := after _ isEvent
  cases op with
  | generateKeypair => exact isAfter.elim
  | _ => rfl

theorem rentQueryFailed_append (after : ∀ event ∈ second, AfterPreparation event) :
    RentQueryFailed (first ++ second) ↔ RentQueryFailed first := by
  constructor
  · rintro ⟨size, error, isEvent⟩
    rcases List.mem_append.mp isEvent with early | late
    · exact ⟨size, error, early⟩
    · exact (after _ late).elim
  · rintro ⟨size, error, isEvent⟩
    exact ⟨size, error, List.mem_append_left _ isEvent⟩

end Traces

section SetUp

variable (crates : Crates) (rClient : ServiceMutex)

/-- The common shape of both functions: find or prepare the account, fill the
slot, and build the transaction. -/
def setUp (programId payer : Pubkey)
    (build : Pubkey → List Keypair → List Instruction → Svc AnyError (List UInt8)) :
    InOut service.toInterface (Option Pubkey) AnyError (List UInt8) := do
  let (ordersPubkey, signers, instructions) ← ordersOrNew crates rClient programId payer
  InOut.assign (some ordersPubkey)
  InOut.lift (build ordersPubkey signers instructions)

/-- The steps of `init_open_orders` after the slot is filled. -/
def buildInit (programId : Pubkey) (owner : Keypair) (state : MarketPubkeys)
    (ordersPubkey : Pubkey) (signers : List Keypair) (instructions : List Instruction) :
    Svc AnyError (List UInt8) := do
  let instruction ← tryForeign
    (crates.initOpenOrdersIx programId ordersPubkey owner.pubkey state.market none)
  let recentHash ← Rpcnb.getLatestBlockhash rClient
  let txn ← newSignedWithPayer (instructions ++ [instruction]) (some owner.pubkey)
    (signers ++ [owner]) recentHash
  tryForeign (crates.serialize txn)

/-- The instruction of `place_order`. -/
def orderInstruction (programId : Pubkey) (payer : Keypair) (wallet : Pubkey)
    (state : MarketPubkeys) (newOrder : NewOrderInstructionV3) (ordersPubkey : Pubkey) :
    Instruction where
  programId := programId
  data := crates.pack (.newOrderV3 newOrder)
  accounts :=
    [ .new state.market false,
      .new ordersPubkey false,
      .new state.reqQ false,
      .new state.eventQ false,
      .new state.bids false,
      .new state.asks false,
      .new wallet false,
      .newReadonly payer.pubkey true,
      .new state.coinVault false,
      .new state.pcVault false,
      .newReadonly crates.splToken false,
      .newReadonly crates.rentSysvar false ]

/-- The steps of `place_order` after the slot is filled. -/
def buildOrder (payer : Keypair) (instruction : Pubkey → Instruction) (ordersPubkey : Pubkey)
    (signers : List Keypair) (instructions : List Instruction) : Svc AnyError (List UInt8) := do
  let recentHash ← Rpcnb.getLatestBlockhash rClient
  let txn ← newSignedWithPayer (instructions ++ [instruction ordersPubkey]) (some payer.pubkey)
    (signers ++ [payer]) recentHash
  serialized crates txn

theorem initOpenOrders_eq (programId : Pubkey) (owner : Keypair) (state : MarketPubkeys) :
    initOpenOrders crates rClient programId owner state =
      setUp crates rClient programId owner.pubkey
        (buildInit crates rClient programId owner state) := by
  simp only [initOpenOrders, setUp, buildInit, InOut.lift_bind]

theorem placeOrder_eq (programId : Pubkey) (payer : Keypair) (wallet : Pubkey)
    (state : MarketPubkeys) (newOrder : NewOrderInstructionV3) :
    placeOrder crates rClient programId payer wallet state newOrder =
      setUp crates rClient programId payer.pubkey (buildOrder crates rClient payer
        (orderInstruction crates programId payer wallet state newOrder)) := by
  simp only [placeOrder, setUp, buildOrder, InOut.lift_bind]
  rfl

end SetUp

section Steps

variable {crates : Crates} {rClient : ServiceMutex}

/-- One key pair is generated; preparing its account fails exactly when the
query does. -/
theorem createDexAccount_spec (programId payer : Pubkey) (unpaddedLen : Nat) :
    (createDexAccount crates rClient programId payer unpaddedLen).Ensures fun outcome trace =>
      ∃ key, generatedKeys trace = [key] ∧
        match outcome with
        | .ok (made, instruction) => made = key ∧ ¬ RentQueryFailed trace ∧ ∃ lamports,
            instruction = crates.createAccount payer key.pubkey lamports
              (UInt64.ofNat (unpaddedLen + 12)) programId
        | .err _ => RentQueryFailed trace
        | .panic _ => False := by
  rintro key _ (error | lamports) _
  · refine ⟨key, rfl, unpaddedLen + 12, error, ?_⟩
    simp
  · refine ⟨key, rfl, rfl, ?_, lamports, rfl⟩
    rintro ⟨size, error, isEvent⟩
    simp only [List.mem_cons, List.not_mem_nil, or_false] at isEvent
    rcases isEvent with isEvent | isEvent | isEvent | isEvent <;> cases isEvent

/-- A transaction with these instructions, signed by these keys, was encoded. -/
def Encodes (crates : Crates) (instructions : List Instruction) (signers : List Keypair)
    (wire : List UInt8) : Prop :=
  ∃ tx : Transaction, tx.instructions = instructions ∧ tx.signers = signers.map Keypair.pubkey ∧
    crates.serialize tx = .ok wire

theorem getLatestBlockhash_after :
    (Rpcnb.getLatestBlockhash rClient).Confined AfterPreparation fun _ => True := by
  apply Fallible.Confined.withGuard (fun _ => trivial) fun _ => trivial
  apply Fallible.Confined.bind (Fallible.Confined.perform fun _ => trivial)
  intro reply _
  exact .lift fun _ _ => trivial

theorem tryForeign_after {α : Type} (result : Except ForeignError α) :
    (tryForeign result).Confined AfterPreparation fun value => result = .ok value := by
  apply Fallible.Confined.lift
  intro value isOk
  exact Outcome.ofExcept_eq_ok_iff.mp isOk

theorem newSignedWithPayer_after {instructions : List Instruction} {payer : Option Pubkey}
    {signers : List Keypair} {recentHash : Hash} :
    (newSignedWithPayer instructions payer signers recentHash : Svc AnyError Transaction).Confined
      AfterPreparation fun tx => tx.instructions = instructions ∧
        tx.signers = signers.map Keypair.pubkey := by
  apply Fallible.Confined.bind (Fallible.Confined.perform fun _ => trivial)
  intro _ _
  split_ifs
  · exact .pure ⟨rfl, rfl⟩
  · exact .lift nofun

/-- What the steps after the slot is filled have to do: they leave the slot and
its account alone, and what they return is a transaction of the given
instructions and one that uses the account. -/
def Builds (crates : Crates) (payer : Keypair) (uses : Pubkey → Instruction → Prop)
    (build : Pubkey → List Keypair → List Instruction → Svc AnyError (List UInt8)) : Prop :=
  ∀ ordersPubkey signers instructions,
    (build ordersPubkey signers instructions).Confined AfterPreparation fun wire =>
      ∃ instruction, uses ordersPubkey instruction ∧
        Encodes crates (instructions ++ [instruction]) (signers ++ [payer]) wire

theorem buildInit_builds (programId : Pubkey) (owner : Keypair) (state : MarketPubkeys) :
    Builds crates owner
      (fun pk instruction =>
        crates.initOpenOrdersIx programId pk owner.pubkey state.market none = .ok instruction)
      (buildInit crates rClient programId owner state) := by
  intro ordersPubkey signers instructions
  apply (tryForeign_after _).bind
  intro instruction built
  apply getLatestBlockhash_after.bind
  intro recentHash _
  apply newSignedWithPayer_after.bind
  rintro tx ⟨sameInstructions, sameSigners⟩
  have encoding := tryForeign_after (crates.serialize tx)
  apply encoding.mono
  intro wire encoded
  exact ⟨instruction, built, tx, sameInstructions, sameSigners, encoded⟩

theorem buildOrder_builds (payer : Keypair) (instruction : Pubkey → Instruction) :
    Builds crates payer (fun pk made => made = instruction pk)
      (buildOrder crates rClient payer instruction) := by
  intro ordersPubkey signers instructions
  apply getLatestBlockhash_after.bind
  intro recentHash _
  apply newSignedWithPayer_after.bind
  rintro tx ⟨sameInstructions, sameSigners⟩
  cases encoded : crates.serialize tx with
  | error error =>
      rw [serialized, encoded]
      exact .throw _
  | ok wire =>
      rw [serialized, encoded]
      exact .pure ⟨instruction ordersPubkey, rfl, tx, sameInstructions, sameSigners, encoded⟩

end Steps

/-- How a set-up function leaves the slot. -/
structure SlotLeft (crates : Crates) (programId : Pubkey) (payer : Keypair)
    (uses : Pubkey → Instruction → Prop) (entry : Option Pubkey)
    (outcome : Outcome AnyError (List UInt8)) (left : Option Pubkey)
    (events : List ServiceEvent) : Prop where
  kept : outcome.IsErr → (left = entry ↔ entry.isSome ∨ RentQueryFailed events)
  filled : outcome.IsErr → left ≠ entry →
    ∃ key, generatedKeys events = [key] ∧ left = some key.pubkey
  given : ∀ wire pk, outcome = .ok wire → entry = some pk →
    left = some pk ∧ ∃ instruction, uses pk instruction ∧
      Encodes crates [instruction] [payer] wire
  created : ∀ wire, outcome = .ok wire → entry = none →
    ∃ key lamports instruction, generatedKeys events = [key] ∧ left = some key.pubkey ∧
      uses key.pubkey instruction ∧
      Encodes crates
        [crates.createAccount payer.pubkey key.pubkey lamports
          (UInt64.ofNat (crates.openOrdersSize + 12)) programId, instruction]
        [key, payer] wire

section Slot

variable {crates : Crates} {rClient : ServiceMutex}

/-- Without an account, one is prepared before the slot is filled. -/
theorem setUp_none (programId payer : Pubkey)
    (build : Pubkey → List Keypair → List Instruction → Svc AnyError (List UInt8)) :
    setUp crates rClient programId payer build none =
      (InOut.lift (createDexAccount crates rClient programId payer crates.openOrdersSize) >>=
        fun made => do
          InOut.assign (some made.1.pubkey)
          InOut.lift (build made.1.pubkey [made.1] [made.2])) none := by
  change (_ >>= (fun made : Keypair × Instruction => pure (made.1.pubkey, [made.1], [made.2])) >>=
    fun found => InOut.assign (some found.1) >>= fun _ => _) none = _
  rw [InOut.bind_assoc]
  rfl

/-- The slot is settled before the transaction is built. -/
theorem setUp_slot (programId : Pubkey) {payer : Keypair} {uses : Pubkey → Instruction → Prop}
    {build : Pubkey → List Keypair → List Instruction → Svc AnyError (List UInt8)}
    (builds : Builds crates payer uses build) (entry : Option Pubkey) :
    (setUp crates rClient programId payer.pubkey build).Ensures entry
      (SlotLeft crates programId payer uses entry) := by
  cases entry with
  | some pk =>
      apply InOut.ensures_lift.mpr
      apply Prog.Ensures.mono (builds pk [] [])
      rintro outcome trace ⟨returns, after⟩
      constructor
      case kept => simp
      case filled => exact fun _ changed => absurd rfl changed
      case given =>
        rintro wire _ isOk ⟨⟩
        exact ⟨rfl, returns wire isOk⟩
      case created => exact fun _ _ => nofun
  | none =>
      unfold InOut.Ensures
      rw [setUp_none]
      apply InOut.ensures_lift_bind.mpr
      apply (createDexAccount_spec programId payer.pubkey crates.openOrdersSize).mono
      rintro outcome prepared ⟨key, generated, ended⟩
      cases outcome with
      | ok made =>
          obtain ⟨made, create⟩ := made
          obtain ⟨rfl, answered, lamports, rfl⟩ := ended
          apply InOut.ensures_assign_bind.mpr
          apply InOut.ensures_lift.mpr
          apply Prog.Ensures.mono (builds made.pubkey [made] _)
          rintro outcome trace ⟨returns, after⟩
          have onlyKey : generatedKeys (prepared ++ trace) = [made] := by
            rw [generatedKeys_append, generatedKeys_after after, List.append_nil, generated]
          constructor
          case kept =>
            intro _
            rw [rentQueryFailed_append after]
            simp [answered]
          case filled => exact fun _ _ => ⟨made, onlyKey, rfl⟩
          case given => exact fun _ _ _ => nofun
          case created =>
            intro wire isOk _
            obtain ⟨instruction, isUse, encodes⟩ := returns wire isOk
            exact ⟨made, lamports, instruction, onlyKey, rfl, isUse, encodes⟩
      | err error =>
          constructor
          case kept => exact fun _ => ⟨fun _ => .inr ended, fun _ => rfl⟩
          case filled => exact fun _ changed => absurd rfl changed
          case given => exact fun _ _ => nofun
          case created => exact fun _ => nofun
      | panic message => exact ended.elim

end Slot

/-- Whatever fails, a failed set-up keeps the caller's slot exactly when it was
filled before or the account could not be prepared; otherwise it holds the key
generated in the call.  A set-up that returns leaves the account that its
transaction uses, and creates and co-signs for if it was not given. -/
theorem orderSetUp_slot (crates : Crates) (rClient : ServiceMutex) (programId : Pubkey)
    (payer : Keypair) (wallet : Pubkey) (state : MarketPubkeys) (newOrder : NewOrderInstructionV3)
    (entry : Option Pubkey) (world : ServiceWorld) :
    let init := initOpenOrders crates rClient programId payer state entry
    let place := placeOrder crates rClient programId payer wallet state newOrder entry
    SlotLeft crates programId payer
        (fun pk instruction =>
          crates.initOpenOrdersIx programId pk payer.pubkey state.market none = .ok instruction)
        entry (init.result world 0).1 (init.result world 0).2 (init.trace world 0) ∧
      SlotLeft crates programId payer
        (fun pk instruction =>
          instruction = orderInstruction crates programId payer wallet state newOrder pk)
        entry (place.result world 0).1 (place.result world 0).2 (place.trace world 0) := by
  intro init place
  constructor
  · unfold init
    rw [initOpenOrders_eq]
    exact (setUp_slot programId (buildInit_builds programId payer state) entry).sound world 0
  · unfold place
    rw [placeOrder_eq]
    exact (setUp_slot programId (buildOrder_builds payer _) entry).sound world 0

/-- An environment that answers the query for the rent exemption, and no other. -/
def rentOnly : Replies where
  rpc
    | .getMinimumBalanceForRentExemption _ => .ok 1
    | _ => .error ⟨"unavailable"⟩
  transmits := false
  elapsed := 0
  keypair := Reference.keypair
  random := 0
  signature := Reference.signature

/-- The block hash is not answered: both functions fail, and leave the key of an
account that does not exist in a slot that was empty. -/
theorem orderSetUp_fills_slot :
    let key := onesPubkey
    let order : NewOrderInstructionV3 :=
      ⟨.bid, ⟨1, by decide⟩, ⟨1, by decide⟩, ⟨1, by decide⟩, .decrementTake, .limit, 7, 1⟩
    let world : ServiceWorld := fun _ => rentOnly.answer
    let init := initOpenOrders referenceCrates .dexRpc key Reference.keypair (sameKeys key)
    let place := placeOrder referenceCrates .dexRpc key Reference.keypair key (sameKeys key) order
    (init none).result world 0 =
        (.err (.foreign ⟨"unavailable"⟩), some Reference.keypair.pubkey) ∧
      (place none).result world 0 =
        (.err (.foreign ⟨"unavailable"⟩), some Reference.keypair.pubkey) :=
  ⟨rfl, rfl⟩

end RustHelper.SerumClient
