import RustHelper.FatalBuilders
import RustHelper.ServedIntents

/-!
# When a request panics

Reading the fields of a request never panics, and neither does translating an error.
So a handler panics when its builder or the sending of its batch does, or when the
market that it looks up is not in place.
-/

namespace RustHelper

open Effect LockInterleaving
open SerumClient (MarketInPlace QueueInRange generatedKeys)

section Fields

variable {crates : Crates}

@[simp]
theorem not_panics_convertPubkey (wire : PbPubkey) : ¬ (convertPubkey wire).Panics := by
  unfold convertPubkey pubkeyFromBytes
  split <;> exact id

@[simp]
theorem not_panics_convertKeypair (wire : PbKeypair) : ¬ (convertKeypair crates wire).Panics := by
  have reads : ∀ data, ¬ (keypairFromBytes crates data).Panics := by
    intro data
    unfold keypairFromBytes
    split <;> exact id
  unfold convertKeypair
  split
  · exact id
  · rename_i data isInput
    have fine := reads data
    cases read : keypairFromBytes crates data with
    | ok key => exact id
    | err error => exact id
    | panic message => exact absurd (read ▸ trivial) fine
  · exact id

@[simp]
theorem not_panics_reverseKeypair (key : Keypair) : ¬ (reverseKeypair crates key).Panics := id

@[simp]
theorem not_panics_pubkeyField (field : Option PbPubkey) (error : Status) :
    ¬ (pubkeyField field error).Panics := by
  cases field <;> simp [pubkeyField]

@[simp]
theorem not_panics_requiredKey (field : Option PbPubkey) : ¬ (requiredKey field).Panics := by
  cases field <;> simp [requiredKey]

@[simp]
theorem not_panics_reverseMarketPubkeys (keys : PbMarketPubkeys) :
    ¬ (reverseMarketPubkeys keys).Panics := by
  simp [reverseMarketPubkeys, Outcome.panics_bind_iff]

@[simp]
theorem DexHandlers.not_panics_programIdField (field : Option PbProgramId) :
    ¬ (programIdField field).Panics := by
  cases field <;> simp [programIdField]

@[simp]
theorem DexHandlers.not_panics_keypairField (field : Option PbKeypair) (errmsg : String) :
    ¬ (keypairField crates field errmsg).Panics := by
  cases field <;> simp [keypairField]

@[simp]
theorem Broadcast.not_panics_keypairField (field : Option PbKeypair) (missing : Status)
    (bad : Status → Status) : ¬ (keypairField crates field missing bad).Panics := by
  unfold keypairField
  split <;> simp

@[simp]
theorem DexHandlers.not_panics_ordersField (field : Option PbPubkey) (bad missing : Status) :
    ¬ (ordersField field bad missing).Panics := by
  cases field <;> simp [ordersField]

@[simp]
theorem DexHandlers.not_panics_optionalPubkey (field : Option PbPubkey) (error : Status) :
    ¬ (optionalPubkey field error).Panics := by
  cases field <;> simp [optionalPubkey, Outcome.panics_bind_iff]

@[simp]
theorem DexHandlers.not_panics_optionalKeypair (field : Option PbKeypair) (error : Status) :
    ¬ (optionalKeypair crates field error).Panics := by
  cases field <;> simp [optionalKeypair, Outcome.panics_bind_iff]

theorem Broadcast.not_panics_genesisArguments (r : Genesis) :
    ¬ (genesisArguments crates r).Panics := by
  simp only [genesisArguments, Outcome.panics_bind_iff, not_panics_keypairField,
    not_panics_pubkeyField, false_or, not_exists, not_and]
  intro payer _ mint _ owner _
  split <;> exact id

theorem Broadcast.not_panics_deserializeBatch (txList : List (List UInt8)) :
    ¬ (deserializeBatch crates txList).Panics := by
  induction txList with
  | nil => exact id
  | cons serializedTx txList ih =>
      unfold deserializeBatch
      split
      · exact id
      · simp [Outcome.panics_bind_iff, ih]

end Fields

/-- The task panics, with whatever message, exactly when something is fatal. -/
abbrev PanicsFatally {ε α : Type} (crates : Crates) (request : Request)
    (program : Svc ε α) : Prop :=
  Faults crates request (fun _ => True) [] Proper.Anything program

section Handlers

variable {crates : Crates} {request : Request} {past : List ServiceEvent} {ε α β : Type}

theorem Faults.decodes {outcome : Outcome ε α} (fine : ¬ outcome.Panics) :
    Faults crates request (fun _ => True) past
      (fun later value => later = past ∧ outcome = .ok value)
      (Fallible.lift outcome : Svc ε α) :=
  .lift (mt Outcome.panicsWith_true.mp fine) fun _ isOk => ⟨rfl, isOk⟩

/-- The end of a handler. -/
theorem Faults.ends {δ : Type} {build : Svc ε α} {translate : ε → δ} {response : α → β}
    (faults : Faults crates request (fun _ => True) past Proper.Anything build) :
    Faults crates request (fun _ => True) past Proper.Anything (do
      let value ← Fallible.mapErr translate build
      pure (response value) : Svc δ β) := by
  apply Fallible.Blames.bind (.mapErr faults)
  exact fun _ _ _ _ => .pure trivial

/-- The market is looked up before anything else. -/
theorem DexHandlers.marketField_faults {programId : Pubkey} {market : Option PbMarketState}
    (isProgram : request.dexProgram = some programId)
    (named : (readMarket market).bind MarketSource.address = request.marketAddress) :
    Faults crates request (fun _ => True) []
      (fun later keys => ∃ source, readMarket market = some source ∧
        source.Resolves crates later programId keys)
      (marketField crates programId market) := by
  rcases market with _ | ⟨_ | id | keys⟩
  · exact .throw _
  · exact .throw _
  · apply Fallible.Blames.mapErr
    apply Fallible.Blames.bind (Faults.decodes (by simp))
    rintro _ key _ ⟨rfl, isKey⟩
    have isSource := readMarket_of_id isKey
    rw [isSource] at named
    apply Fallible.Blames.mapErr
    apply (SerumClient.getKeysForMarket_faults isProgram named.symm (by simp)).mono
    exact fun later keys _ readFrom => ⟨.account key, isSource, readFrom⟩
  · apply Fallible.Blames.mapErr
    apply (Faults.decodes (by simp)).mono
    rintro _ given _ ⟨rfl, isGiven⟩
    exact ⟨.keys given, readMarket_of_state isGiven, rfl⟩

namespace Broadcast

theorem sendTx_faults (passes : Nat) (txList : List (List UInt8)) :
    PanicsFatally crates (.sendTx txList) (sendTx crates passes txList) := by
  apply Fallible.Blames.bind (Faults.decodes (not_panics_deserializeBatch txList))
  exact fun _ sigList _ _ => sendLoop_faults passes sigList 0

theorem runGenesis_faults (laws : crates.SignerLaws) (r : Genesis) :
    PanicsFatally crates (.runGenesis r) (runGenesis crates r) := by
  apply Fallible.Blames.bind (Faults.decodes (not_panics_genesisArguments r))
  intro _ arguments _ _
  exact Faults.ends (Rpcnb.createAndInitMint_faults id id laws _ _ _ _)

theorem runInitializeTokenAccount_faults (laws : crates.SignerLaws)
    (keypairs : crates.KeypairLaws) (r : InitializeTokenAccount) :
    PanicsFatally crates (.runInitializeTokenAccount r) (runInitializeTokenAccount crates r) := by
  apply Fallible.Blames.bind (Faults.decodes (by simp))
  intro _ mint _ _
  apply Fallible.Blames.bind (Faults.decodes (by simp))
  intro _ owner _ _
  apply Fallible.Blames.bind (Util.copied_faults keypairs owner)
  intro _ owner1 _ _
  apply Fallible.Blames.bind (.mapErr (Util.initializeTokenAccount_faults id id laws keypairs _ _))
  exact fun _ _ _ _ => (Faults.decodes (by simp)).mono fun _ _ _ _ => trivial

theorem runCreateAccount_faults (laws : crates.SignerLaws) (r : CreateAccount) :
    PanicsFatally crates (.runCreateAccount r) (runCreateAccount crates r) := by
  apply Fallible.Blames.bind (Faults.decodes (by simp))
  intro _ mint _ _
  apply Fallible.Blames.bind (Faults.decodes (by simp))
  intro _ owner _ _
  apply Fallible.Blames.bind (Faults.decodes (by simp))
  intro _ payer _ _
  apply Fallible.Blames.bind (.mapErr (Util.createAccount_faults id id laws _ _ _))
  exact fun _ _ _ _ => (Faults.decodes (by simp)).mono fun _ _ _ _ => trivial

theorem runMint_faults (laws : crates.SignerLaws) (keypairs : crates.KeypairLaws) (r : Mint) :
    PanicsFatally crates (.runMint r) (runMint crates r) := by
  apply Fallible.Blames.bind (Faults.decodes (by simp))
  intro _ payer _ _
  apply Fallible.Blames.bind (Faults.decodes (by simp))
  intro _ signer _ _
  apply Fallible.Blames.bind (Faults.decodes (by simp))
  intro _ mint _ _
  apply Fallible.Blames.bind (Faults.decodes (by simp))
  intro _ recipient _ _
  split
  · exact .throw _
  · exact .mapErr (Util.mintToExistingAccount_faults id laws keypairs _ _ _ _ _)

end Broadcast

namespace DexHandlers

theorem getMarketPubkeys_faults (r : MarketRequest) :
    PanicsFatally crates (.getMarketPubkeys r) (getMarketPubkeys crates r) := by
  apply Fallible.Blames.bind (Faults.decodes (by simp))
  rintro _ programId _ ⟨rfl, isProgram⟩
  apply Fallible.Blames.bind (Faults.decodes (by simp))
  rintro _ market _ ⟨rfl, isMarket⟩
  have named : (Request.getMarketPubkeys r).marketAddress = some market :=
    readPubkey_of_field isMarket
  have isDex : (Request.getMarketPubkeys r).dexProgram = some programId :=
    readProgramId_of_field isProgram
  apply Faults.ends
  apply (SerumClient.getKeysForMarket_faults isDex named (by simp)).mono
  exact fun _ _ _ _ => trivial

theorem listMarket_faults (laws : crates.SignerLaws) (r : ListMarketRequest) :
    PanicsFatally crates (.listMarket r) (listMarket crates r) := by
  apply Fallible.Blames.bind (Faults.decodes (by simp))
  rintro _ payer _ ⟨rfl, isPayer⟩
  apply Fallible.Blames.bind (Faults.decodes (by simp))
  rintro _ programId _ ⟨rfl, isProgram⟩
  apply Fallible.Blames.bind (Faults.decodes (by simp))
  rintro _ coinMint _ ⟨rfl, isCoin⟩
  apply Fallible.Blames.bind (Faults.decodes (by simp))
  rintro _ pcMint _ ⟨rfl, isPc⟩
  have lists : (Request.listMarket r).Lists := trivial
  have isDex : (Request.listMarket r).dexProgram = some programId :=
    readProgramId_of_field isProgram
  apply Fallible.Blames.bind (.mapErr (SerumClient.listMarket_faults laws lists id isDex rfl))
  exact fun _ _ _ _ => .pure trivial

theorem consumeEvents_faults (records : crates.RecordLaws) (r : CrankRequest) :
    PanicsFatally crates (.consumeEvents r) (consumeEvents crates r) := by
  apply Fallible.Blames.bind (Faults.decodes (by simp))
  rintro _ programId _ ⟨rfl, isProgram⟩
  apply Fallible.Blames.bind (Faults.decodes (by simp))
  rintro _ payer _ ⟨rfl, isPayer⟩
  have isDex : (Request.consumeEvents r).dexProgram = some programId :=
    readProgramId_of_field isProgram
  apply Fallible.Blames.bind (marketField_faults isDex rfl)
  rintro past keys _ ⟨source, isSource, resolves⟩
  apply Fallible.Blames.bind (Faults.decodes (by simp))
  rintro _ coinWallet _ ⟨rfl, isCoin⟩
  apply Fallible.Blames.bind (Faults.decodes (by simp))
  rintro _ pcWallet _ ⟨rfl, isPc⟩
  have isIntent := consumeEvents_intent isProgram isPayer isSource isCoin isPc
  exact Faults.ends (SerumClient.consumeEvents_faults records id isIntent resolves)

theorem initOpenOrder_faults (laws : crates.SignerLaws) (r : OpenOrderRequest) :
    PanicsFatally crates (.initOpenOrder r) (initOpenOrder crates r) := by
  apply Fallible.Blames.bind (Faults.decodes (by simp))
  rintro _ programId _ ⟨rfl, isProgram⟩
  apply Fallible.Blames.bind (Faults.decodes (by simp))
  rintro _ owner _ ⟨rfl, -⟩
  have isDex : (Request.initOpenOrder r).dexProgram = some programId :=
    readProgramId_of_field isProgram
  apply Fallible.Blames.bind (marketField_faults isDex rfl)
  intro _ keys _ _
  apply Fallible.Blames.bind (Faults.decodes (by simp))
  intro _ orders _ _
  exact Faults.ends (SerumClient.initOpenOrders_faults id id laws _ _ _ _)

theorem newOrder_faults (laws : crates.SignerLaws) (r : PbOrder) :
    PanicsFatally crates (.newOrder r) (newOrder crates r) := by
  apply Fallible.Blames.bind (Faults.decodes (by simp))
  rintro _ programId _ ⟨rfl, isProgram⟩
  apply Fallible.Blames.bind (Faults.decodes (by simp))
  rintro _ payer _ ⟨rfl, -⟩
  apply Fallible.Blames.bind (Faults.decodes (by simp))
  rintro _ wallet _ ⟨rfl, -⟩
  have isDex : (Request.newOrder r).dexProgram = some programId := readProgramId_of_field isProgram
  apply Fallible.Blames.bind (marketField_faults isDex rfl)
  intro _ keys _ _
  apply Fallible.Blames.bind (Faults.decodes (by simp))
  intro _ orders _ _
  apply Fallible.Blames.bind (Faults.decodes (convertNewOrderV3_not_panics r))
  intro _ order _ _
  exact Faults.ends (SerumClient.placeOrder_faults id id laws _ _ _ _ _ _)

theorem cancelOrder_faults (laws : crates.SignerLaws) (r : CancelOrderRequest) :
    PanicsFatally crates (.cancelOrder r) (cancelOrder crates r) := by
  apply Fallible.Blames.bind (Faults.decodes (by simp))
  rintro _ programId _ ⟨rfl, isProgram⟩
  apply Fallible.Blames.bind (Faults.decodes (by simp))
  rintro _ owner _ ⟨rfl, -⟩
  have isDex : (Request.cancelOrder r).dexProgram = some programId :=
    readProgramId_of_field isProgram
  apply Fallible.Blames.bind (marketField_faults isDex rfl)
  intro _ keys _ _
  apply Fallible.Blames.bind (Faults.decodes (by simp))
  intro _ orders _ _
  have simulates : (Request.cancelOrder r).Simulates := trivial
  exact Faults.ends (SerumClient.cancelOrderByClientOrderId_faults simulates laws _ _ _ _ _)

theorem settleFunds_faults (r : SettleFundsRequest) :
    PanicsFatally crates (.settleFunds r) (settleFunds crates r) := by
  apply Fallible.Blames.bind (Faults.decodes (by simp))
  rintro _ payer _ ⟨rfl, -⟩
  apply Fallible.Blames.bind (Faults.decodes (by simp))
  rintro _ programId _ ⟨rfl, isProgram⟩
  have isDex : (Request.settleFunds r).dexProgram = some programId :=
    readProgramId_of_field isProgram
  apply Fallible.Blames.bind (marketField_faults isDex rfl)
  intro _ keys _ _
  apply Fallible.Blames.bind (Faults.decodes (by simp))
  intro _ orders _ _
  apply Fallible.Blames.bind (Faults.decodes (by simp))
  intro _ coinWallet _ _
  apply Fallible.Blames.bind (Faults.decodes (by simp))
  intro _ pcWallet _ _
  apply Fallible.Blames.bind (Faults.decodes (by simp))
  intro _ signer _ _
  have simulates : (Request.settleFunds r).Simulates := trivial
  exact Faults.ends (SerumClient.settleFunds_faults simulates _ _ _ _ _ _ _)

theorem closeOpenOrders_faults (laws : crates.SignerLaws) (r : OpenOrderRequest) :
    PanicsFatally crates (.closeOpenOrders r) (closeOpenOrders crates r) := by
  apply Fallible.Blames.bind (Faults.decodes (by simp))
  rintro _ programId _ ⟨rfl, isProgram⟩
  apply Fallible.Blames.bind (Faults.decodes (by simp))
  rintro _ owner _ ⟨rfl, -⟩
  have isDex : (Request.closeOpenOrders r).dexProgram = some programId :=
    readProgramId_of_field isProgram
  apply Fallible.Blames.bind (marketField_faults isDex rfl)
  intro _ keys _ _
  apply Fallible.Blames.bind (Faults.decodes (by simp))
  intro _ orders _ _
  have simulates : (Request.closeOpenOrders r).Simulates := trivial
  exact Faults.ends (SerumClient.closeOpenOrders_faults simulates laws _ _ _ _)

theorem matchOrders_faults (r : CrankRequest) :
    PanicsFatally crates (.matchOrders r) (matchOrders crates r) := by
  apply Fallible.Blames.bind (Faults.decodes (by simp))
  rintro _ programId _ ⟨rfl, isProgram⟩
  apply Fallible.Blames.bind (Faults.decodes (by simp))
  rintro _ payer _ ⟨rfl, -⟩
  have isDex : (Request.matchOrders r).dexProgram = some programId :=
    readProgramId_of_field isProgram
  apply Fallible.Blames.bind (marketField_faults isDex rfl)
  intro _ keys _ _
  apply Fallible.Blames.bind (Faults.decodes (by simp))
  intro _ coinWallet _ _
  apply Fallible.Blames.bind (Faults.decodes (by simp))
  intro _ pcWallet _ _
  have simulates : (Request.matchOrders r).Simulates := trivial
  exact Faults.ends (SerumClient.matchOrders_faults simulates _ _ _ _ _)

theorem monitorQueue_faults (r : MonitorQueueRequest) :
    PanicsFatally crates (.monitorQueue r) (monitorQueue crates r) := by
  have spawns : ∀ {past : List ServiceEvent} (side : MonitoredSide) (target : Pubkey),
      Faults crates (.monitorQueue r) (fun _ => True) past Proper.Anything
        (locked .dexRuntime (spawnMonitor side target) : Svc Status Unit) := by
    intro past side target
    apply Faults.locked
    intro _
    exact (Faults.perform (.spawnMonitor side target) trivial).mono fun _ _ _ _ _ => trivial
  apply Fallible.Blames.bind (Faults.decodes (by simp))
  rintro _ programId _ ⟨rfl, isProgram⟩
  have isDex : (Request.monitorQueue r).dexProgram = some programId :=
    readProgramId_of_field isProgram
  apply Fallible.Blames.bind (marketField_faults isDex rfl)
  intro _ keys _ _
  apply Fallible.Blames.bind (spawns .bids keys.bids)
  exact fun _ _ _ _ => spawns .asks keys.asks

end DexHandlers

/-- Every handler panics exactly when something is fatal for its request. -/
theorem Request.respond_faults (laws : crates.SignerLaws) (keypairs : crates.KeypairLaws)
    (records : crates.RecordLaws) (passes : Nat) (request : Request) :
    PanicsFatally crates request (request.respond crates passes) := by
  have answers : ∀ {α : Type} {response : α → Response} {handler : Svc Status α},
      PanicsFatally crates request handler →
        PanicsFatally crates request (answered response handler) :=
    fun faults => .bind faults fun _ _ _ _ => .pure trivial
  cases request with
  | sendTx tx => exact answers (Broadcast.sendTx_faults passes tx)
  | runGenesis r => exact answers (Broadcast.runGenesis_faults laws r)
  | runInitializeTokenAccount r =>
      exact answers (Broadcast.runInitializeTokenAccount_faults laws keypairs r)
  | runCreateAccount r => exact answers (Broadcast.runCreateAccount_faults laws r)
  | runMint r => exact answers (Broadcast.runMint_faults laws keypairs r)
  | getMarketPubkeys r => exact answers (DexHandlers.getMarketPubkeys_faults r)
  | listMarket r => exact answers (DexHandlers.listMarket_faults laws r)
  | consumeEvents r => exact answers (DexHandlers.consumeEvents_faults records r)
  | initOpenOrder r => exact answers (DexHandlers.initOpenOrder_faults laws r)
  | newOrder r => exact answers (DexHandlers.newOrder_faults laws r)
  | cancelOrder r => exact answers (DexHandlers.cancelOrder_faults laws r)
  | settleFunds r => exact answers (DexHandlers.settleFunds_faults r)
  | closeOpenOrders r => exact answers (DexHandlers.closeOpenOrders_faults laws r)
  | matchOrders r => exact answers (DexHandlers.matchOrders_faults r)
  | monitorQueue r => exact answers (DexHandlers.monitorQueue_faults r)

end Handlers

section Runs

/-- In every interleaving and whatever the cluster answers, a request that has come to
its end has panicked exactly when something was fatal for it.  Of the clients' own code
only the end of `send_transaction_with_config` is followed; their other calls return. -/
theorem served_panics_exactly {Task : Type} [DecidableEq Task] (crates : Crates)
    (laws : crates.SignerLaws) (keypairs : crates.KeypairLaws) (records : crates.RecordLaws)
    (request : Task → Request) (passes : Task → Nat) (history : List (Task × ServiceEvent))
    (state : State service Task (Outcome Status Response))
    (served : Served crates request passes history state) (index : Task)
    (outcome : Outcome Status Response) (ended : state.program index = .done outcome) :
    outcome.Panics ↔ ∃ before event after,
      ofTask index history = before ++ event :: after ∧
        Fatal crates (request index) before.reverse event := by
  have faults := Request.respond_faults laws keypairs records (passes index) (request index)
  have left := (Prog.Keeps.goes (faults trivial) (served.goes index)).2
  rw [ended, List.append_nil] at left
  apply Outcome.panicsWith_true.symm.trans (left.1.trans (not_harmless_iff.trans _))
  constructor
  · rintro ⟨later, event, earlier, same, isFatal⟩
    refine ⟨earlier.reverse, event, later.reverse, ?_, ?_⟩
    · rw [List.reverse_eq_iff.mp same]
      simp
    · rwa [List.reverse_reverse]
  · rintro ⟨before, event, after, same, isFatal⟩
    refine ⟨after.reverse, event, before.reverse, ?_, isFatal⟩
    rw [same]
    simp

/-- A cluster whose accounts are all empty. -/
def emptyAccounts : Replies where
  rpc
    | .getAccountData _ => .ok ⟨[], 0⟩
    | _ => .error ⟨"unavailable"⟩
  transmits := false
  elapsed := 0
  keypair := Reference.keypair
  random := 0
  signature := Reference.signature

/-- The first of two requests is shown an empty market account, and panics. -/
theorem served_panics_exactly_empty_account :
    ∃ history state,
      Served referenceCrates (fun _ : Fin 2 => .consumeEvents walletless) (fun _ => 0) history
          state ∧
        ∃ before event after, ofTask (L := service) 0 history = before ++ event :: after ∧
          Fatal referenceCrates (.consumeEvents walletless) before.reverse event := by
  have records : record (L := service) emptyAccounts.answer
      (responding referenceCrates (fun _ : Fin 2 => .consumeEvents walletless) fun _ => 0)
      [0, 0, 0, 1] = some _ := rfl
  have served := record_recorded (fun _ _ => trivial) records
  refine ⟨_, _, served, (served_panics_exactly referenceCrates referenceCrates_signerLaws
    referenceCrates_keypairLaws referenceCrates_transmuteLaws.toRecordLaws _ _ _ _ served 0 _
    rfl).mp ?_⟩
  trivial

end Runs

end RustHelper
