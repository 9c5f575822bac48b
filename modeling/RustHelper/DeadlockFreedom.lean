import RustHelper.LockDiscipline
import RustHelper.ReferenceCrates

/-!
# Requests that share the clients

Any number of requests of the two servers run interleaved.  They never wait for
each other in a circle, and none waits for itself, unless a genesis request
gets past its rent query while it holds the RPC client.
-/

namespace RustHelper

open Effect LockInterleaving

/-- A request to one of the two servers. -/
inductive Request
  | sendTx (tx : List (List UInt8))
  | runGenesis (r : Broadcast.Genesis)
  | runInitializeTokenAccount (r : Broadcast.InitializeTokenAccount)
  | runCreateAccount (r : Broadcast.CreateAccount)
  | runMint (r : Broadcast.Mint)
  | getMarketPubkeys (r : DexHandlers.MarketRequest)
  | listMarket (r : DexHandlers.ListMarketRequest)
  | consumeEvents (r : DexHandlers.CrankRequest)
  | initOpenOrder (r : DexHandlers.OpenOrderRequest)
  | newOrder (r : PbOrder)
  | cancelOrder (r : DexHandlers.CancelOrderRequest)
  | settleFunds (r : DexHandlers.SettleFundsRequest)
  | closeOpenOrders (r : DexHandlers.OpenOrderRequest)
  | matchOrders (r : DexHandlers.CrankRequest)
  | monitorQueue (r : DexHandlers.MonitorQueueRequest)

def task {ε α : Type} (handler : Svc ε α) : Prog service.toInterface Unit :=
  Prog.bind handler fun _ => .done ()

/-- The handler of a request; `passes` bounds how long `send_tx` is followed. -/
def Request.serve (crates : Crates) (passes : Nat) : Request → Prog service.toInterface Unit
  | .sendTx tx => task (Broadcast.sendTx crates passes tx)
  | .runGenesis r => task (Broadcast.runGenesis crates r)
  | .runInitializeTokenAccount r => task (Broadcast.runInitializeTokenAccount crates r)
  | .runCreateAccount r => task (Broadcast.runCreateAccount crates r)
  | .runMint r => task (Broadcast.runMint crates r)
  | .getMarketPubkeys r => task (DexHandlers.getMarketPubkeys crates r)
  | .listMarket r => task (DexHandlers.listMarket crates r)
  | .consumeEvents r => task (DexHandlers.consumeEvents crates r)
  | .initOpenOrder r => task (DexHandlers.initOpenOrder crates r)
  | .newOrder r => task (DexHandlers.newOrder crates r)
  | .cancelOrder r => task (DexHandlers.cancelOrder crates r)
  | .settleFunds r => task (DexHandlers.settleFunds crates r)
  | .closeOpenOrders r => task (DexHandlers.closeOpenOrders crates r)
  | .matchOrders r => task (DexHandlers.matchOrders crates r)
  | .monitorQueue r => task (DexHandlers.monitorQueue crates r)

/-- A genesis request whose arguments decode and yield an instruction is told
the rent; it then asks for the RPC client that it holds. -/
def Request.PassesRentQuery (crates : Crates) (request : Request) (event : ServiceEvent) : Prop :=
  ∃ r payer mint owner decimals instruction reply,
    request = .runGenesis r ∧
    Broadcast.genesisArguments crates r = .ok (payer, mint, owner, decimals) ∧
    crates.initializeMint crates.splToken mint.pubkey owner none decimals = .ok instruction ∧
    event = ⟨.rpc (.getMinimumBalanceForRentExemption crates.mintLen), .ok reply⟩

section Handlers

variable {may : ServiceEvent → Prop} {crates : Crates}

namespace Broadcast

theorem ensureSent_orderly (entry : Nat) (sr : SendResult) :
    Orderly may ∅ (ensureSent entry sr) := by
  unfold ensureSent
  split
  · exact .pure _
  · apply Orderly.locked (below_empty _)
    apply Orderly.bind (.sendTransactionWithConfig _ _ _)
    intro sigResult
    split
    · exact .throw _
    · exact .pure _

/-- The RPC mutex is taken while the TPU guard is held, never the other way. -/
theorem ensureConfirmed_orderly (entry : Nat) (sr : SendResult) (confirmedTxCount : Nat) :
    Orderly may ∅ (ensureConfirmed entry sr confirmedTxCount) := by
  have above : Below (insert ServiceMutex.broadcastTpu ∅) .broadcastRpc := by
    rintro other (rfl | isHeld)
    · decide
    · exact absurd isHeld (Set.notMem_empty other)
  unfold ensureConfirmed
  split
  · exact .pure _
  · apply Orderly.locked (below_empty _)
    apply Orderly.bind (.sendWireTransaction _ _)
    intro sent
    split
    · apply Orderly.bind (.sleep _)
      intro _
      apply Orderly.locked above
      split
      · apply Orderly.bind (.rpc _)
        intro r
        split
        · exact .throw _
        · split
          · exact .pure _
          · exact .pure _
      · exact .throw _
    · exact .throw _

theorem sendPass_orderly (entry : Nat) (sigList : List SendResult) (confirmedTxCount : Nat) :
    Orderly may ∅ (sendPass entry sigList confirmedTxCount) := by
  induction sigList generalizing entry confirmedTxCount with
  | nil => exact .pure _
  | cons sr sigList ih =>
      have visiting : Orderly may ∅ (visit entry sr confirmedTxCount) :=
        .bind (ensureSent_orderly _ _) fun sent => ensureConfirmed_orderly _ _ _
      apply visiting.bind
      intro visited
      exact .bind (ih _ _) fun rest => .pure _

theorem sendLoop_orderly (passes : Nat) (sigList : List SendResult) (confirmedTxCount : Nat) :
    Orderly may ∅ (sendLoop crates passes sigList confirmedTxCount) := by
  induction passes generalizing sigList confirmedTxCount with
  | zero => exact .pure _
  | succ passes ih =>
      apply Orderly.bind .elapsedSecs
      intro elapsed
      split
      · exact .bind (sendPass_orderly _ _ _) fun passed => ih _ _
      · exact .pure _

theorem sendTx_orderly (passes : Nat) (txList : List (List UInt8)) :
    Orderly may ∅ (sendTx crates passes txList) :=
  .bind (.lift _) fun sigList => sendLoop_orderly passes sigList 0

theorem runGenesis_orderly (r : Genesis)
    (stops : ∀ event, may event → ¬ (Request.runGenesis r).PassesRentQuery crates event) :
    Orderly may ∅ (runGenesis crates r) := by
  unfold runGenesis
  cases decoded : genesisArguments crates r with
  | err error => exact .lift (.err error)
  | panic message => exact .lift (.panic message)
  | ok arguments =>
      obtain ⟨payer, mint, owner, decimals⟩ := arguments
      change Orderly may ∅ (Fallible.mapErr _
        (Rpcnb.createAndInitMint crates .broadcastRpc payer mint owner decimals) >>= _)
      have creating : Orderly may ∅
          (Rpcnb.createAndInitMint crates .broadcastRpc payer mint owner decimals) := by
        apply Rpcnb.createAndInitMint_orderly (below_empty _)
        rintro ⟨instruction, built⟩ reply granted
        exact stops _ granted
          ⟨r, payer, mint, owner, decimals, instruction, reply, rfl, decoded, built, rfl⟩
      exact .bind (.mapErr creating) fun _ => .pure _

theorem runInitializeTokenAccount_orderly (r : InitializeTokenAccount) :
    Orderly may ∅ (runInitializeTokenAccount crates r) := by
  apply Orderly.bind (.lift _)
  intro mint
  apply Orderly.bind (.lift _)
  intro owner
  apply Orderly.bind (Util.copied_orderly _)
  intro owner1
  exact .bind (.mapErr (Util.initializeTokenAccount_orderly (below_empty _) _ _)) fun _ => .lift _

theorem runCreateAccount_orderly (r : CreateAccount) :
    Orderly may ∅ (runCreateAccount crates r) := by
  apply Orderly.bind (.lift _)
  intro mint
  apply Orderly.bind (.lift _)
  intro owner
  apply Orderly.bind (.lift _)
  intro payer
  exact .bind (.mapErr (Util.createAccount_orderly (below_empty _) _ _ _)) fun _ => .lift _

theorem runMint_orderly (r : Mint) : Orderly may ∅ (runMint crates r) := by
  apply Orderly.bind (.lift _)
  intro payer
  apply Orderly.bind (.lift _)
  intro signer
  apply Orderly.bind (.lift _)
  intro mint
  apply Orderly.bind (.lift _)
  intro recipient
  split
  · exact .throw _
  · exact .mapErr (Util.mintToExistingAccount_orderly (below_empty _) _ _ _ _ _)

end Broadcast

namespace DexHandlers

theorem marketField_orderly (programId : Pubkey) (market : Option PbMarketState) :
    Orderly may ∅ (marketField crates programId market) := by
  cases market with
  | none => exact .throw _
  | some pbState => exact .mapErr (SerumClient.convertState_orderly (below_empty _) _ _)

theorem getMarketPubkeys_orderly (r : MarketRequest) :
    Orderly may ∅ (getMarketPubkeys crates r) := by
  apply Orderly.bind (.lift _)
  intro programId
  apply Orderly.bind (.lift _)
  intro market
  exact .bind (.mapErr (SerumClient.getKeysForMarket_orderly (below_empty _) _ _)) fun _ => .pure _

theorem listMarket_orderly (r : ListMarketRequest) : Orderly may ∅ (listMarket crates r) := by
  apply Orderly.bind (.lift _)
  intro payer
  apply Orderly.bind (.lift _)
  intro programId
  apply Orderly.bind (.lift _)
  intro coinMint
  apply Orderly.bind (.lift _)
  intro pcMint
  exact .bind (.mapErr (SerumClient.listMarket_orderly (below_empty _) _ _ _ _ _ _)) fun _ =>
    .pure _

theorem consumeEvents_orderly (r : CrankRequest) : Orderly may ∅ (consumeEvents crates r) := by
  apply Orderly.bind (.lift _)
  intro programId
  apply Orderly.bind (.lift _)
  intro payer
  apply Orderly.bind (marketField_orderly _ _)
  intro state
  apply Orderly.bind (.lift _)
  intro coinWallet
  apply Orderly.bind (.lift _)
  intro pcWallet
  exact .bind (.mapErr (SerumClient.consumeEvents_orderly (below_empty _) _ _ _ _ _)) fun _ =>
    .pure _

theorem initOpenOrder_orderly (r : OpenOrderRequest) : Orderly may ∅ (initOpenOrder crates r) := by
  apply Orderly.bind (.lift _)
  intro programId
  apply Orderly.bind (.lift _)
  intro owner
  apply Orderly.bind (marketField_orderly _ _)
  intro state
  apply Orderly.bind (.lift _)
  intro orders
  exact .bind (.mapErr (SerumClient.initOpenOrders_orderly (below_empty _) _ _ _ _)) fun _ =>
    .pure _

theorem newOrder_orderly (r : PbOrder) : Orderly may ∅ (newOrder crates r) := by
  apply Orderly.bind (.lift _)
  intro programId
  apply Orderly.bind (.lift _)
  intro payer
  apply Orderly.bind (.lift _)
  intro _
  apply Orderly.bind (marketField_orderly _ _)
  intro state
  apply Orderly.bind (.lift _)
  intro orders
  apply Orderly.bind (.lift _)
  intro order
  exact .bind (.mapErr (SerumClient.placeOrder_orderly (below_empty _) _ _ _ _ _ _)) fun _ =>
    .pure _

theorem cancelOrder_orderly (r : CancelOrderRequest) : Orderly may ∅ (cancelOrder crates r) := by
  apply Orderly.bind (.lift _)
  intro programId
  apply Orderly.bind (.lift _)
  intro owner
  apply Orderly.bind (marketField_orderly _ _)
  intro state
  apply Orderly.bind (.lift _)
  intro orders
  exact .bind (.mapErr
    (SerumClient.cancelOrderByClientOrderId_orderly (below_empty _) _ _ _ _ _)) fun _ => .pure _

theorem settleFunds_orderly (r : SettleFundsRequest) : Orderly may ∅ (settleFunds crates r) := by
  apply Orderly.bind (.lift _)
  intro payer
  apply Orderly.bind (.lift _)
  intro programId
  apply Orderly.bind (marketField_orderly _ _)
  intro state
  apply Orderly.bind (.lift _)
  intro order
  apply Orderly.bind (.lift _)
  intro coinWallet
  apply Orderly.bind (.lift _)
  intro pcWallet
  apply Orderly.bind (.lift _)
  intro signer
  exact .bind (.mapErr (SerumClient.settleFunds_orderly (below_empty _) _ _ _ _ _ _ _)) fun _ =>
    .pure _

theorem closeOpenOrders_orderly (r : OpenOrderRequest) :
    Orderly may ∅ (closeOpenOrders crates r) := by
  apply Orderly.bind (.lift _)
  intro programId
  apply Orderly.bind (.lift _)
  intro owner
  apply Orderly.bind (marketField_orderly _ _)
  intro state
  apply Orderly.bind (.lift _)
  intro orders
  exact .bind (.mapErr (SerumClient.closeOpenOrders_orderly (below_empty _) _ _ _ _)) fun _ =>
    .pure _

theorem matchOrders_orderly (r : CrankRequest) : Orderly may ∅ (matchOrders crates r) := by
  apply Orderly.bind (.lift _)
  intro programId
  apply Orderly.bind (.lift _)
  intro payer
  apply Orderly.bind (marketField_orderly _ _)
  intro state
  apply Orderly.bind (.lift _)
  intro coinWallet
  apply Orderly.bind (.lift _)
  intro pcWallet
  exact .bind (.mapErr (SerumClient.matchOrders_orderly (below_empty _) _ _ _ _ _)) fun _ =>
    .pure _

theorem monitorQueue_orderly (r : MonitorQueueRequest) : Orderly may ∅ (monitorQueue crates r) := by
  apply Orderly.bind (.lift _)
  intro programId
  apply Orderly.bind (marketField_orderly _ _)
  intro state
  apply Orderly.bind (.locked (below_empty _) (.spawnMonitor _ _))
  intro _
  exact .locked (below_empty _) (.spawnMonitor _ _)

end DexHandlers

theorem task_disciplined {ε α : Type} {handler : Svc ε α} (orderly : Orderly may ∅ handler) :
    Disciplined (L := service) lockRank may ∅ ∅ (task handler) :=
  Disciplined.bind orderly fun _ => rfl

/-- Every request is served with the guards taken in rank order, unless it is a
genesis request that gets past its rent query. -/
theorem serve_disciplined (request : Request) (passes : Nat)
    (stops : ∀ event, may event → ¬ request.PassesRentQuery crates event) :
    Disciplined (L := service) lockRank may ∅ ∅ (request.serve crates passes) := by
  cases request with
  | sendTx tx => exact task_disciplined (Broadcast.sendTx_orderly passes tx)
  | runGenesis r => exact task_disciplined (Broadcast.runGenesis_orderly r stops)
  | runInitializeTokenAccount r =>
      exact task_disciplined (Broadcast.runInitializeTokenAccount_orderly r)
  | runCreateAccount r => exact task_disciplined (Broadcast.runCreateAccount_orderly r)
  | runMint r => exact task_disciplined (Broadcast.runMint_orderly r)
  | getMarketPubkeys r => exact task_disciplined (DexHandlers.getMarketPubkeys_orderly r)
  | listMarket r => exact task_disciplined (DexHandlers.listMarket_orderly r)
  | consumeEvents r => exact task_disciplined (DexHandlers.consumeEvents_orderly r)
  | initOpenOrder r => exact task_disciplined (DexHandlers.initOpenOrder_orderly r)
  | newOrder r => exact task_disciplined (DexHandlers.newOrder_orderly r)
  | cancelOrder r => exact task_disciplined (DexHandlers.cancelOrder_orderly r)
  | settleFunds r => exact task_disciplined (DexHandlers.settleFunds_orderly r)
  | closeOpenOrders r => exact task_disciplined (DexHandlers.closeOpenOrders_orderly r)
  | matchOrders r => exact task_disciplined (DexHandlers.matchOrders_orderly r)
  | monitorQueue r => exact task_disciplined (DexHandlers.monitorQueue_orderly r)

end Handlers

section Runs

variable {Task : Type} [DecidableEq Task]

def serving (crates : Crates) (request : Task → Request) (passes : Task → Nat) :
    State service Task Unit :=
  initial fun index => (request index).serve crates (passes index)

/-- In every run in which no genesis request gets past its rent query, no
tasks wait for each other in a circle and no task asks for a mutex it holds. -/
theorem sharedClients_never_deadlock (crates : Crates) (request : Task → Request)
    (passes : Task → Nat) (state : State service Task Unit)
    (reached : Reached (fun index event => ¬ (request index).PassesRentQuery crates event)
      (serving crates request passes) state) :
    (∀ waiting : Finset Task, ¬ Deadlocked state waiting) ∧
      ∀ index mutex, Requests state index mutex → state.owner mutex ≠ some index := by
  have ordered : Ordered (L := service) lockRank
      (fun index event => ¬ (request index).PassesRentQuery crates event) state :=
    Ordered.reached
      (Ordered.initial fun index => serve_disciplined (request index) (passes index)
        fun _ permitted => permitted) reached
  exact ⟨ordered.not_deadlocked, fun _ _ requests => ordered.not_relocks requests⟩

end Runs

def rentOnly : Replies where
  rpc
    | .getMinimumBalanceForRentExemption _ => .ok (0 : UInt64)
    | _ => .error ⟨"unavailable"⟩
  transmits := false
  elapsed := 0
  keypair := Reference.keypair
  random := 0
  signature := Reference.signature

/-- Two batches are being sent and the first has the RPC client: no deadlock. -/
theorem sharedClients_never_deadlock_two_batches :
    ∃ state : State service (Fin 2) Unit,
      state.owner ServiceMutex.broadcastRpc = some 0 ∧
      ∀ waiting : Finset (Fin 2), ¬ Deadlocked state waiting := by
  let request : Fin 2 → Request := fun _ => .sendTx [Reference.emptyWire]
  have permitted : ∀ index event, ¬ (request index).PassesRentQuery referenceCrates event := by
    rintro index event ⟨r, _, _, _, _, _, _, isGenesis, _⟩
    cases isGenesis
  have plays : play (L := service) rentOnly.answer
      (serving referenceCrates request fun _ => 1) [1, 0, 0] = some _ := rfl
  have safe := sharedClients_never_deadlock referenceCrates request (fun _ => 1) _
    (play_reached permitted plays)
  exact ⟨_, rfl, safe.1⟩

/-- A well-formed genesis request; both public keys are points of the curve. -/
def genesisRequest : Broadcast.Genesis where
  payer := some ⟨some (.privateKey (List.replicate 32 1 ++ 88 :: List.replicate 31 102))⟩
  mint := some ⟨some (.privateKey (List.replicate 32 2 ++ 1 :: List.replicate 31 0))⟩
  owner := some ⟨List.replicate 32 1⟩
  decimals := [6]

/-- A genesis request, alone in the service, comes to wait for the RPC client
that it holds. -/
theorem runGenesis_waits_for_itself :
    ∃ state : State service (Fin 1) Unit,
      Reached (fun _ _ => True)
        (serving referenceCrates (fun _ => .runGenesis genesisRequest) fun _ => 0) state ∧
      Requests state 0 ServiceMutex.broadcastRpc ∧
      state.owner ServiceMutex.broadcastRpc = some 0 ∧
      Deadlocked state {0} := by
  have plays : play (L := service) rentOnly.answer
      (serving referenceCrates (fun _ : Fin 1 => .runGenesis genesisRequest) fun _ => 0)
      [0, 0] = some _ := rfl
  refine ⟨_, play_reached (fun _ _ => trivial) plays, ⟨_, _, rfl, rfl⟩, rfl,
    Finset.singleton_nonempty 0, fun index isZero => ?_⟩
  cases Finset.mem_singleton.mp isZero
  exact ⟨ServiceMutex.broadcastRpc, ⟨_, _, rfl, rfl⟩, 0, Finset.mem_singleton_self 0, rfl⟩

end RustHelper
