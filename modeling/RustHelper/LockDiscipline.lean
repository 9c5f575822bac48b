import RustHelper.Broadcast
import RustHelper.DexHandlers

/-!
# Which guards the functions hold

The TPU mutex of the broadcast server ranks below every other mutex.  All
functions take mutexes in rank order, except the two that keep their RPC guard
to the end and call functions that take it again.
-/

namespace RustHelper

open Effect

def lockRank : ServiceMutex → Nat
  | .broadcastTpu => 0
  | _ => 1

section Operations

variable {ε α β : Type} {may : ServiceEvent → Prop} {held : Set ServiceMutex}

/-- The guards are taken in rank order and given back. -/
def Orderly (may : ServiceEvent → Prop) (held : Set ServiceMutex) (program : Svc ε α) : Prop :=
  Fallible.Keeps (L := service) lockRank may held program

def Below (held : Set ServiceMutex) (mutex : ServiceMutex) : Prop :=
  ∀ other ∈ held, lockRank other < lockRank mutex

theorem below_empty (mutex : ServiceMutex) : Below ∅ mutex := by
  intro other isHeld
  exact absurd isHeld (Set.notMem_empty other)

namespace Orderly

theorem pure (value : α) : Orderly may held (Pure.pure value : Svc ε α) :=
  Fallible.Keeps.pure (L := service) value

theorem lift (outcome : Outcome ε α) : Orderly may held (Fallible.lift outcome : Svc ε α) :=
  Fallible.Keeps.lift (L := service) outcome

theorem throw (error : ε) : Orderly may held (Fallible.throw error : Svc ε α) :=
  Fallible.Keeps.throw (L := service) error

theorem bind {program : Svc ε α} {next : α → Svc ε β} (first : Orderly may held program)
    (rest : ∀ value, Orderly may held (next value)) : Orderly may held (program >>= next) :=
  Fallible.Keeps.bind first rest

theorem mapErr {δ : Type} {program : Svc ε α} {translate : ε → δ}
    (first : Orderly may held program) : Orderly may held (Fallible.mapErr translate program) :=
  Fallible.Keeps.mapErr first

theorem locked {mutex : ServiceMutex} {body : Svc ε α} (below : Below held mutex)
    (inside : Orderly may (insert mutex held) body) :
    Orderly may held (RustHelper.locked mutex body) :=
  Fallible.Keeps.withGuard (L := service) below inside

theorem rpc (call : RpcCall) : Orderly may held (RustHelper.rpc call : Svc ε _) :=
  Fallible.Keeps.perform (L := service) rfl

theorem rpcTry (call : RpcCall) : Orderly may held (RustHelper.rpcTry call) :=
  (rpc call).bind fun _ => lift _

theorem sendTransactionWithConfig (entry : Option Nat) (tx : Transaction)
    (config : RpcSendTransactionConfig) :
    Orderly may held (RustHelper.sendTransactionWithConfig entry tx config : Svc ε _) :=
  (rpc _).bind fun _ => lift _

theorem tryForeign (result : Except ForeignError α) :
    Orderly may held (RustHelper.tryForeign result) :=
  lift _

theorem elapsedSecs : Orderly may held (RustHelper.elapsedSecs : Svc ε _) :=
  Fallible.Keeps.perform (L := service) rfl

theorem sleep (milliseconds : Nat) : Orderly may held (RustHelper.sleep milliseconds : Svc ε _) :=
  Fallible.Keeps.perform (L := service) rfl

theorem generateKeypair : Orderly may held (RustHelper.generateKeypair : Svc ε _) :=
  Fallible.Keeps.perform (L := service) rfl

theorem sendWireTransaction (entry : Nat) (wire : List UInt8) :
    Orderly may held (RustHelper.sendWireTransaction entry wire : Svc ε _) :=
  Fallible.Keeps.perform (L := service) rfl

theorem spawnMonitor (side : MonitoredSide) (target : Pubkey) :
    Orderly may held (RustHelper.spawnMonitor side target : Svc ε _) :=
  Fallible.Keeps.perform (L := service) rfl

theorem newSignedWithPayer (instructions : List Instruction) (payer : Option Pubkey)
    (signers : List Keypair) (recentBlockhash : Hash) :
    Orderly may held
      (RustHelper.newSignedWithPayer instructions payer signers recentBlockhash : Svc ε _) := by
  apply bind (Fallible.Keeps.perform (L := service) rfl)
  intro _
  split
  · exact pure _
  · exact lift _

/-- What follows a query does not matter when the query is never granted. -/
theorem rpcTry_refused {call : RpcCall} {next : call.Reply → Svc AnyError α}
    (refused : ∀ reply, ¬ may ⟨.rpc call, .ok reply⟩) :
    Orderly may held (RustHelper.rpcTry call >>= next) := by
  rintro (error | reply) granted
  · rfl
  · exact absurd granted (refused reply)

end Orderly

end Operations

variable {may : ServiceEvent → Prop} {held : Set ServiceMutex} {crates : Crates}
  {rClient : ServiceMutex}

namespace Rpcnb

theorem getMinimumBalanceForRentExemption_orderly (below : Below held rClient) (len : Nat) :
    Orderly may held (getMinimumBalanceForRentExemption rClient len) :=
  .locked below (.rpcTry _)

theorem getLatestBlockhash_orderly (below : Below held rClient) :
    Orderly may held (getLatestBlockhash rClient) :=
  .locked below (.rpcTry _)

theorem sendTxn_orderly (below : Below held rClient) (txn : Transaction) (simulate : Bool) :
    Orderly may held (sendTxn rClient txn simulate) :=
  .locked below (.rpcTry _)

/-- What every builder does with its instructions and signers. -/
theorem signed_orderly {α : Type} (below : Below held rClient)
    {instructions : List Instruction} {payer : Option Pubkey} {signers : List Keypair}
    {next : Transaction → Svc AnyError α} (rest : ∀ txn, Orderly may held (next txn)) :
    Orderly may held (do
      let recentHash ← getLatestBlockhash rClient
      let txn ← newSignedWithPayer instructions payer signers recentHash
      next txn) := by
  apply Orderly.bind (getLatestBlockhash_orderly below)
  intro recentHash
  apply Orderly.bind (.newSignedWithPayer _ _ _ _)
  intro txn
  exact rest txn

theorem simulateTransaction_orderly (below : Below held rClient) (transaction : Transaction)
    (sigVerify : Bool) (cfg : CommitmentLevel) :
    Orderly may held (simulateTransaction crates rClient transaction sigVerify cfg) := by
  unfold simulateTransaction
  split
  · exact .lift _
  · exact .locked below (.bind (.rpcTry _) fun _ => .pure _)

theorem createTokenAccountInstructions_orderly (below : Below held rClient)
    (splAccount mintPubkey ownerPubkey : Pubkey) (payer : Keypair) :
    Orderly may held
      (createTokenAccountInstructions crates rClient splAccount mintPubkey ownerPubkey payer) := by
  apply Orderly.locked below
  apply Orderly.bind (.rpcTry _)
  intro lamports
  exact .bind (.tryForeign _) fun initAccountInstr => .pure _

theorem createTokenAccount_orderly (below : Below held rClient)
    (mintPubkey ownerPubkey : Pubkey) (payer : Keypair) :
    Orderly may held (createTokenAccount crates rClient mintPubkey ownerPubkey payer) := by
  apply Orderly.bind .generateKeypair
  intro splAccount
  apply Orderly.bind (createTokenAccountInstructions_orderly below _ _ _ _)
  intro instructions
  apply signed_orderly below
  intro txn
  exact .bind (sendTxn_orderly below _ _) fun _ => .pure _

/-- The guard that is not scoped does no harm when the function stops at the
rent query or at the instruction. -/
theorem createAndInitMint_orderly (below : Below held rClient) {payer mint : Keypair}
    {owner : Pubkey} {decimals : UInt8}
    (stops : (∃ instruction,
        crates.initializeMint crates.splToken mint.pubkey owner none decimals =
          .ok instruction) →
      ∀ reply, ¬ may ⟨.rpc (.getMinimumBalanceForRentExemption crates.mintLen), .ok reply⟩) :
    Orderly may held (createAndInitMint crates rClient payer mint owner decimals) := by
  apply Orderly.locked below
  cases built : crates.initializeMint crates.splToken mint.pubkey owner none decimals with
  | ok instruction => exact .rpcTry_refused (stops ⟨instruction, built⟩)
  | error _ => exact .bind (.rpcTry _) fun lamports => .lift _

end Rpcnb

namespace Util

theorem copied_orderly {ε : Type} (key : Keypair) :
    Orderly may held (copied crates key : Svc ε Keypair) := by
  unfold copied
  split
  · exact .pure _
  · exact .lift _

theorem sendTxn_orderly (below : Below held rClient) (txn : Transaction) (simulate : Bool) :
    Orderly may held (sendTxn rClient txn simulate) := by
  apply Orderly.bind (.locked below (.rpcTry _))
  intro sig
  apply Orderly.locked below
  apply Orderly.bind (.rpcTry _)
  intro confirmed
  split
  · exact .pure _
  · exact .throw _

theorem initializeTokenAccount_orderly (below : Below held rClient) (mint : Pubkey)
    (owner : Keypair) : Orderly may held (initializeTokenAccount crates rClient mint owner) := by
  apply Orderly.bind .generateKeypair
  intro recipKeypair
  apply Orderly.bind (Rpcnb.getMinimumBalanceForRentExemption_orderly below _)
  intro lamports
  apply Orderly.bind (.tryForeign _)
  intro initRecipInstr
  apply Orderly.bind (copied_orderly _)
  intro o1
  apply Rpcnb.signed_orderly below
  intro txn
  exact .bind (sendTxn_orderly below _ _) fun _ => .pure _

theorem mintToExistingAccount_orderly (below : Below held rClient) (payer mintingKey : Keypair)
    (mint recipient : Pubkey) (quantity : UInt64) :
    Orderly may held
      (mintToExistingAccount crates rClient payer mintingKey mint recipient quantity) := by
  apply Orderly.bind (copied_orderly _)
  intro payer1
  apply Orderly.bind (copied_orderly _)
  intro mintingKey1
  apply Orderly.bind (.tryForeign _)
  intro mintTokensInstr
  apply Rpcnb.signed_orderly below
  intro txn
  exact .bind (sendTxn_orderly below _ _) fun _ => .pure _

theorem createAccount_orderly (below : Below held rClient) (mintPubkey ownerPubkey : Pubkey)
    (payer : Keypair) :
    Orderly may held (createAccount crates rClient mintPubkey ownerPubkey payer) := by
  apply Orderly.bind .generateKeypair
  intro splAccount
  apply Orderly.bind (Rpcnb.getMinimumBalanceForRentExemption_orderly below _)
  intro lamports
  apply Orderly.bind (.tryForeign _)
  intro initAccountInstr
  apply Rpcnb.signed_orderly below
  intro txn
  exact .bind (Rpcnb.sendTxn_orderly below _ _) fun _ => .pure _

end Util

namespace SerumClient

theorem getKeysForMarket_orderly (below : Below held rClient) (programId market : Pubkey) :
    Orderly may held (getKeysForMarket crates rClient programId market) := by
  apply Orderly.locked below
  apply Orderly.bind (.rpc _)
  intro accountData
  cases accountData with
  | ok accountData => exact .lift _
  | error e => exact .throw _

theorem convertState_orderly (below : Below held rClient) (programId : Pubkey)
    (req : PbMarketState) :
    Orderly may held (convertState crates rClient programId req) := by
  unfold convertState
  split
  · exact .bind (.lift _) fun market => .mapErr (getKeysForMarket_orderly below _ _)
  · exact .lift _
  · exact .throw _

theorem consumeEventsInstruction_orderly (below : Below held rClient) (programId : Pubkey)
    (state : MarketPubkeys) (coinWallet pcWallet : Pubkey) :
    Orderly may held
      (consumeEventsInstruction crates rClient programId state coinWallet pcWallet) :=
  .bind (.locked below (.rpcTry _)) fun _ => .lift _

theorem consumeEvents_orderly (below : Below held rClient) (programId : Pubkey)
    (payer : Keypair) (state : MarketPubkeys) (coinWallet pcWallet : Pubkey) :
    Orderly may held (consumeEvents crates rClient programId payer state coinWallet pcWallet) := by
  apply Orderly.bind (consumeEventsInstruction_orderly below _ _ _ _)
  intro instruction
  cases instruction with
  | none => exact .throw _
  | some instruction =>
      exact Rpcnb.signed_orderly below fun txn => .tryForeign _

theorem failOnSimulationError_orderly (err : Option ForeignError) :
    Orderly may held (failOnSimulationError err) := by
  cases err with
  | none => exact .pure _
  | some e => exact .throw _

theorem serialized_orderly (txn : Transaction) : Orderly may held (serialized crates txn) := by
  unfold serialized
  split
  · exact .pure _
  · exact .throw _

/-- The common end of the builders that simulate what they have signed. -/
theorem signed_simulated_orderly {α : Type} (below : Below held rClient)
    {instructions : List Instruction} {payer : Option Pubkey} {signers : List Keypair}
    {cfg : CommitmentLevel} {next : Transaction → Svc AnyError α}
    (rest : ∀ txn, Orderly may held (next txn)) :
    Orderly may held (do
      let recentHash ← Rpcnb.getLatestBlockhash rClient
      let txn ← newSignedWithPayer instructions payer signers recentHash
      let result ← Rpcnb.simulateTransaction crates rClient txn true cfg
      failOnSimulationError result
      next txn) := by
  apply Rpcnb.signed_orderly below
  intro txn
  apply Orderly.bind (Rpcnb.simulateTransaction_orderly below _ _ _)
  intro result
  exact .bind (failOnSimulationError_orderly _) fun _ => rest txn

theorem cancelOrderByClientOrderId_orderly (below : Below held rClient) (programId : Pubkey)
    (owner : Keypair) (state : MarketPubkeys) (orders : Pubkey) (clientOrderId : UInt64) :
    Orderly may held
      (cancelOrderByClientOrderId crates rClient programId owner state orders clientOrderId) :=
  .bind (.tryForeign _) fun _ => signed_simulated_orderly below fun _ => .tryForeign _

theorem closeOpenOrders_orderly (below : Below held rClient) (programId : Pubkey)
    (owner : Keypair) (state : MarketPubkeys) (orders : Pubkey) :
    Orderly may held (closeOpenOrders crates rClient programId owner state orders) := by
  apply Orderly.bind (.tryForeign _)
  intro ix
  apply signed_simulated_orderly below
  intro txn
  split
  · exact .pure _
  · exact .throw _

theorem createDexAccount_orderly (below : Below held rClient) (programId payer : Pubkey)
    (unpaddedLen : Nat) :
    Orderly may held (createDexAccount crates rClient programId payer unpaddedLen) := by
  apply Orderly.bind .generateKeypair
  intro key
  exact .bind (Rpcnb.getMinimumBalanceForRentExemption_orderly below _) fun lamports => .pure _

theorem ordersOrNew_keeps (below : Below held rClient) (programId payer : Pubkey) :
    InOut.Keeps (L := service) lockRank may held
      (ordersOrNew crates rClient programId payer) := by
  refine .bind .read fun orders => ?_
  cases orders with
  | some pk => exact .pure _
  | none => exact .bind (.lift (createDexAccount_orderly below _ _ _)) fun created => .pure _

theorem initOpenOrders_orderly (below : Below held rClient) (programId : Pubkey)
    (owner : Keypair) (state : MarketPubkeys) (slot : Option Pubkey) :
    Orderly may held ((initOpenOrders crates rClient programId owner state).call slot) := by
  refine InOut.Keeps.call (L := service) ?_ slot
  refine .bind (ordersOrNew_keeps below _ _) fun opened => ?_
  refine .bind (.assign _) fun _ => ?_
  refine .bind (.lift (Orderly.tryForeign _)) fun instruction => ?_
  refine .bind (.lift (Rpcnb.getLatestBlockhash_orderly below)) fun recentHash => ?_
  exact .bind (.lift (Orderly.newSignedWithPayer _ _ _ _)) fun txn =>
    .lift (Orderly.tryForeign _)

theorem placeOrder_orderly (below : Below held rClient) (programId : Pubkey) (payer : Keypair)
    (wallet : Pubkey) (state : MarketPubkeys) (newOrder : NewOrderInstructionV3)
    (slot : Option Pubkey) :
    Orderly may held
      ((placeOrder crates rClient programId payer wallet state newOrder).call slot) := by
  refine InOut.Keeps.call (L := service) ?_ slot
  refine .bind (ordersOrNew_keeps below _ _) fun opened => ?_
  refine .bind (.assign _) fun _ => ?_
  refine .bind (.lift (Rpcnb.getLatestBlockhash_orderly below)) fun recentHash => ?_
  exact .bind (.lift (Orderly.newSignedWithPayer _ _ _ _)) fun txn =>
    .lift (serialized_orderly _)

theorem settleFunds_orderly (below : Below held rClient) (programId : Pubkey)
    (payer : Keypair) (state : MarketPubkeys) (signer : Option Keypair)
    (orders coinWallet pcWallet : Pubkey) :
    Orderly may held
      (settleFunds crates rClient programId payer state signer orders coinWallet pcWallet) :=
  signed_simulated_orderly below fun txn => serialized_orderly txn

theorem matchOrders_orderly (below : Below held rClient) (programId : Pubkey)
    (payer : Keypair) (state : MarketPubkeys) (coinWallet pcWallet : Pubkey) :
    Orderly may held (matchOrders crates rClient programId payer state coinWallet pcWallet) :=
  signed_simulated_orderly below fun txn => serialized_orderly txn

theorem genListingParams_orderly (below : Below held rClient) (programId payer : Pubkey) :
    Orderly may held (genListingParams crates rClient programId payer) := by
  apply Orderly.bind (createDexAccount_orderly below _ _ _)
  intro createMarket
  apply Orderly.bind (createDexAccount_orderly below _ _ _)
  intro createReqQ
  apply Orderly.bind (createDexAccount_orderly below _ _ _)
  intro createEventQ
  apply Orderly.bind (createDexAccount_orderly below _ _ _)
  intro createBids
  apply Orderly.bind (createDexAccount_orderly below _ _ _)
  intro createAsks
  exact .bind (.lift _) fun vaultSigner => .pure _

theorem listMarket_orderly (below : Below held rClient) (programId : Pubkey) (payer : Keypair)
    (coinMint pcMint : Pubkey) (coinLotSize pcLotSize : UInt64) :
    Orderly may held
      (listMarket crates rClient programId payer coinMint pcMint coinLotSize pcLotSize) := by
  apply Orderly.bind (genListingParams_orderly below _ _)
  intro listing
  apply Orderly.bind (Rpcnb.createTokenAccount_orderly below _ _ _)
  intro coinVault
  apply Orderly.bind (Rpcnb.createTokenAccount_orderly below _ _ _)
  intro pcVault
  apply Orderly.bind (.tryForeign _)
  intro initMarketInstruction
  apply Rpcnb.signed_orderly below
  intro txn
  exact .bind (.tryForeign _) fun signedTx => .pure _

end SerumClient

end RustHelper
