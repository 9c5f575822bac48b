import RustHelper.NewOrder
import RustHelper.SerumClient

/-!
# The DEX server

The handlers of `serum.rs`: each decodes its request field by field, looks the
market up and calls one method of the client.
-/

namespace RustHelper.DexHandlers

open Effect

variable (crates : Crates)

section Messages

structure SignedTx where
  tx : List UInt8

structure MarketRequest where
  dexProgramId : Option PbProgramId
  market : Option PbPubkey

structure ListMarketRequest where
  payer : Option PbKeypair
  dexProgramId : Option PbProgramId
  coinMint : Option PbPubkey
  pcMint : Option PbPubkey
  coinLotSize : UInt64
  pcLotSize : UInt64

structure ListMarketResponse where
  marketPubkeys : Option PbMarketPubkeys
  tx : Option SignedTx

/-- `ConsumeEventsRequest` and `MatchOrdersRequest`, as far as they are read. -/
structure CrankRequest where
  dexProgramId : Option PbProgramId
  payer : Option PbKeypair
  market : Option PbMarketState
  coinWallet : Option PbPubkey
  pcWallet : Option PbPubkey

/-- `InitOpenOrderRequest` and `CloseOpenOrderRequest`. -/
structure OpenOrderRequest where
  dexProgramId : Option PbProgramId
  owner : Option PbKeypair
  market : Option PbMarketState
  orders : Option PbPubkey

structure CancelOrderRequest where
  dexProgramId : Option PbProgramId
  owner : Option PbKeypair
  market : Option PbMarketState
  orders : Option PbPubkey
  id : UInt64

structure SettleFundsRequest where
  payer : Option PbKeypair
  dexProgramId : Option PbProgramId
  market : Option PbMarketState
  orders : Option PbPubkey
  coinWallet : Option PbPubkey
  pcWallet : Option PbPubkey
  signer : Option PbKeypair

structure MonitorQueueRequest where
  dexProgramId : Option PbProgramId
  market : Option PbMarketState

end Messages

section Fields

def programIdField (field : Option PbProgramId) : Outcome Status Pubkey :=
  match field with
  | some programId => pubkeyField programId.id (.internal "bad program id")
  | none => .err (.internal "bad program id")

/-- A key pair of a request: a missing one is an internal error, a bad one an
invalid argument. -/
def keypairField (field : Option PbKeypair) (errmsg : String) : Outcome Status Keypair :=
  match field with
  | some x => (convertKeypair crates x).mapErr fun _ => .invalidArgument errmsg
  | none => .err (.internal errmsg)

def optionalPubkey (field : Option PbPubkey) (error : Status) : Outcome Status (Option Pubkey) :=
  match field with
  | some x => do
      let y ← (convertPubkey x).mapErr fun _ => error
      .ok (some y)
  | none => .ok none

def optionalKeypair (field : Option PbKeypair) (error : Status) :
    Outcome Status (Option Keypair) :=
  match field with
  | some x => do
      let y ← (convertKeypair crates x).mapErr fun _ => error
      .ok (some y)
  | none => .ok none

/-- The open-orders account where it is required: the error for a missing one
differs from the error for a bad one. -/
def ordersField (field : Option PbPubkey) (bad missing : Status) : Outcome Status Pubkey :=
  match field with
  | some x => (convertPubkey x).mapErr fun _ => bad
  | none => .err missing

/-- The market of a request, looked up by the client. -/
def marketField (programId : Pubkey) (market : Option PbMarketState) : Svc Status MarketPubkeys :=
  match market with
  | some pbState =>
      Fallible.mapErr (fun _ => Status.invalidArgument "bad market")
        (SerumClient.convertState crates .dexRpc programId pbState)
  | none => Fallible.throw (.invalidArgument "bad market")

end Fields

section Handlers

def getMarketPubkeys (r : MarketRequest) : Svc Status PbMarketPubkeys := do
  let programId ← Fallible.lift (programIdField r.dexProgramId)
  let market ← Fallible.lift (pubkeyField r.market (.internal "bad market pubkey"))
  let state ← Fallible.mapErr (fun _ => Status.internal "failed to get market")
    (SerumClient.getKeysForMarket crates .dexRpc programId market)
  pure (convertMarketPubkeys state)

def listMarket (r : ListMarketRequest) : Svc Status ListMarketResponse := do
  let payer ← Fallible.lift (keypairField crates r.payer "bad payer")
  let programId ← Fallible.lift (programIdField r.dexProgramId)
  let coinMint ← Fallible.lift (pubkeyField r.coinMint (.internal "bad coin_mint"))
  let pcMint ← Fallible.lift (pubkeyField r.pcMint (.internal "bad pc_mint"))
  let (signedTx, mp) ← Fallible.mapErr (fun _ => Status.internal "failed to process")
    (SerumClient.listMarket crates .dexRpc programId payer coinMint pcMint r.coinLotSize
      r.pcLotSize)
  pure ⟨some (convertMarketPubkeys mp), some ⟨signedTx⟩⟩

def consumeEvents (r : CrankRequest) : Svc Status SignedTx := do
  let programId ← Fallible.lift (programIdField r.dexProgramId)
  let payer ← Fallible.lift (keypairField crates r.payer "bad payer")
  let state ← marketField crates programId r.market
  let coinWallet ← Fallible.lift (pubkeyField r.coinWallet (.internal "bad coin_mint"))
  let pcWallet ← Fallible.lift (pubkeyField r.pcWallet (.internal "bad pc_mint"))
  let signedTx ← Fallible.mapErr (fun _ => Status.internal "failed to consume events")
    (SerumClient.consumeEvents crates .dexRpc programId payer state coinWallet pcWallet)
  pure ⟨signedTx⟩

def initOpenOrder (r : OpenOrderRequest) : Svc Status SignedTx := do
  let programId ← Fallible.lift (programIdField r.dexProgramId)
  let owner ← Fallible.lift (keypairField crates r.owner "bad owner")
  let state ← marketField crates programId r.market
  let orders ← Fallible.lift (optionalPubkey r.orders (.invalidArgument "bad orders"))
  let signedTx ← Fallible.mapErr (fun _ => Status.internal "bad init orders")
    ((SerumClient.initOpenOrders crates .dexRpc programId owner state).call orders)
  pure ⟨signedTx⟩

def newOrder (r : PbOrder) : Svc Status SignedTx := do
  let programId ← Fallible.lift (programIdField r.dexProgramId)
  let payer ← Fallible.lift (keypairField crates r.payer "bad payer")
  let wallet ← Fallible.lift (pubkeyField r.wallet (.internal "bad wallet"))
  let state ← marketField crates programId r.market
  -- the message is still that of the market
  let orders ← Fallible.lift (optionalPubkey r.orders (.internal "bad market"))
  let newOrder ← Fallible.lift (convertNewOrderV3 r)
  let signedTx ← Fallible.mapErr (fun _ => Status.internal "failed to place order")
    ((SerumClient.placeOrder crates .dexRpc programId payer wallet state newOrder).call orders)
  pure ⟨signedTx⟩

def cancelOrder (r : CancelOrderRequest) : Svc Status SignedTx := do
  let programId ← Fallible.lift (programIdField r.dexProgramId)
  let owner ← Fallible.lift (keypairField crates r.owner "bad owner")
  let state ← marketField crates programId r.market
  let orders ← Fallible.lift (ordersField r.orders (.internal "bad orders")
    (.invalidArgument "bad orders"))
  let signedTx ← Fallible.mapErr (fun _ => Status.internal "failed to cancel")
    (SerumClient.cancelOrderByClientOrderId crates .dexRpc programId owner state orders r.id)
  pure ⟨signedTx⟩

def settleFunds (r : SettleFundsRequest) : Svc Status SignedTx := do
  let payer ← Fallible.lift (keypairField crates r.payer "bad payer")
  let programId ← Fallible.lift (programIdField r.dexProgramId)
  let state ← marketField crates programId r.market
  let order ← Fallible.lift (pubkeyField r.orders (.internal "bad order"))
  let coinWallet ← Fallible.lift (pubkeyField r.coinWallet (.internal "bad coin_wallet"))
  let pcWallet ← Fallible.lift (pubkeyField r.pcWallet (.internal "bad pc_wallet"))
  let signer ← Fallible.lift (optionalKeypair crates r.signer
    (.invalidArgument "failed to settle funds"))
  let signedTx ← Fallible.mapErr (fun _ => Status.internal "failed to settle funds")
    (SerumClient.settleFunds crates .dexRpc programId payer state signer order coinWallet pcWallet)
  pure ⟨signedTx⟩

def closeOpenOrders (r : OpenOrderRequest) : Svc Status SignedTx := do
  let programId ← Fallible.lift (programIdField r.dexProgramId)
  let owner ← Fallible.lift (keypairField crates r.owner "bad owner")
  let state ← marketField crates programId r.market
  let orders ← Fallible.lift (ordersField r.orders (.internal "bad market")
    (.invalidArgument "bad order"))
  let signedTx ← Fallible.mapErr (fun _ => Status.internal "failed to close open orders")
    (SerumClient.closeOpenOrders crates .dexRpc programId owner state orders)
  pure ⟨signedTx⟩

def matchOrders (r : CrankRequest) : Svc Status SignedTx := do
  let programId ← Fallible.lift (programIdField r.dexProgramId)
  let payer ← Fallible.lift (keypairField crates r.payer "bad payer")
  let state ← marketField crates programId r.market
  let coinWallet ← Fallible.lift (pubkeyField r.coinWallet (.internal "bad coin_wallet"))
  let pcWallet ← Fallible.lift (pubkeyField r.pcWallet (.internal "bad pc_wallet"))
  let signedTx ← Fallible.mapErr (fun _ => Status.internal "failed to match orders")
    (SerumClient.matchOrders crates .dexRpc programId payer state coinWallet pcWallet)
  pure ⟨signedTx⟩

/-- The stream is filled by the two spawned tasks, each started while the guard
of the runtime is a temporary of the statement. -/
def monitorQueue (r : MonitorQueueRequest) : Svc Status Unit := do
  let programId ← Fallible.lift (programIdField r.dexProgramId)
  let state ← marketField crates programId r.market
  locked .dexRuntime (spawnMonitor .bids state.bids)
  locked .dexRuntime (spawnMonitor .asks state.asks)

end Handlers

end RustHelper.DexHandlers
