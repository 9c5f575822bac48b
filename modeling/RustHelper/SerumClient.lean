import RustHelper.DexAccounts
import RustHelper.InOutProgram
import RustHelper.MarketKeys
import RustHelper.TokenAccounts
import Mathlib.Data.List.Destutter
import Mathlib.Data.List.Sort

/-!
# The client of the DEX program

The methods of `SerumClient`: reading markets and queues from the chain, and
building the transactions of the DEX service.
-/

namespace RustHelper.SerumClient

open ByteBlocks Effect

variable (crates : Crates) (rClient : ServiceMutex)

section Reading

/-- The `market_state` of `get_keys_for_market`, in the version that the flags select. -/
def readMarketState (accountFlags : AccountFlags) (words : List UInt64) :
    Outcome AnyError MarketState :=
  if accountFlags.permissioned then do
    let state ← Outcome.ofExcept (fun error => AnyError.transmute error.withoutSrc)
      (crates.transmuteMarketStateV2 (bytesOf words))
    let _ ← Outcome.ofExcept AnyError.foreign (crates.checkFlagsV2 state true)
    .ok state.inner
  else do
    let state ← Outcome.ofExcept (fun error => AnyError.transmute error.withoutSrc)
      (crates.transmuteMarketState (bytesOf words))
    let _ ← Outcome.ofExcept AnyError.foreign (crates.checkFlags state true)
    .ok state

/-- The keys that `get_keys_for_market` returns. -/
def marketKeysOf (market : Pubkey) (marketState : MarketState) (vaultSignerKey : Pubkey) :
    MarketPubkeys where
  market := market
  reqQ := marketState.reqQ.toPubkey
  eventQ := marketState.eventQ.toPubkey
  bids := marketState.bids.toPubkey
  asks := marketState.asks.toPubkey
  coinVault := marketState.coinVault.toPubkey
  pcVault := marketState.pcVault.toPubkey
  vaultSignerKey := vaultSignerKey

/-- `get_keys_for_market`, from the account data on. -/
def decodeMarketKeys (programId market : Pubkey) (accountData : Buffer) :
    Outcome AnyError MarketPubkeys := do
  let words ← removeDexAccountPadding crates accountData
  let accountFlags ← Outcome.ofExcept AnyError.foreign (crates.accountFlags accountData.bytes)
  let marketState ← readMarketState crates accountFlags words.words
  let vaultSignerKey ← Outcome.ofExcept AnyError.foreign
    (crates.genVaultSignerKey marketState.vaultSignerNonce market programId)
  if bytesOf marketState.ownAddress.toList = market.bytes then
    .ok (marketKeysOf market marketState vaultSignerKey)
  else
    .panic "assertion failed: (left == right)"

def getKeysForMarket (programId market : Pubkey) : Svc AnyError MarketPubkeys :=
  locked rClient do
    let accountData ← rpc (.getAccountData market)
    match accountData with
    | .ok accountData => Fallible.lift (decodeMarketKeys crates programId market accountData)
    | .error e => Fallible.throw (.message e.display)

def convertState (programId : Pubkey) (req : PbMarketState) : Svc AnyError MarketPubkeys :=
  match req.market with
  | some (.id id) => do
      let market ← Fallible.lift ((convertPubkey id).mapErr fun _ => .message "bad market state")
      Fallible.mapErr (fun _ => .message "failed to get market")
        (getKeysForMarket crates rClient programId market)
  | some (.state pbState) => Fallible.lift (reverseMarketPubkeys pbState)
  | none => Fallible.throw (.message "blank market")

/-- Sorted, adjacent equals removed, cut to 32. -/
def ordersAccounts (owners : List Words4) : List Words4 :=
  ((owners.insertionSort (· ≤ ·)).destutter (· ≠ ·)).take 32

/-- `consume_events_instruction`, from the two queue segments on. -/
def crankInstruction (programId : Pubkey) (state : MarketPubkeys) (coinWallet pcWallet : Pubkey)
    (seg0 seg1 : List (Block 88)) : Option Instruction :=
  if seg0.length + seg1.length = 0 then
    none
  else
    let accounts := (seg0 ++ seg1).map crates.eventOwner
    let orderMetas := (ordersAccounts accounts).map fun pubkeyWords =>
      AccountMeta.new pubkeyWords.toPubkey false
    let accountMetas := orderMetas ++
      [state.market, state.eventQ, coinWallet, pcWallet].map fun pubkey =>
        AccountMeta.new pubkey false
    some
      { programId := programId
        accounts := accountMetas
        data := crates.pack (.consumeEvents (UInt16.ofNat accountMetas.length)) }

/-- `consume_events_instruction`, from the account data on. -/
def decodeCrankInstruction (programId : Pubkey) (state : MarketPubkeys)
    (coinWallet pcWallet : Pubkey) (eventQData : Buffer) :
    Outcome AnyError (Option Instruction) := do
  let inner ← removeDexAccountPadding crates eventQData
  let (_, seg0, seg1) ← parseEventQueue crates inner.words
  .ok (crankInstruction crates programId state coinWallet pcWallet seg0 seg1)

def consumeEventsInstruction (programId : Pubkey) (state : MarketPubkeys)
    (coinWallet pcWallet : Pubkey) : Svc AnyError (Option Instruction) := do
  let eventQData ← locked rClient do
    let eventQData ← rpcTry (.getAccountData state.eventQ)
    pure eventQData
  Fallible.lift (decodeCrankInstruction crates programId state coinWallet pcWallet eventQData)

/-- `read_queue_length_loop_single`, from the queue account data on. -/
def decodeQueueLength (eventQData : Buffer) : Outcome AnyError Unit := do
  let inner ← removeDexAccountPadding crates eventQData
  let (_, seg0, seg1) ← parseEventQueue crates inner.words
  let _len := seg0.length + seg1.length
  .ok ()

def readQueueLengthLoopSingle (programId market : Pubkey) : Svc AnyError Unit := do
  let marketKeys ← getKeysForMarket crates rClient programId market
  locked rClient do
    let value ← rpcTry (.getAccountWithCommitment marketKeys.eventQ .processed)
    match (value : Option Buffer) with
    | some eventQData => Fallible.lift (decodeQueueLength crates eventQData)
    | none => Fallible.throw (.message "no value")

end Reading

section Building

def consumeEvents (programId : Pubkey) (payer : Keypair) (state : MarketPubkeys)
    (coinWallet pcWallet : Pubkey) : Svc AnyError (List UInt8) := do
  let i ← consumeEventsInstruction crates rClient programId state coinWallet pcWallet
  match i with
  | none => Fallible.throw (.message "no instruction")
  | some instruction => do
      let recentHash ← Rpcnb.getLatestBlockhash rClient
      let txn ← newSignedWithPayer [instruction] (some payer.pubkey) [payer] recentHash
      tryForeign (crates.serialize txn)

def consumeEventsOnce (programId : Pubkey) (payer : Keypair) (accountMetas : List AccountMeta)
    (toConsume : Nat) : Svc AnyError Signature := do
  let instructionData := crates.pack (.consumeEvents (UInt16.ofNat toConsume))
  let instruction : Instruction := ⟨programId, accountMetas, instructionData⟩
  let random ← randomU64
  let randomInstruction := crates.systemTransfer payer.pubkey payer.pubkey (random % 10000 + 1)
  let recentHash ← Rpcnb.getLatestBlockhash rClient
  let txn ← newSignedWithPayer [instruction, randomInstruction] (some payer.pubkey) [payer]
    recentHash
  locked rClient do
    let sent ← sendTransactionWithConfig none txn { skipPreflight := true }
    match sent with
    | .ok signature => pure (signature : Signature)
    | .error e => Fallible.throw (.message e.display)

/-- `if let Some(e) = result.err { return Err(format_err!(..)) }` -/
def failOnSimulationError (err : Option ForeignError) : Svc AnyError Unit :=
  match err with
  | some e => Fallible.throw (.message ("simulate_transaction error: " ++ e.display))
  | none => pure ()

def cancelOrderByClientOrderId (programId : Pubkey) (owner : Keypair) (state : MarketPubkeys)
    (orders : Pubkey) (clientOrderId : UInt64) : Svc AnyError (List UInt8) := do
  let ix ← tryForeign (crates.cancelOrderByClientOrderIdIx programId state.market state.bids
    state.asks orders owner.pubkey state.eventQ clientOrderId)
  let recentHash ← Rpcnb.getLatestBlockhash rClient
  let txn ← newSignedWithPayer [ix] (some owner.pubkey) [owner] recentHash
  let result ← Rpcnb.simulateTransaction crates rClient txn true .confirmed
  failOnSimulationError result
  tryForeign (crates.serialize txn)

def closeOpenOrders (programId : Pubkey) (owner : Keypair) (state : MarketPubkeys)
    (orders : Pubkey) : Svc AnyError (List UInt8) := do
  let ix ← tryForeign
    (crates.closeOpenOrdersIx programId orders owner.pubkey owner.pubkey state.market)
  let recentHash ← Rpcnb.getLatestBlockhash rClient
  let txn ← newSignedWithPayer [ix] (some owner.pubkey) [owner] recentHash
  let result ← Rpcnb.simulateTransaction crates rClient txn true .confirmed
  failOnSimulationError result
  match crates.serialize txn with
  | .ok x => pure x
  | .error _ => Fallible.throw (.message "bad serialization")

def createDexAccount (programId payer : Pubkey) (unpaddedLen : Nat) :
    Svc AnyError (Keypair × Instruction) := do
  let len := unpaddedLen + 12
  let key ← generateKeypair
  let lamports ← Rpcnb.getMinimumBalanceForRentExemption rClient len
  pure (key, crates.createAccount payer key.pubkey lamports (UInt64.ofNat len) programId)

/-- `serialize(&txn)` with the error turned into a text. -/
def serialized (txn : Transaction) : Svc AnyError (List UInt8) :=
  match crates.serialize txn with
  | .ok x => pure x
  | .error e => Fallible.throw (.message e.display)

/-- The open-orders account in `*orders`, or a new one with the instruction that
creates it and the key pair that signs for it. -/
def ordersOrNew (programId payer : Pubkey) :
    InOut service.toInterface (Option Pubkey) AnyError
      (Pubkey × List Keypair × List Instruction) := do
  let orders ← InOut.read
  match orders with
  | some pk => pure (pk, [], [])
  | none => do
      let (ordersKey, instruction) ← InOut.lift
        (createDexAccount crates rClient programId payer crates.openOrdersSize)
      pure (ordersKey.pubkey, [ordersKey], [instruction])

def initOpenOrders (programId : Pubkey) (owner : Keypair) (state : MarketPubkeys) :
    InOut service.toInterface (Option Pubkey) AnyError (List UInt8) := do
  let (ordersPubkey, signers, instructions) ← ordersOrNew crates rClient programId owner.pubkey
  InOut.assign (some ordersPubkey)
  let instruction ← InOut.lift (tryForeign
    (crates.initOpenOrdersIx programId ordersPubkey owner.pubkey state.market none))
  let recentHash ← InOut.lift (Rpcnb.getLatestBlockhash rClient)
  let txn ← InOut.lift (newSignedWithPayer (instructions ++ [instruction]) (some owner.pubkey)
    (signers ++ [owner]) recentHash)
  InOut.lift (tryForeign (crates.serialize txn))

def placeOrder (programId : Pubkey) (payer : Keypair) (wallet : Pubkey) (state : MarketPubkeys)
    (newOrder : NewOrderInstructionV3) :
    InOut service.toInterface (Option Pubkey) AnyError (List UInt8) := do
  let (ordersPubkey, signers, instructions) ← ordersOrNew crates rClient programId payer.pubkey
  InOut.assign (some ordersPubkey)
  let instruction : Instruction :=
    { programId := programId
      data := crates.pack (.newOrderV3 newOrder)
      accounts :=
        [ .new state.market false,
          .new ordersPubkey false,
          .new state.reqQ false,
          .new state.eventQ false,
          .new state.bids false,
          .new state.asks false,
          .new wallet false,
          .newReadonly payer.pubkey true,
          .new state.coinVault false,
          .new state.pcVault false,
          .newReadonly crates.splToken false,
          .newReadonly crates.rentSysvar false ] }
  let recentHash ← InOut.lift (Rpcnb.getLatestBlockhash rClient)
  let txn ← InOut.lift (newSignedWithPayer (instructions ++ [instruction]) (some payer.pubkey)
    (signers ++ [payer]) recentHash)
  InOut.lift (serialized crates txn)

def settleFunds (programId : Pubkey) (payer : Keypair) (state : MarketPubkeys)
    (signer : Option Keypair) (orders coinWallet pcWallet : Pubkey) :
    Svc AnyError (List UInt8) := do
  let instruction : Instruction :=
    { programId := programId
      data := crates.pack .settleFunds
      accounts :=
        [ .new state.market false,
          .new orders false,
          .newReadonly (signer.getD payer).pubkey true,
          .new state.coinVault false,
          .new state.pcVault false,
          .new coinWallet false,
          .new pcWallet false,
          .newReadonly state.vaultSignerKey false,
          .newReadonly crates.splToken false ] }
  let recentHash ← Rpcnb.getLatestBlockhash rClient
  let signers := payer :: signer.toList
  let txn ← newSignedWithPayer [instruction] (some payer.pubkey) signers recentHash
  -- the source loops here, but every pass either returns or breaks
  let result ← Rpcnb.simulateTransaction crates rClient txn true .processed
  failOnSimulationError result
  serialized crates txn

structure ListingKeys where
  marketKey : Keypair
  reqQKey : Keypair
  eventQKey : Keypair
  bidsKey : Keypair
  asksKey : Keypair
  vaultSignerPk : Pubkey
  vaultSignerNonce : UInt64

/-- The loop of `gen_listing_params` from nonce `i` on, with `remaining` nonces
before the assertion `i < 100` fails. -/
def findVaultSigner (market programId : Pubkey) : Nat → UInt64 → Outcome AnyError (UInt64 × Pubkey)
  | 0, _ => .panic "assertion failed: i < 100"
  | remaining + 1, i =>
      match crates.genVaultSignerKey i market programId with
      | .ok pk => .ok (i, pk)
      | .error _ => findVaultSigner market programId remaining (i + 1)

def genListingParams (programId payer : Pubkey) :
    Svc AnyError (ListingKeys × List Instruction) := do
  let (marketKey, createMarket) ← createDexAccount crates rClient programId payer 376
  let (reqQKey, createReqQ) ← createDexAccount crates rClient programId payer 640
  let (eventQKey, createEventQ) ← createDexAccount crates rClient programId payer (1 <<< 20)
  let (bidsKey, createBids) ← createDexAccount crates rClient programId payer (1 <<< 16)
  let (asksKey, createAsks) ← createDexAccount crates rClient programId payer (1 <<< 16)
  let (vaultSignerNonce, vaultSignerPk) ← Fallible.lift
    (findVaultSigner crates marketKey.pubkey programId 100 0)
  let info : ListingKeys :=
    { marketKey, reqQKey, eventQKey, bidsKey, asksKey, vaultSignerPk, vaultSignerNonce }
  pure (info, [createMarket, createReqQ, createEventQ, createBids, createAsks])

def listMarket (programId : Pubkey) (payer : Keypair) (coinMint pcMint : Pubkey)
    (coinLotSize pcLotSize : UInt64) : Svc AnyError (List UInt8 × MarketPubkeys) := do
  let (keys, instructions) ← genListingParams crates rClient programId payer.pubkey
  let coinVault ← Rpcnb.createTokenAccount crates rClient coinMint keys.vaultSignerPk payer
  let pcVault ← Rpcnb.createTokenAccount crates rClient pcMint keys.vaultSignerPk payer
  let initMarketInstruction ← tryForeign (crates.initializeMarket
    keys.marketKey.pubkey programId coinMint pcMint coinVault.pubkey pcVault.pubkey
    none none none
    keys.bidsKey.pubkey keys.asksKey.pubkey keys.reqQKey.pubkey keys.eventQKey.pubkey
    coinLotSize pcLotSize keys.vaultSignerNonce 100)
  let recentHash ← Rpcnb.getLatestBlockhash rClient
  let signers :=
    [ payer, keys.marketKey, keys.reqQKey, keys.eventQKey, keys.bidsKey, keys.asksKey,
      keys.reqQKey, keys.eventQKey ]
  let txn ← newSignedWithPayer (instructions ++ [initMarketInstruction]) (some payer.pubkey)
    signers recentHash
  let signedTx ← tryForeign (crates.serialize txn)
  pure (signedTx,
    { market := keys.marketKey.pubkey
      reqQ := keys.reqQKey.pubkey
      eventQ := keys.eventQKey.pubkey
      bids := keys.bidsKey.pubkey
      asks := keys.asksKey.pubkey
      coinVault := coinVault.pubkey
      pcVault := pcVault.pubkey
      vaultSignerKey := keys.vaultSignerPk })

def matchOrders (programId : Pubkey) (payer : Keypair) (state : MarketPubkeys)
    (coinWallet pcWallet : Pubkey) : Svc AnyError (List UInt8) := do
  let instruction : Instruction :=
    { programId := programId
      data := crates.pack (.matchOrders 2)
      accounts :=
        [ .new state.market false,
          .new state.reqQ false,
          .new state.eventQ false,
          .new state.bids false,
          .new state.asks false,
          .new coinWallet false,
          .new pcWallet false ] }
  let recentHash ← Rpcnb.getLatestBlockhash rClient
  let txn ← newSignedWithPayer [instruction] (some payer.pubkey) [payer] recentHash
  let result ← Rpcnb.simulateTransaction crates rClient txn true .processed
  failOnSimulationError result
  serialized crates txn

end Building

end RustHelper.SerumClient
