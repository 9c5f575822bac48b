import RustHelper.ServiceResponses

/-!
# What a request asks for

A request is read as a whole: it asks for something only if all its fields can be
read.  The keys that it names are read here from the bytes of the messages, whose last
byte is lost, and the service is shown to decode the same keys.
-/

namespace RustHelper

open Effect

/-- Where the keys of a market come from: its account, or the request itself. -/
inductive MarketSource
  | account (market : Pubkey)
  | keys (keys : MarketPubkeys)

/-- What is to be done on a market. -/
inductive MarketAct
  | consume (payer : Keypair) (coinWallet pcWallet : Pubkey)
  | openOrders (owner : Keypair) (orders : Option Pubkey)
  | order (payer : Keypair) (wallet : Pubkey) (orders : Option Pubkey)
      (order : PbNewOrderInstructionV3)
  | cancel (owner : Keypair) (orders : Pubkey) (id : UInt64)
  | settle (payer : Keypair) (signer : Option Keypair) (orders coinWallet pcWallet : Pubkey)
  | close (owner : Keypair) (orders : Pubkey)
  | matching (payer : Keypair) (coinWallet pcWallet : Pubkey)
  | monitor

inductive Intent
  | batch (txList : List Transaction)
  | genesis (payer mint : Keypair) (owner : Pubkey) (decimals : UInt8)
  | tokenAccount (payer : Keypair) (mint owner : Pubkey)
  | mint (payer signer : Keypair) (mint recipient : Pubkey) (quantity : UInt64)
  | marketKeys (programId market : Pubkey)
  | list (programId : Pubkey) (payer : Keypair) (coinMint pcMint : Pubkey)
      (coinLotSize pcLotSize : UInt64)
  | trade (programId : Pubkey) (market : MarketSource) (act : MarketAct)

section Reading

variable (crates : Crates)

/-- The key that 32 bytes of a request stand for: their last byte is taken for zero. -/
def namedKey (wire : PbPubkey) : Option Pubkey :=
  if length : wire.data.length = 32 then
    some { bytes := wire.data.take 31 ++ [0], length_eq := by simp [length] }
  else
    none

/-- The key pair that the bytes of a private key stand for. -/
def namedKeypair (wire : PbKeypair) : Option Keypair :=
  match wire.input with
  | some (.privateKey data) => (crates.keypairFromBytes data).toOption
  | _ => none

def readPubkey (field : Option PbPubkey) : Option Pubkey := field.bind namedKey

def readKeypair (field : Option PbKeypair) : Option Keypair := field.bind (namedKeypair crates)

def readProgramId (field : Option PbProgramId) : Option Pubkey :=
  field.bind fun programId => readPubkey programId.id

/-- A key that may be left out. -/
def readOptional {Wire Key : Type} (read : Option Wire → Option Key) :
    Option Wire → Option (Option Key)
  | none => some none
  | some wire => (read (some wire)).map some

/-- Each key of a market stands under its name. -/
def readMarketKeys (keys : PbMarketPubkeys) : Option MarketPubkeys := do
  let market ← readPubkey keys.market
  let reqQ ← readPubkey keys.reqQ
  let eventQ ← readPubkey keys.eventQ
  let bids ← readPubkey keys.bids
  let asks ← readPubkey keys.asks
  let coinVault ← readPubkey keys.coinVault
  let pcVault ← readPubkey keys.pcVault
  let vaultSignerKey ← readPubkey keys.vaultSignerKey
  some { market, reqQ, eventQ, bids, asks, coinVault, pcVault, vaultSignerKey }

def readMarket (field : Option PbMarketState) : Option MarketSource :=
  field.bind fun pbState =>
    match pbState.market with
    | some (.id id) => (readPubkey (some id)).map .account
    | some (.state keys) => (readMarketKeys keys).map .keys
    | none => none

/-- The account that has to be read for the keys of a market. -/
def MarketSource.address : MarketSource → Option Pubkey
  | .account market => some market
  | .keys _ => none

instance decidableRepresentable (order : PbNewOrderInstructionV3) :
    Decidable (Representable order) := decidable_of_iff _ representable_iff_fields.symm

/-- An order that an instruction can hold.  One with the largest limit is refused all
the same. -/
def readOrder (req : PbOrder) : Option PbNewOrderInstructionV3 :=
  req.order.filter fun order => Representable order ∧ order.limit ≠ 65535

def readBatch (txList : List (List UInt8)) : Option (List Transaction) :=
  txList.mapM fun bytes => (crates.deserialize bytes).toOption

def readTrade (dexProgramId : Option PbProgramId) (market : Option PbMarketState)
    (act : Option MarketAct) : Option Intent := do
  let programId ← readProgramId dexProgramId
  let market ← readMarket market
  let act ← act
  some (.trade programId market act)

/-- What a request asks for, if all its fields can be read. -/
def Request.intent : Request → Option Intent
  | .sendTx tx => (readBatch crates tx).map .batch
  | .runGenesis r => do
      let payer ← readKeypair crates r.payer
      let mint ← readKeypair crates r.mint
      let owner ← readPubkey r.owner
      match r.decimals with
      | [decimals] => some (.genesis payer mint owner decimals)
      | _ => none
  | .runInitializeTokenAccount r => do
      let mint ← readPubkey r.mint
      let owner ← readKeypair crates r.ownerAccount
      some (.tokenAccount owner mint owner.pubkey)
  | .runCreateAccount r => do
      let mint ← readPubkey r.mint
      let owner ← readPubkey r.owner
      let payer ← readKeypair crates r.payer
      some (.tokenAccount payer mint owner)
  | .runMint r => do
      let payer ← readKeypair crates r.payer
      let signer ← readKeypair crates r.signer
      let mint ← readPubkey r.mint
      let recipient ← readPubkey r.recipient
      if r.quantity = 0 then none else some (.mint payer signer mint recipient r.quantity)
  | .getMarketPubkeys r => do
      let programId ← readProgramId r.dexProgramId
      let market ← readPubkey r.market
      some (.marketKeys programId market)
  | .listMarket r => do
      let payer ← readKeypair crates r.payer
      let programId ← readProgramId r.dexProgramId
      let coinMint ← readPubkey r.coinMint
      let pcMint ← readPubkey r.pcMint
      some (.list programId payer coinMint pcMint r.coinLotSize r.pcLotSize)
  | .consumeEvents r => readTrade r.dexProgramId r.market do
      let payer ← readKeypair crates r.payer
      let coinWallet ← readPubkey r.coinWallet
      let pcWallet ← readPubkey r.pcWallet
      some (.consume payer coinWallet pcWallet)
  | .initOpenOrder r => readTrade r.dexProgramId r.market do
      let owner ← readKeypair crates r.owner
      let orders ← readOptional readPubkey r.orders
      some (.openOrders owner orders)
  | .newOrder r => readTrade r.dexProgramId r.market do
      let payer ← readKeypair crates r.payer
      let wallet ← readPubkey r.wallet
      let orders ← readOptional readPubkey r.orders
      let order ← readOrder r
      some (.order payer wallet orders order)
  | .cancelOrder r => readTrade r.dexProgramId r.market do
      let owner ← readKeypair crates r.owner
      let orders ← readPubkey r.orders
      some (.cancel owner orders r.id)
  | .settleFunds r => readTrade r.dexProgramId r.market do
      let payer ← readKeypair crates r.payer
      let orders ← readPubkey r.orders
      let coinWallet ← readPubkey r.coinWallet
      let pcWallet ← readPubkey r.pcWallet
      let signer ← readOptional (readKeypair crates) r.signer
      some (.settle payer signer orders coinWallet pcWallet)
  | .closeOpenOrders r => readTrade r.dexProgramId r.market do
      let owner ← readKeypair crates r.owner
      let orders ← readPubkey r.orders
      some (.close owner orders)
  | .matchOrders r => readTrade r.dexProgramId r.market do
      let payer ← readKeypair crates r.payer
      let coinWallet ← readPubkey r.coinWallet
      let pcWallet ← readPubkey r.pcWallet
      some (.matching payer coinWallet pcWallet)
  | .monitorQueue r => readTrade r.dexProgramId r.market (some .monitor)

/-- The market account that a request names. -/
def Request.marketAddress : Request → Option Pubkey
  | .getMarketPubkeys r => readPubkey r.market
  | .consumeEvents r | .matchOrders r => (readMarket r.market).bind MarketSource.address
  | .initOpenOrder r | .closeOpenOrders r => (readMarket r.market).bind MarketSource.address
  | .newOrder r => (readMarket r.market).bind MarketSource.address
  | .cancelOrder r => (readMarket r.market).bind MarketSource.address
  | .settleFunds r => (readMarket r.market).bind MarketSource.address
  | .monitorQueue r => (readMarket r.market).bind MarketSource.address
  | _ => none

/-- The program that a request to the DEX is about. -/
def Request.dexProgram : Request → Option Pubkey
  | .getMarketPubkeys r => readProgramId r.dexProgramId
  | .listMarket r => readProgramId r.dexProgramId
  | .consumeEvents r | .matchOrders r => readProgramId r.dexProgramId
  | .initOpenOrder r | .closeOpenOrders r => readProgramId r.dexProgramId
  | .newOrder r => readProgramId r.dexProgramId
  | .cancelOrder r => readProgramId r.dexProgramId
  | .settleFunds r => readProgramId r.dexProgramId
  | .monitorQueue r => readProgramId r.dexProgramId
  | _ => none

end Reading

section Named

variable {crates : Crates}

/-- The service reads the keys that are named. -/
@[simp]
theorem toOption_convertPubkey (wire : PbPubkey) :
    (convertPubkey wire).toOption = namedKey wire := by
  unfold namedKey
  split_ifs with length
  · rw [convertPubkey_of_length_eq length, Outcome.toOption_eq_some_iff, Outcome.ok.injEq,
      Pubkey.ext_iff, copiedPubkey_bytes (by omega)]
  · rw [convertPubkey_of_length_ne length]
    rfl

theorem convertPubkey_eq_ok_iff_named {wire : PbPubkey} {key : Pubkey} :
    convertPubkey wire = .ok key ↔ namedKey wire = some key := by
  rw [← toOption_convertPubkey, Outcome.toOption_eq_some_iff]

theorem convertKeypair_eq_ok_iff_named {wire : PbKeypair} {key : Keypair} :
    convertKeypair crates wire = .ok key ↔ namedKeypair crates wire = some key := by
  obtain ⟨_ | ⟨_ | data⟩⟩ := wire
  · simp [convertKeypair, namedKeypair]
  · simp [convertKeypair, namedKeypair]
  · cases read : crates.keypairFromBytes data <;>
      simp [convertKeypair, namedKeypair, keypairFromBytes, read, Except.toOption]

theorem requiredKey_eq_ok_iff_reads {field : Option PbPubkey} {key : Pubkey} :
    requiredKey field = .ok key ↔ readPubkey field = some key := by
  cases field with
  | none => simp [requiredKey, readPubkey]
  | some wire => exact convertPubkey_eq_ok_iff_named

theorem reverseMarketPubkeys_eq_ok_iff_reads {wire : PbMarketPubkeys} {keys : MarketPubkeys} :
    reverseMarketPubkeys wire = .ok keys ↔ readMarketKeys wire = some keys := by
  rw [reverseMarketPubkeys_eq_ok_iff]
  simp only [requiredKey_eq_ok_iff_reads, readMarketKeys, Option.bind_eq_bind,
    Option.bind_eq_some_iff, Option.some.injEq]
  constructor
  · rintro ⟨market, reqQ, eventQ, bids, asks, coinVault, pcVault, vaultSignerKey⟩
    exact ⟨_, market, _, reqQ, _, eventQ, _, bids, _, asks, _, coinVault, _, pcVault, _,
      vaultSignerKey, rfl⟩
  · rintro ⟨_, market, _, reqQ, _, eventQ, _, bids, _, asks, _, coinVault, _, pcVault, _,
      vaultSignerKey, rfl⟩
    exact ⟨market, reqQ, eventQ, bids, asks, coinVault, pcVault, vaultSignerKey⟩

end Named

section Fields

variable {crates : Crates}

theorem readPubkey_of_field {field : Option PbPubkey} {error : Status} {key : Pubkey}
    (decoded : pubkeyField field error = .ok key) : readPubkey field = some key := by
  cases field with
  | none => cases decoded
  | some wire => simpa [readPubkey, pubkeyField, convertPubkey_eq_ok_iff_named] using decoded

theorem readProgramId_of_field {field : Option PbProgramId} {key : Pubkey}
    (decoded : DexHandlers.programIdField field = .ok key) : readProgramId field = some key := by
  cases field with
  | none => cases decoded
  | some programId => exact readPubkey_of_field decoded

theorem readKeypair_of_field {field : Option PbKeypair} {errmsg : String} {key : Keypair}
    (decoded : DexHandlers.keypairField crates field errmsg = .ok key) :
    readKeypair crates field = some key := by
  cases field with
  | none => cases decoded
  | some wire =>
      simpa [readKeypair, DexHandlers.keypairField, convertKeypair_eq_ok_iff_named] using decoded

theorem readKeypair_of_copied {field : Option PbKeypair} {missing : Status}
    {bad : Status → Status} {key : Keypair}
    (decoded : Broadcast.keypairField crates field missing bad = .ok key) :
    readKeypair crates field = some key := by
  rcases field with _ | ⟨_ | input⟩
  · cases decoded
  · cases decoded
  · simpa [readKeypair, Broadcast.keypairField, copyKeypair, convertKeypair_eq_ok_iff_named]
      using decoded

theorem readPubkey_of_orders {field : Option PbPubkey} {bad missing : Status} {key : Pubkey}
    (decoded : DexHandlers.ordersField field bad missing = .ok key) :
    readPubkey field = some key := by
  cases field with
  | none => cases decoded
  | some wire =>
      simpa [readPubkey, DexHandlers.ordersField, convertPubkey_eq_ok_iff_named] using decoded

theorem readMarket_of_id {ε : Type} {id : PbPubkey} {translate : AnyError → ε} {key : Pubkey}
    (decoded : (convertPubkey id).mapErr translate = .ok key) :
    readMarket (some ⟨some (.id id)⟩) = some (.account key) := by
  have isKey : namedKey id = some key := by simpa [convertPubkey_eq_ok_iff_named] using decoded
  simp [readMarket, readPubkey, isKey]

theorem readMarket_of_state {wire : PbMarketPubkeys} {keys : MarketPubkeys}
    (decoded : reverseMarketPubkeys wire = .ok keys) :
    readMarket (some ⟨some (.state wire)⟩) = some (.keys keys) := by
  simp [readMarket, reverseMarketPubkeys_eq_ok_iff_reads.mp decoded]

theorem readOptional_of_pubkey {field : Option PbPubkey} {error : Status} {key : Option Pubkey}
    (decoded : DexHandlers.optionalPubkey field error = .ok key) :
    readOptional readPubkey field = some key := by
  cases field with
  | none =>
      cases decoded
      rfl
  | some wire =>
      obtain ⟨found, converted, same⟩ := Outcome.bind_eq_ok_iff.mp decoded
      cases same
      simpa [readOptional, readPubkey, convertPubkey_eq_ok_iff_named] using converted

theorem readOptional_of_keypair {field : Option PbKeypair} {error : Status} {key : Option Keypair}
    (decoded : DexHandlers.optionalKeypair crates field error = .ok key) :
    readOptional (readKeypair crates) field = some key := by
  cases field with
  | none =>
      cases decoded
      rfl
  | some wire =>
      obtain ⟨found, converted, same⟩ := Outcome.bind_eq_ok_iff.mp decoded
      cases same
      simpa [readOptional, readKeypair, convertKeypair_eq_ok_iff_named] using converted

/-- The instruction that the service makes of an order expresses it. -/
theorem readOrder_of_converted {req : PbOrder} {instruction : NewOrderInstructionV3}
    (converted : convertNewOrderV3 req = .ok instruction) :
    ∃ order, readOrder req = some order ∧ Expresses order instruction := by
  obtain ⟨order, present, small, expresses⟩ := convertNewOrderV3_eq_ok_iff.mp converted
  have representable : Representable order := representable_iff.mpr ⟨instruction, expresses⟩
  refine ⟨order, ?_, expresses⟩
  rw [readOrder, present, Option.filter_some, if_pos (by simp [representable, small])]

end Fields

end RustHelper
