import RustHelper.BuilderWarrants
import RustHelper.RequestReading

/-!
# What a request grants

A request grants the keys that it carries, the clients of its own server, and, if
it is of a kind that submits, the submission of what was signed for it.  Each kind
of response says something about what was done and answered before.
-/

namespace RustHelper

open Effect

section Granted

variable (crates : Crates)

/-- The public key of a key pair of the request, if it decodes. -/
def fieldKey (field : Option PbKeypair) : Set Pubkey :=
  { pubkey | ∃ wire key, field = some wire ∧ convertKeypair crates wire = .ok key ∧
    key.pubkey = pubkey }

namespace Request

def payerField : Request → Option PbKeypair
  | .runGenesis r => r.payer
  | .runInitializeTokenAccount r => r.ownerAccount
  | .runCreateAccount r => r.payer
  | .runMint r => r.payer
  | .listMarket r => r.payer
  | .consumeEvents r => r.payer
  | .initOpenOrder r => r.owner
  | .newOrder r => r.payer
  | .cancelOrder r => r.owner
  | .settleFunds r => r.payer
  | .closeOpenOrders r => r.owner
  | .matchOrders r => r.payer
  | .sendTx _ | .getMarketPubkeys _ | .monitorQueue _ => none

def cosignerField : Request → Option PbKeypair
  | .runGenesis r => r.mint
  | .runMint r => r.signer
  | .settleFunds r => r.signer
  | _ => none

/-- The clients of its own server; only the stream uses the runtime. -/
def mutexes : Request → Set ServiceMutex
  | .sendTx _ => {.broadcastRpc, .broadcastTpu}
  | .runGenesis _ | .runInitializeTokenAccount _ | .runCreateAccount _ | .runMint _ =>
      {.broadcastRpc}
  | .monitorQueue _ => {.dexRpc, .dexRuntime}
  | _ => {.dexRpc}

/-- The service submits what it signed for the request. -/
def Submits : Request → Prop
  | .runGenesis _ | .runInitializeTokenAccount _ | .runCreateAccount _ | .runMint _
  | .listMarket _ => True
  | _ => False

/-- What is returned has been handed to the node for simulation before. -/
def Simulates : Request → Prop
  | .cancelOrder _ | .settleFunds _ | .closeOpenOrders _ | .matchOrders _ => True
  | _ => False

def batch : Request → List (List UInt8)
  | .sendTx tx => tx
  | _ => []

def grant (request : Request) : Grant where
  payer := fieldKey crates request.payerField
  signers := fieldKey crates request.payerField ∪ fieldKey crates request.cosignerField
  mutexes := request.mutexes
  submits := request.Submits
  batch := request.batch

end Request

/-- The cluster gave the signature for the entry of the batch. -/
def AcceptedIn (past : List ServiceEvent) (entry : Nat) (tx : Transaction)
    (signature : Signature) : Prop :=
  (⟨.rpc (.sendTransactionWithConfig (some entry) tx Broadcast.sendConfig), .ok signature⟩ :
    ServiceEvent) ∈ past

/-- There is an answer for each entry of a batch, and a signature that is returned is the
entry's own, under which the cluster accepted it. -/
structure Given (batch : List (List UInt8)) (past : List ServiceEvent)
    (signatures : List (List UInt8)) : Prop where
  length_eq : signatures.length = batch.length
  accepted : ∀ entry bytes, signatures[entry]? = some bytes → bytes ≠ [] →
    ∃ wire tx signature, batch[entry]? = some wire ∧ crates.deserialize wire = .ok tx ∧
      tx.firstSignature = some signature ∧ AcceptedIn past entry tx signature ∧
        signature.bytes = bytes

/-- The keys are those of the request, or the cluster showed them. -/
def MarketSource.Resolves (past : List ServiceEvent) (programId : Pubkey) :
    MarketSource → MarketPubkeys → Prop
  | .account market, read => SerumClient.ReadFrom crates past programId market read
  | .keys given, read => read = given

/-- What a response says is backed by what was done and answered before. -/
def Response.Backed (request : Request) (past : List ServiceEvent) : Response → Prop
  | .batch reply => Given crates request.batch past reply.signatures
  | .empty => ∃ tx, ConfirmedIn past tx
  | .keypair wire => ∃ key, NewAccountIn crates past key ∧ reverseKeypair crates key = .ok wire
  | .marketPubkeys keys => ∃ programId market state,
      request.dexProgram = some programId ∧ request.marketAddress = some market ∧
        SerumClient.ReadFrom crates past programId market state ∧
        keys = convertMarketPubkeys state
  | .listing listed => ∃ programId bytes tx state,
      request.dexProgram = some programId ∧
        listed = ⟨some (convertMarketPubkeys state), some ⟨bytes⟩⟩ ∧
        crates.serialize tx = .ok bytes ∧ SignedIn past tx ∧
        SerumClient.SetsUpMarket crates past programId tx state
  | .signedTx signed => Delivers crates past signed.tx ∧
      (request.Simulates → SimulatedIn past signed.tx)
  | .stream => ∃ programId market keys,
      request.intent crates = some (.trade programId market .monitor) ∧
        market.Resolves crates past programId keys ∧
        (⟨.spawnMonitor .bids keys.bids, ()⟩ : ServiceEvent) ∈ past ∧
        (⟨.spawnMonitor .asks keys.asks, ()⟩ : ServiceEvent) ∈ past

end Granted

theorem MarketSource.Resolves.grow {crates : Crates} {past later : List ServiceEvent}
    (grown : past ⊆ later) {programId : Pubkey} {source : MarketSource} {keys : MarketPubkeys}
    (resolves : source.Resolves crates past programId keys) :
    source.Resolves crates later programId keys := by
  cases source with
  | account market => exact SerumClient.ReadFrom.grow grown resolves
  | keys given => exact resolves

end RustHelper
