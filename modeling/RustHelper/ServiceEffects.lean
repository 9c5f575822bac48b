import RustHelper.Crates
import RustHelper.LockInterleaving

/-!
# What the service asks of its environment

Every await of a request to the Solana cluster, every mutex, clock reading and
random value is an operation.  The two servers each own an RPC client and a TPU
client behind a mutex; the DEX server never locks its TPU client.
-/

namespace RustHelper

open Effect

inductive CommitmentLevel
  | processed
  | confirmed
  | finalized
  deriving DecidableEq

structure RpcSendTransactionConfig where
  skipPreflight : Bool := false
  preflightCommitment : Option CommitmentLevel := none
  maxRetries : Option Nat := none
  minContextSlot : Option Nat := none
  deriving DecidableEq

/-- The JSON object that answers `simulateTransaction`.  The client decodes the object
itself; a node puts the result of the simulation into the field `value`, with the error
of the simulation, if it failed, as `value.err`. -/
structure SimulationReply where
  err : Option ForeignError
  valueErr : Option ForeignError
  deriving DecidableEq

/-- Calls of the nonblocking RPC client.  `entry` is the index of the batch
entry that `send_tx` makes the call for; the client does not see it. -/
inductive RpcCall
  | getAccountData (address : Pubkey)
  | getAccountWithCommitment (address : Pubkey) (commitment : CommitmentLevel)
  | getMinimumBalanceForRentExemption (dataSize : Nat)
  | getLatestBlockhash
  | sendTransactionWithConfig (entry : Option Nat) (tx : Transaction)
      (config : RpcSendTransactionConfig)
  | confirmTransactionWithCommitment (entry : Option Nat) (signature : Signature)
      (commitment : CommitmentLevel)
  | sendAndConfirmTransaction (tx : Transaction) (commitment : CommitmentLevel)
      (config : RpcSendTransactionConfig)
  | confirmTransaction (signature : Signature)
  | simulateTransaction (encoded : List UInt8) (sigVerify : Bool) (commitment : CommitmentLevel)

/-- What is replied to a call that succeeds. -/
@[reducible] def RpcCall.Reply : RpcCall → Type
  | .getAccountData _ => Buffer
  | .getAccountWithCommitment _ _ => Option Buffer
  | .getMinimumBalanceForRentExemption _ => UInt64
  | .getLatestBlockhash => Hash
  -- as the node names it; `sentSignature` is what the client returns
  | .sendTransactionWithConfig _ _ _ => Signature
  | .confirmTransactionWithCommitment _ _ _ => Bool
  | .sendAndConfirmTransaction _ _ _ => Signature
  | .confirmTransaction _ => Bool
  | .simulateTransaction _ _ _ => SimulationReply

/-- The mutexes shared by the requests of the two servers. -/
inductive ServiceMutex
  | broadcastRpc
  | broadcastTpu
  | dexRpc
  | dexWs
  | dexRuntime
  deriving DecidableEq

/-- A market account that `monitor_queue` follows. -/
inductive MonitoredSide
  | bids
  | asks
  deriving DecidableEq

/-- What is asked of the environment: guards, calls of the RPC client and of
`TpuClient::send_wire_transaction` (for the batch entry `entry`), the reading
`now.elapsed().as_secs()`, `Keypair::generate`, `rand::random::<u64>()`, the first
signature that `Transaction::new_signed_with_payer` makes, and `Runtime::spawn` of the
task that follows one account. -/
inductive ServiceOp
  | lock (mutex : ServiceMutex)
  | unlock (mutex : ServiceMutex)
  | rpc (call : RpcCall)
  | sendWireTransaction (entry : Nat) (wire : List UInt8)
  | elapsedSecs
  | sleep (milliseconds : Nat)
  | generateKeypair
  | randomU64
  | sign (instructions : List Instruction) (payer : Option Pubkey) (signers : List Pubkey)
  | spawnMonitor (side : MonitoredSide) (target : Pubkey)

def ServiceOp.Answer : ServiceOp → Type
  | .lock _ => Unit
  | .unlock _ => Unit
  | .rpc call => Except ForeignError call.Reply
  | .sendWireTransaction _ _ => Bool
  | .elapsedSecs => Nat
  | .sleep _ => Unit
  | .generateKeypair => Keypair
  | .randomU64 => UInt64
  | .sign _ _ _ => Signature
  | .spawnMonitor _ _ => Unit

def ServiceOp.lockAction : ServiceOp → LockAction ServiceMutex
  | .lock mutex => .acquire mutex
  | .unlock mutex => .release mutex
  | _ => .other

def service : LockInterface where
  Op := ServiceOp
  Answer := ServiceOp.Answer
  Mutex := ServiceMutex
  lock := .lock
  unlock := .unlock
  action := ServiceOp.lockAction
  action_lock _ := rfl
  action_unlock _ := rfl

instance : DecidableEq service.Mutex := inferInstanceAs (DecidableEq ServiceMutex)

/-- An asynchronous function of the service returning `Result<α, ε>`. -/
abbrev Svc (ε α : Type) := Fallible service.toInterface ε α

abbrev ServiceWorld := World service.toInterface

abbrev ServiceEvent := Event service.toInterface

/-- What the clock reads when it is asked as the operation numbered `clock`. -/
def clockAt (world : ServiceWorld) (clock : Nat) : Nat := world clock ServiceOp.elapsedSecs

/-- What the cluster replies to a call that is the operation numbered `clock`. -/
def clusterReply (world : ServiceWorld) (clock : Nat) (call : RpcCall) :
    Except ForeignError call.Reply := world clock (ServiceOp.rpc call)

/-- Answers to all operations, given those that are not forced. -/
structure Replies where
  rpc : (call : RpcCall) → Except ForeignError call.Reply
  transmits : Bool
  elapsed : Nat
  keypair : Keypair
  random : UInt64
  signature : Signature

def Replies.answer (replies : Replies) : (op : ServiceOp) → op.Answer
  | .lock _ => ()
  | .unlock _ => ()
  | .rpc call => replies.rpc call
  | .sendWireTransaction _ _ => replies.transmits
  | .elapsedSecs => replies.elapsed
  | .sleep _ => ()
  | .generateKeypair => replies.keypair
  | .randomU64 => replies.random
  | .sign _ _ _ => replies.signature
  | .spawnMonitor _ _ => ()

section Operations

variable {ε : Type}

/-- `client.call(..).await`, the error kept as a value. -/
def rpc (call : RpcCall) : Svc ε (Except ForeignError call.Reply) :=
  Fallible.perform (I := service.toInterface) (.rpc call)

/-- `client.call(..).await?` -/
def rpcTry (call : RpcCall) : Svc AnyError call.Reply := do
  let reply ← rpc call
  Fallible.lift (Outcome.ofExcept AnyError.foreign reply)

/-- The end of `RpcClient::send_transaction_with_config`: the signature that the node
names is compared with the transaction's first, which need not exist. -/
def sentSignature (tx : Transaction) :
    Except ForeignError Signature → Outcome ForeignError Signature
  | .error e => .err e
  | .ok signature =>
      match tx.firstSignature with
      | none => .panic "index out of bounds: the len is 0 but the index is 0"
      | some own =>
          if signature = own then .ok own
          else .err ⟨"RPC node returned mismatched signature"⟩

/-- `client.send_transaction_with_config(..).await`, the error kept as a value. -/
def sendTransactionWithConfig (entry : Option Nat) (tx : Transaction)
    (config : RpcSendTransactionConfig) : Svc ε (Except ForeignError Signature) := do
  let reply ← rpc (.sendTransactionWithConfig entry tx config)
  Fallible.lift (sentSignature tx reply).kept

def generateKeypair : Svc ε Keypair :=
  Fallible.perform (I := service.toInterface) .generateKeypair

def elapsedSecs : Svc ε Nat :=
  Fallible.perform (I := service.toInterface) .elapsedSecs

def randomU64 : Svc ε UInt64 :=
  Fallible.perform (I := service.toInterface) .randomU64

def sleep (milliseconds : Nat) : Svc ε Unit :=
  Fallible.perform (I := service.toInterface) (.sleep milliseconds)

def sendWireTransaction (entry : Nat) (wire : List UInt8) : Svc ε Bool :=
  Fallible.perform (I := service.toInterface) (.sendWireTransaction entry wire)

def spawnMonitor (side : MonitoredSide) (target : Pubkey) : Svc ε Unit :=
  Fallible.perform (I := service.toInterface) (.spawnMonitor side target)

/-- The rest of a block after `let guard = mutex.lock().await`. -/
def locked {α : Type} (mutex : ServiceMutex) (body : Svc ε α) : Svc ε α :=
  Fallible.withGuard (L := service) mutex body

/-- The result of a function of another crate, its error passed on by `?`. -/
def tryForeign {α : Type} (result : Except ForeignError α) : Svc AnyError α :=
  Fallible.lift (Outcome.ofExcept AnyError.foreign result)

end Operations

section Sending

variable {tx : Transaction} {reply : Except ForeignError Signature}

/-- The client only returns a transaction's own signature, and only as the node named it. -/
theorem sentSignature_eq_ok_iff {sig : Signature} :
    sentSignature tx reply = .ok sig ↔ tx.firstSignature = some sig ∧ reply = .ok sig := by
  cases reply with
  | error e => simp [sentSignature]
  | ok signature =>
      cases own : tx.firstSignature with
      | none => simp [sentSignature, own]
      | some own' =>
          simp only [sentSignature, own, Option.some.injEq, Except.ok.injEq]
          split_ifs with same
          · simp [same]
          · simp only [false_iff, not_and]
            rintro rfl
            exact same

theorem sentSignature_panic {message : String} (panics : sentSignature tx reply = .panic message) :
    message = "index out of bounds: the len is 0 but the index is 0" := by
  cases reply with
  | error e => cases panics
  | ok signature =>
      cases own : tx.firstSignature with
      | none =>
          simp only [sentSignature, own, Outcome.panic.injEq] at panics
          exact panics.symm
      | some own' =>
          simp only [sentSignature, own] at panics
          split_ifs at panics

/-- The client panics exactly when the node accepts a transaction without signatures. -/
theorem sentSignature_panics_iff :
    (sentSignature tx reply).Panics ↔
      tx.firstSignature = none ∧ ∃ signature, reply = .ok signature := by
  cases reply with
  | error e => simp [sentSignature]
  | ok signature =>
      cases own : tx.firstSignature with
      | none => simp [sentSignature, own]
      | some own' =>
          simp only [sentSignature, own]
          split_ifs <;> simp

theorem sendTransactionWithConfig_spec {ε : Type} (entry : Option Nat)
    (config : RpcSendTransactionConfig) :
    (sendTransactionWithConfig entry tx config :
        Svc ε (Except ForeignError Signature)).Ensures fun outcome trace => ∃ reply,
      outcome = (sentSignature tx reply).kept ∧
        trace = [⟨ServiceOp.rpc (.sendTransactionWithConfig entry tx config), reply⟩] :=
  fun reply => ⟨reply, rfl, rfl⟩

end Sending

theorem outcome_locked_rpcTry (mutex : ServiceMutex) (call : RpcCall) (world : ServiceWorld)
    (clock : Nat) :
    (locked mutex (rpcTry call)).outcome world clock =
      Outcome.ofExcept AnyError.foreign (clusterReply world (clock + 1) call) :=
  Fallible.outcome_withGuard world clock

theorem outcome_locked_rpcTry_bind {α : Type} (mutex : ServiceMutex) (call : RpcCall)
    (next : call.Reply → Svc AnyError α) (world : ServiceWorld) (clock : Nat) :
    (locked mutex (rpcTry call >>= next)).outcome world clock =
      match clusterReply world (clock + 1) call with
      | .ok reply => (next reply).outcome world (clock + 2)
      | .error e => .err (.foreign e) := by
  apply (Fallible.outcome_withGuard world clock).trans
  apply (Fallible.outcome_bind world (clock + 1) _ _).trans
  change (Outcome.ofExcept AnyError.foreign (clusterReply world (clock + 1) call)).bind _ = _
  cases clusterReply world (clock + 1) call <;> rfl

/-- The keys that have to sign: the fee payer and the accounts marked as signers. -/
def requiredSigners (instructions : List Instruction) (payer : Option Pubkey) : List Pubkey :=
  payer.toList ++ instructions.flatMap Crates.signerKeys

def ExactSigners (instructions : List Instruction) (payer : Option Pubkey)
    (signers : List Pubkey) : Prop :=
  ∀ key, key ∈ signers ↔ key ∈ requiredSigners instructions payer

theorem exactSigners_iff_subsets (instructions : List Instruction) (payer : Option Pubkey)
    (signers : List Pubkey) :
    ExactSigners instructions payer signers ↔
      signers ⊆ requiredSigners instructions payer ∧
        requiredSigners instructions payer ⊆ signers := by
  constructor
  · exact fun exactly => ⟨fun key => (exactly key).mp, fun key => (exactly key).mpr⟩
  · exact fun both key => ⟨fun signs => both.1 signs, fun needed => both.2 needed⟩

instance (instructions : List Instruction) (payer : Option Pubkey) (signers : List Pubkey) :
    Decidable (ExactSigners instructions payer signers) :=
  decidable_of_iff _ (exactSigners_iff_subsets instructions payer signers).symm

/-- `solana_sdk::signer::SignerError`, the ways in which signing fails here. -/
inductive SignerError
  | notEnoughSigners
  | keypairPubkeyMismatch

/-- The message that `Transaction::sign` panics with. -/
def signFailure : SignerError → String
  | .notEnoughSigners => "Transaction::sign failed with error NotEnoughSigners"
  | .keypairPubkeyMismatch => "Transaction::sign failed with error KeypairPubkeyMismatch"

/-- A signer that is not required is found before one that is missing. -/
def signerError (instructions : List Instruction) (payer : Option Pubkey)
    (signers : List Pubkey) : SignerError :=
  if signers ⊆ requiredSigners instructions payer then .notEnoughSigners
  else .keypairPubkeyMismatch

/-- The transaction that every required signer has signed, the fee payer first. -/
def Transaction.signed (instructions : List Instruction) (payer : Option Pubkey)
    (signers : List Pubkey) (recentBlockhash : Hash) (signature : Signature) : Transaction where
  instructions := instructions
  payer := payer
  signers := signers
  recentBlockhash := recentBlockhash
  firstSignature := (requiredSigners instructions payer).head?.map fun _ => signature

/-- `Transaction::new_signed_with_payer`: signing panics when a required signer
is missing or a signer is not required. -/
def newSignedWithPayer {ε : Type} (instructions : List Instruction) (payer : Option Pubkey)
    (signers : List Keypair) (recentBlockhash : Hash) : Svc ε Transaction := do
  let keys := signers.map Keypair.pubkey
  let signature ← Fallible.perform (I := service.toInterface) (.sign instructions payer keys)
  if ExactSigners instructions payer keys then
    pure (.signed instructions payer keys recentBlockhash signature)
  else
    Fallible.lift (.panic (signFailure (signerError instructions payer keys)))

theorem newSignedWithPayer_of_exactSigners {ε : Type} {instructions : List Instruction}
    {payer : Option Pubkey} {signers : List Keypair} {recentBlockhash : Hash}
    (exactly : ExactSigners instructions payer (signers.map Keypair.pubkey)) :
    (newSignedWithPayer instructions payer signers recentBlockhash : Svc ε Transaction) = (do
      let keys := signers.map Keypair.pubkey
      let signature ← Fallible.perform (I := service.toInterface) (.sign instructions payer keys)
      pure (.signed instructions payer keys recentBlockhash signature)) := by
  unfold newSignedWithPayer
  simp only [if_pos exactly]

end RustHelper
