import RustHelper.TokenAccounts
import RustHelper.WireKeys

/-!
# The broadcast server

The handlers of `sol.rs`.  `send_tx` sends a batch of transactions and polls
until all of them are confirmed or the block hash has expired; the other
handlers decode a request and call one of the builders.
-/

namespace RustHelper.Broadcast

open Effect

variable (crates : Crates)

section SendTx

structure SendResult where
  inSystem : Bool
  sig : Option Signature
  tx : Transaction
  serializedTx : List UInt8
  deriving DecidableEq

def SendResult.new (tx : Transaction) (serializedTx : List UInt8) : SendResult :=
  ⟨false, none, tx, serializedTx⟩

def SendResult.setSig (sr : SendResult) (sig : Signature) : SendResult :=
  { sr with sig := some sig }

/-- The first loop of `send_tx`. -/
def deserializeBatch : List (List UInt8) → Outcome Status (List SendResult)
  | [] => .ok []
  | serializedTx :: txList =>
      match crates.deserialize serializedTx with
      | .error _ => .err (.internal "failed to deserialize")
      | .ok tx => do
          let sigList ← deserializeBatch txList
          .ok (SendResult.new tx serializedTx :: sigList)

def sendConfig : RpcSendTransactionConfig where
  skipPreflight := true
  preflightCommitment := some .finalized
  maxRetries := some 1
  minContextSlot := some 10

/-- `if sr.sig.is_none() { .. }` -/
def ensureSent (entry : Nat) (sr : SendResult) : Svc Status SendResult :=
  match sr.sig with
  | some _ => pure sr
  | none =>
      locked .broadcastRpc do
        let sigResult ← sendTransactionWithConfig (some entry) sr.tx sendConfig
        match sigResult with
        | .error _ => Fallible.throw (.internal "no signature")
        | .ok sig => pure (sr.setSig sig)

/-- `if !sr.in_system { .. }`: the TPU guard is held until the check is done. -/
def ensureConfirmed (entry : Nat) (sr : SendResult) (confirmedTxCount : Nat) :
    Svc Status (SendResult × Nat) :=
  if sr.inSystem then
    pure (sr, confirmedTxCount)
  else
    locked .broadcastTpu do
      let sent ← sendWireTransaction entry sr.serializedTx
      if sent then do
        sleep 10
        locked .broadcastRpc do
          match sr.sig with
          | some x => do
              let r : Except ForeignError Bool ←
                rpc (.confirmTransactionWithCommitment (some entry) x .finalized)
              match r with
              | .error _ => Fallible.throw (.internal "confirmation check failed")
              | .ok value =>
                  if value then
                    pure ({ sr with inSystem := true }, confirmedTxCount + 1)
                  else
                    pure (sr, confirmedTxCount)
          | none => Fallible.throw (.internal "failed to get signature")
      else
        Fallible.throw (.internal "failed to transmit")

/-- One execution of the body of the inner loop. -/
def visit (entry : Nat) (sr : SendResult) (confirmedTxCount : Nat) :
    Svc Status (SendResult × Nat) := do
  let sr ← ensureSent entry sr
  ensureConfirmed entry sr confirmedTxCount

/-- The inner loop from entry `entry` on. -/
def sendPass : Nat → List SendResult → Nat → Svc Status (List SendResult × Nat)
  | _, [], confirmedTxCount => pure ([], confirmedTxCount)
  | entry, sr :: sigList, confirmedTxCount => do
      let (sr, confirmedTxCount) ← visit entry sr confirmedTxCount
      let (sigList, confirmedTxCount) ← sendPass (entry + 1) sigList confirmedTxCount
      pure (sr :: sigList, confirmedTxCount)

def genSigList (x : List SendResult) : List (List UInt8) :=
  x.map fun sr =>
    match sr.sig with
    | none => []
    | some sig => sig.bytes

/-- What `send_tx` has come to: its response, or a test of the `while` condition. -/
inductive SendTxReply
  | response (signature : List (List UInt8))
  | running (sigList : List SendResult) (confirmedTxCount : Nat)
  deriving DecidableEq

/-- The signatures of the entries, as they would be returned now. -/
def SendTxReply.signatures : SendTxReply → List (List UInt8)
  | .response signature => signature
  | .running sigList _ => genSigList sigList

/-- The outer loop, for at most `passes` passes. -/
def sendLoop : Nat → List SendResult → Nat → Svc Status SendTxReply
  | 0, sigList, confirmedTxCount => pure (.running sigList confirmedTxCount)
  | passes + 1, sigList, confirmedTxCount => do
      let elapsed ← elapsedSecs
      if elapsed ≤ crates.maxProcessingAge ∧ confirmedTxCount < sigList.length then do
        let (sigList, confirmedTxCount) ← sendPass 0 sigList confirmedTxCount
        sendLoop passes sigList confirmedTxCount
      else
        pure (.response (genSigList sigList))

/-- `send_tx`, followed until `passes` tests of the `while` condition are over. -/
def sendTx (passes : Nat) (txList : List (List UInt8)) : Svc Status SendTxReply := do
  let sigList ← Fallible.lift (deserializeBatch crates txList)
  sendLoop crates passes sigList 0

end SendTx

section Builders

structure Genesis where
  payer : Option PbKeypair
  mint : Option PbKeypair
  owner : Option PbPubkey
  decimals : List UInt8

structure InitializeTokenAccount where
  mint : Option PbPubkey
  ownerAccount : Option PbKeypair

structure CreateAccount where
  mint : Option PbPubkey
  owner : Option PbPubkey
  payer : Option PbKeypair

structure Mint where
  payer : Option PbKeypair
  signer : Option PbKeypair
  mint : Option PbPubkey
  recipient : Option PbPubkey
  quantity : UInt64

/-- `if let Some(x)=copy_keypair(&field){ match convert_keypair(&x) {..} } else {..}` -/
def keypairField (field : Option PbKeypair) (missing : Status) (bad : Status → Status) :
    Outcome Status Keypair :=
  match copyKeypair field with
  | some x => (convertKeypair crates x).mapErr bad
  | none => .err missing

def genesisArguments (r : Genesis) : Outcome Status (Keypair × Keypair × Pubkey × UInt8) := do
  let payer ← keypairField crates r.payer (.invalidArgument "no payer") fun _ =>
    .invalidArgument "no payer"
  let mint ← keypairField crates r.mint (.invalidArgument "no mint") fun _ =>
    .invalidArgument "no mint"
  let owner ← pubkeyField r.owner (.invalidArgument "no owner")
  match r.decimals with
  | [decimals] => .ok (payer, mint, owner, decimals)
  | _ => .err (.invalidArgument "no decimals")

def runGenesis (r : Genesis) : Svc Status Unit := do
  let (payer, mint, owner, decimals) ← Fallible.lift (genesisArguments crates r)
  let _ ← Fallible.mapErr (fun _ => Status.internal "failed to create and init mint")
    (Rpcnb.createAndInitMint crates .broadcastRpc payer mint owner decimals)
  pure ()

def runInitializeTokenAccount (r : InitializeTokenAccount) : Svc Status PbKeypair := do
  let mint ← Fallible.lift (pubkeyField r.mint (.invalidArgument "no mint"))
  let owner ← Fallible.lift (keypairField crates r.ownerAccount (.invalidArgument "no owner")
    fun _ => .invalidArgument "no owner")
  let owner1 ← Util.copied crates owner
  let result ← Fallible.mapErr (fun _ => Status.invalidArgument "bad key pair")
    (Util.initializeTokenAccount crates .broadcastRpc mint owner1)
  Fallible.lift ((reverseKeypair crates result).mapErr fun _ => .invalidArgument "bad key pair")

def runCreateAccount (r : CreateAccount) : Svc Status PbKeypair := do
  let mint ← Fallible.lift (pubkeyField r.mint (.invalidArgument "no mint"))
  let owner ← Fallible.lift (pubkeyField r.owner (.invalidArgument "no mint"))
  let payer ← Fallible.lift (keypairField crates r.payer (.invalidArgument "no payer")
    fun _ => .invalidArgument "no payer")
  let result ← Fallible.mapErr (fun _ => Status.internal "failed to create account")
    (Util.createAccount crates .broadcastRpc mint owner payer)
  Fallible.lift (reverseKeypair crates result)

def runMint (r : Mint) : Svc Status Unit := do
  let payer ← Fallible.lift (keypairField crates r.payer (.invalidArgument "no payer")
    fun _ => .invalidArgument "no payer")
  -- a key pair that does not decode is reported as it is
  let signer ← Fallible.lift (keypairField crates r.signer (.invalidArgument "no signer") id)
  let mint ← Fallible.lift (pubkeyField r.mint (.invalidArgument "no mint"))
  let recipient ← Fallible.lift (pubkeyField r.recipient (.invalidArgument "no recipient"))
  if r.quantity = 0 then
    Fallible.throw (.invalidArgument "no quantity")
  else
    Fallible.mapErr (fun _ => Status.internal "failed to mint")
      (Util.mintToExistingAccount crates .broadcastRpc payer signer mint recipient r.quantity)

end Builders

end RustHelper.Broadcast
