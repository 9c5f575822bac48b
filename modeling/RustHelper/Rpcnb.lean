import RustHelper.ServiceEffects

/-!
# Transactions built and sent through the RPC client

The functions of `rpcnb.rs`.  A guard bound to a local variable lives until the
end of the enclosing block, so `locked` covers everything that follows the
binding in that block, calls of other functions included.
-/

namespace RustHelper.Rpcnb

variable (crates : Crates) (rClient : ServiceMutex)

def getMinimumBalanceForRentExemption (len : Nat) : Svc AnyError UInt64 :=
  locked rClient do
    let ans ← rpcTry (.getMinimumBalanceForRentExemption len)
    pure ans

def getLatestBlockhash : Svc AnyError Hash :=
  locked rClient do
    let recentHash ← rpcTry .getLatestBlockhash
    pure recentHash

def sendTxn (txn : Transaction) (_simulate : Bool) : Svc AnyError Signature :=
  locked rClient do
    let signature ← rpcTry (.sendAndConfirmTransaction txn .confirmed { skipPreflight := true })
    pure signature

/-- The value is the `err` of what is decoded as `RpcSimulateTransactionResult`.  That is
the reply itself and not its `value`, so an error of the simulation is not seen. -/
def simulateTransaction (transaction : Transaction) (sigVerify : Bool)
    (cfg : CommitmentLevel) : Svc AnyError (Option ForeignError) :=
  match crates.serialize transaction with
  | .error _ => Effect.Fallible.lift (.panic "called Result::unwrap on an Err value")
  | .ok serializedEncoded =>
      locked rClient do
        let result ← rpcTry (.simulateTransaction serializedEncoded sigVerify cfg)
        pure result.err

def createAccountRentExempt (payer : Keypair) (dataSize : Nat) (owner : Pubkey) :
    Svc AnyError Keypair := do
  let account ← generateKeypair
  let signers := [payer, account]
  -- the guard is not scoped: it is still held at the two calls below
  locked rClient do
    let lamports ← rpcTry (.getMinimumBalanceForRentExemption dataSize)
    let createAccountInstr := crates.createAccount payer.pubkey account.pubkey lamports
      (UInt64.ofNat dataSize) owner
    let instructions := [createAccountInstr]
    let recentHash ← getLatestBlockhash rClient
    let txn ← newSignedWithPayer instructions (some payer.pubkey) signers recentHash
    let _ ← sendTxn rClient txn false
    pure account

def createTokenAccountInstructions (splAccount mintPubkey ownerPubkey : Pubkey)
    (payer : Keypair) : Svc AnyError (List Instruction) :=
  locked rClient do
    let lamports ← rpcTry (.getMinimumBalanceForRentExemption crates.tokenAccountLen)
    let createAccountInstr := crates.createAccount payer.pubkey splAccount lamports
      (UInt64.ofNat crates.tokenAccountLen) crates.splToken
    let initAccountInstr ← tryForeign
      (crates.initializeAccount crates.splToken splAccount mintPubkey ownerPubkey)
    pure [createAccountInstr, initAccountInstr]

def createTokenAccount (mintPubkey ownerPubkey : Pubkey) (payer : Keypair) :
    Svc AnyError Keypair := do
  let splAccount ← generateKeypair
  let instructions ← createTokenAccountInstructions crates rClient splAccount.pubkey mintPubkey
    ownerPubkey payer
  let recentHash ← getLatestBlockhash rClient
  let signers := [payer, splAccount]
  let txn ← newSignedWithPayer instructions (some payer.pubkey) signers recentHash
  let _ ← sendTxn rClient txn false
  pure splAccount

def createAndInitMint (payerKeypair mintKeypair : Keypair) (ownerPubkey : Pubkey)
    (decimals : UInt8) : Svc AnyError Signature :=
  let signers := [payerKeypair, mintKeypair]
  -- the guard is not scoped here either
  locked rClient do
    let lamports ← rpcTry (.getMinimumBalanceForRentExemption crates.mintLen)
    let createMintAccountInstruction := crates.createAccount payerKeypair.pubkey
      mintKeypair.pubkey lamports (UInt64.ofNat crates.mintLen) crates.splToken
    let initializeMintInstruction ← tryForeign
      (crates.initializeMint crates.splToken mintKeypair.pubkey ownerPubkey none decimals)
    let instructions := [createMintAccountInstruction, initializeMintInstruction]
    let recentHash ← getLatestBlockhash rClient
    let txn ← newSignedWithPayer instructions (some payerKeypair.pubkey) signers recentHash
    sendTxn rClient txn false

def newMint (payerKeypair : Keypair) (ownerPubkey : Pubkey) (decimals : UInt8) :
    Svc AnyError (Keypair × Signature) := do
  let mint ← generateKeypair
  let s ← createAndInitMint crates rClient payerKeypair mint ownerPubkey decimals
  pure (mint, s)

def mintToNewAccount (payer mintingKey : Keypair) (mint : Pubkey) (quantity : UInt64) :
    Svc AnyError Keypair := do
  let recipKeypair ← generateKeypair
  let lamports ← locked rClient do
    let lamports ← rpcTry (.getMinimumBalanceForRentExemption crates.tokenAccountLen)
    pure lamports
  let signers := [payer, mintingKey, recipKeypair]
  let createRecipInstr := crates.createAccount payer.pubkey recipKeypair.pubkey lamports
    (UInt64.ofNat crates.tokenAccountLen) crates.splToken
  let initRecipInstr ← tryForeign
    (crates.initializeAccount crates.splToken recipKeypair.pubkey mint payer.pubkey)
  let mintTokensInstr ← tryForeign
    (crates.mintTo crates.splToken mint recipKeypair.pubkey mintingKey.pubkey [] quantity)
  let instructions := [createRecipInstr, initRecipInstr, mintTokensInstr]
  let recentHash ← getLatestBlockhash rClient
  let txn ← newSignedWithPayer instructions (some payer.pubkey) signers recentHash
  let _ ← sendTxn rClient txn false
  pure recipKeypair

def transfer (source destination : Pubkey) (amount : UInt64) (fromAuthority payer : Keypair) :
    Svc AnyError Signature := do
  let instr ← tryForeign
    (crates.tokenTransfer crates.splToken source destination fromAuthority.pubkey [] amount)
  let recentHash ← getLatestBlockhash rClient
  let signers := [payer, fromAuthority]
  let txn ← newSignedWithPayer [instr] (some payer.pubkey) signers recentHash
  sendTxn rClient txn false

end RustHelper.Rpcnb
