import RustHelper.Rpcnb

/-!
# Token accounts created and filled for a request

The builders of `util.rs`, which confirm what they send with a second call.
-/

namespace RustHelper.Util

variable (crates : Crates) (rClient : ServiceMutex)

/-- `Keypair::from_bytes(key.to_bytes().as_ref()).unwrap()` -/
def copied {ε : Type} (key : Keypair) : Svc ε Keypair :=
  match crates.keypairFromBytes (crates.keypairToBytes key) with
  | .ok copy => pure copy
  | .error _ => Effect.Fallible.lift (.panic "called Result::unwrap on an Err value")

def sendTxn (txn : Transaction) (_simulate : Bool) : Svc AnyError Signature := do
  let sig ← locked rClient do
    let sig ← rpcTry (.sendAndConfirmTransaction txn .confirmed { skipPreflight := true })
    pure sig
  locked rClient do
    let confirmed : Bool ← rpcTry (.confirmTransaction sig)
    if confirmed then
      pure sig
    else
      Effect.Fallible.throw (.message "no signature")

def initializeTokenAccount (mint : Pubkey) (owner : Keypair) : Svc AnyError Keypair := do
  let recipKeypair ← generateKeypair
  let lamports ← Rpcnb.getMinimumBalanceForRentExemption rClient crates.tokenAccountLen
  let createRecipInstr := crates.createAccount owner.pubkey recipKeypair.pubkey lamports
    (UInt64.ofNat crates.tokenAccountLen) crates.splToken
  let initRecipInstr ← tryForeign
    (crates.initializeAccount crates.splToken recipKeypair.pubkey mint owner.pubkey)
  let o1 ← copied crates owner
  let signers := [o1, recipKeypair]
  let instructions := [createRecipInstr, initRecipInstr]
  let recentHash ← Rpcnb.getLatestBlockhash rClient
  let txn ← newSignedWithPayer instructions (some owner.pubkey) signers recentHash
  let _ ← sendTxn rClient txn false
  pure recipKeypair

def mintToExistingAccount (payer mintingKey : Keypair) (mint recipient : Pubkey)
    (quantity : UInt64) : Svc AnyError Unit := do
  let payer1 ← copied crates payer
  let mintingKey1 ← copied crates mintingKey
  let signers := [payer1, mintingKey1]
  let mintTokensInstr ← tryForeign
    (crates.mintTo crates.splToken mint recipient mintingKey.pubkey [] quantity)
  let instructions := [mintTokensInstr]
  let recentHash ← Rpcnb.getLatestBlockhash rClient
  let txn ← newSignedWithPayer instructions (some payer.pubkey) signers recentHash
  let _ ← sendTxn rClient txn false
  pure ()

def createAccount (mintPubkey ownerPubkey : Pubkey) (payer : Keypair) :
    Svc AnyError Keypair := do
  let splAccount ← generateKeypair
  let signers := [payer, splAccount]
  let lamports ← Rpcnb.getMinimumBalanceForRentExemption rClient crates.tokenAccountLen
  let createAccountInstr := crates.createAccount payer.pubkey splAccount.pubkey lamports
    (UInt64.ofNat crates.tokenAccountLen) crates.splToken
  let initAccountInstr ← tryForeign
    (crates.initializeAccount crates.splToken splAccount.pubkey mintPubkey ownerPubkey)
  let instructions := [createAccountInstr, initAccountInstr]
  let recentHash ← Rpcnb.getLatestBlockhash rClient
  let txn ← newSignedWithPayer instructions (some payer.pubkey) signers recentHash
  let _ ← Rpcnb.sendTxn rClient txn false
  pure splAccount

end RustHelper.Util
