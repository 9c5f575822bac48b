import RustHelper.SdkTypes

/-!
# The crates the service calls

Functions of other crates are parameters.  What the service relies on about
them is stated separately, by the predicates at the end, and assumed only where
it is used.
-/

namespace RustHelper

open ByteBlocks

/-- An error of another crate, known by how it displays. -/
structure ForeignError where
  display : String
  deriving DecidableEq

/-- `safe_transmute::Error`; an alignment error keeps the offending slice. -/
inductive TransmuteError
  | guard
  | unaligned (source : List UInt8)
  deriving DecidableEq

/-- `without_src`: forget the slice. -/
def TransmuteError.withoutSrc : TransmuteError → TransmuteError
  | .guard => .guard
  | .unaligned _ => .unaligned []

/-- `anyhow::Error`: a text, or the error of another crate passed on by `?`. -/
inductive AnyError
  | message (text : String)
  | foreign (source : ForeignError)
  | transmute (source : TransmuteError)
  deriving DecidableEq

inductive Code
  | invalidArgument
  | internal
  deriving DecidableEq

/-- `tonic::Status`. -/
structure Status where
  code : Code
  message : String
  deriving DecidableEq

namespace Status

def invalidArgument (message : String) : Status := ⟨.invalidArgument, message⟩

def internal (message : String) : Status := ⟨.internal, message⟩

end Status

/-- Functions and constants of `spl_token`, `solana_sdk`, `serum_dex`,
`safe_transmute` and `bincode`.  `transmuteOnePedantic` and `transmuteMany` take the
size of the packed type; the latter is `transmute_many` with `SingleManyGuard`. -/
structure Crates where
  -- `spl_token::ID`, `sysvar::rent::ID` and the sizes of accounts
  splToken : Pubkey
  rentSysvar : Pubkey
  tokenAccountLen : Nat
  mintLen : Nat
  openOrdersSize : Nat
  maxProcessingAge : Nat
  -- `safe_transmute`
  transmuteManyPedantic : Buffer → Except TransmuteError (List UInt64)
  transmuteCopy : TransmuteError → Except TransmuteError (List UInt64)
  transmuteOnePedantic : (size : Nat) → List UInt8 → Except TransmuteError (Block size)
  transmuteMany : (size : Nat) → List UInt8 → Except TransmuteError (List (Block size))
  transmuteMarketState : List UInt8 → Except TransmuteError MarketState
  transmuteMarketStateV2 : List UInt8 → Except TransmuteError MarketStateV2
  -- methods of the account types of `serum_dex::state`
  accountFlags : List UInt8 → Except ForeignError AccountFlags
  checkFlags : MarketState → Bool → Except ForeignError Unit
  checkFlagsV2 : MarketStateV2 → Bool → Except ForeignError Unit
  eventQueueHead : Block 32 → UInt64
  eventQueueCount : Block 32 → UInt64
  requestQueueHead : Block 32 → UInt64
  requestQueueCount : Block 32 → UInt64
  eventOwner : Block 88 → Words4
  genVaultSignerKey : (nonce : UInt64) → (market program : Pubkey) → Except ForeignError Pubkey
  -- `serum_dex::instruction`; `Ix` marks the constructors that the service imports renamed
  pack : MarketInstruction → List UInt8
  cancelOrderByClientOrderIdIx :
    (program market bids asks orders owner eventQ : Pubkey) → (id : UInt64) →
      Except ForeignError Instruction
  closeOpenOrdersIx :
    (program orders owner destination market : Pubkey) → Except ForeignError Instruction
  initOpenOrdersIx :
    (program orders owner market : Pubkey) → (marketAuthority : Option Pubkey) →
      Except ForeignError Instruction
  initializeMarket :
    (market program coinMint pcMint coinVault pcVault : Pubkey) →
      (authority pruneAuthority consumeEventsAuthority : Option Pubkey) →
      (bids asks reqQ eventQ : Pubkey) →
      (coinLotSize pcLotSize vaultSignerNonce pcDustThreshold : UInt64) →
      Except ForeignError Instruction
  -- `system_instruction`
  createAccount : (funder account : Pubkey) → (lamports space : UInt64) → (owner : Pubkey) →
    Instruction
  systemTransfer : (funder account : Pubkey) → (lamports : UInt64) → Instruction
  -- `spl_token::instruction`
  initializeAccount : (program account mint owner : Pubkey) → Except ForeignError Instruction
  initializeMint :
    (program mint authority : Pubkey) → (freeze : Option Pubkey) → (decimals : UInt8) →
      Except ForeignError Instruction
  mintTo :
    (program mint account owner : Pubkey) → (signers : List Pubkey) → (amount : UInt64) →
      Except ForeignError Instruction
  tokenTransfer :
    (program source destination authority : Pubkey) → (signers : List Pubkey) →
      (amount : UInt64) → Except ForeignError Instruction
  -- `bincode` at `Transaction`, and the bytes of a `Keypair`
  serialize : Transaction → Except ForeignError (List UInt8)
  deserialize : List UInt8 → Except ForeignError Transaction
  keypairToBytes : Keypair → List UInt8
  keypairFromBytes : List UInt8 → Except ForeignError Keypair

namespace Crates

/-- What `safe_transmute` documents about reading packed values: one value from
exactly its size, and at least one value from a slice, of which an incomplete
last one is ignored. -/
structure RecordLaws (crates : Crates) : Prop where
  one_exact : ∀ (size : Nat) (block : Block size),
    crates.transmuteOnePedantic size block.bytes = .ok block
  many_whole : ∀ (size : Nat) (bytes : List UInt8), 0 < size → size ≤ bytes.length →
    crates.transmuteMany size bytes = .ok (wholeBlocks size bytes)
  many_short : ∀ (size : Nat) (bytes : List UInt8), bytes.length < size →
    crates.transmuteMany size bytes = .error .guard

/-- What it documents in addition about reading words: whole words are viewed in
place when they are aligned, and refused when they are not, with an error that
keeps the slice and lets it be copied. -/
structure TransmuteLaws (crates : Crates) : Prop extends RecordLaws crates where
  pedantic_aligned : ∀ data : Buffer, data.bytes ≠ [] → data.bytes.length % 8 = 0 →
    data.address % 8 = 0 → crates.transmuteManyPedantic data = .ok (wordsOf data.bytes)
  pedantic_unaligned : ∀ data : Buffer, data.bytes ≠ [] → data.bytes.length % 8 = 0 →
    data.address % 8 ≠ 0 → crates.transmuteManyPedantic data = .error (.unaligned data.bytes)
  copy_unaligned : ∀ bytes, crates.transmuteCopy (.unaligned bytes) = .ok (wordsOf bytes)

/-- What it does with any other length.  The alignment is tested first: a slice that is
not aligned is refused as such, whatever its length, and can then be copied; the
length of an aligned one is refused for good. -/
structure GuardLaws (crates : Crates) : Prop where
  pedantic_guard : ∀ data : Buffer, data.address % 8 = 0 →
    data.bytes = [] ∨ data.bytes.length % 8 ≠ 0 →
      crates.transmuteManyPedantic data = .error .guard
  pedantic_misaligned : ∀ data : Buffer, data.address % 8 ≠ 0 →
    crates.transmuteManyPedantic data = .error (.unaligned data.bytes)
  copy_guard : ∃ error, crates.transmuteCopy .guard = .error error

/-- The accounts an instruction marks as signers. -/
def signerKeys (instruction : Instruction) : List Pubkey :=
  (instruction.accounts.filter AccountMeta.isSigner).map AccountMeta.pubkey

/-- Which arguments the instruction constructors document as signers; for the
token program, without multisignature signers. -/
structure SignerLaws (crates : Crates) : Prop where
  createAccount : ∀ funder account lamports space owner key,
    key ∈ signerKeys (crates.createAccount funder account lamports space owner) ↔
      key = funder ∨ key = account
  systemTransfer : ∀ funder account lamports key,
    key ∈ signerKeys (crates.systemTransfer funder account lamports) ↔ key = funder
  initializeAccount : ∀ program account mint owner instruction,
    crates.initializeAccount program account mint owner = .ok instruction →
      signerKeys instruction = []
  initializeMint : ∀ program mint authority freeze decimals instruction,
    crates.initializeMint program mint authority freeze decimals = .ok instruction →
      signerKeys instruction = []
  mintTo : ∀ program mint account owner amount instruction,
    crates.mintTo program mint account owner [] amount = .ok instruction →
      ∀ key, key ∈ signerKeys instruction ↔ key = owner
  tokenTransfer : ∀ program source destination authority amount instruction,
    crates.tokenTransfer program source destination authority [] amount = .ok instruction →
      ∀ key, key ∈ signerKeys instruction ↔ key = authority
  cancelOrder : ∀ program market bids asks orders owner eventQ id instruction,
    crates.cancelOrderByClientOrderIdIx program market bids asks orders owner eventQ id =
        .ok instruction →
      ∀ key, key ∈ signerKeys instruction ↔ key = owner
  closeOpenOrders : ∀ program orders owner destination market instruction,
    crates.closeOpenOrdersIx program orders owner destination market = .ok instruction →
      ∀ key, key ∈ signerKeys instruction ↔ key = owner
  initOpenOrders : ∀ program orders owner market instruction,
    crates.initOpenOrdersIx program orders owner market none = .ok instruction →
      ∀ key, key ∈ signerKeys instruction ↔ key = owner
  initializeMarket : ∀ market program coinMint pcMint coinVault pcVault bids asks reqQ eventQ
      coinLotSize pcLotSize nonce dust instruction,
    crates.initializeMarket market program coinMint pcMint coinVault pcVault none none none
        bids asks reqQ eventQ coinLotSize pcLotSize nonce dust = .ok instruction →
      signerKeys instruction = []

/-- `Keypair::to_bytes` gives 64 bytes and `Keypair::from_bytes` inverts it. -/
structure KeypairLaws (crates : Crates) : Prop where
  length_toBytes : ∀ key, (crates.keypairToBytes key).length = 64
  from_to : ∀ key, crates.keypairFromBytes (crates.keypairToBytes key) = .ok key
  to_from : ∀ bytes key, crates.keypairFromBytes bytes = .ok key →
    crates.keypairToBytes key = bytes

end Crates

end RustHelper
