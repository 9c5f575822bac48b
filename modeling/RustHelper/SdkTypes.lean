import RustHelper.ByteBlocks
import Mathlib.Data.Prod.Lex
import Mathlib.Order.Lattice

/-!
# Data of the Solana SDK and of the DEX program

Only the fields that the service reads or writes are kept.
-/

namespace RustHelper

open ByteBlocks

/-- An account address. -/
structure Pubkey extends Block 32
  deriving DecidableEq

@[ext] theorem Pubkey.ext {first second : Pubkey} (same : first.bytes = second.bytes) :
    first = second := by
  cases first
  cases second
  exact congrArg Pubkey.mk (Block.ext same)

structure Signature extends Block 64
  deriving DecidableEq

structure Hash extends Block 32
  deriving DecidableEq

structure Keypair where
  secret : Block 32
  pubkey : Pubkey
  deriving DecidableEq

structure AccountMeta where
  pubkey : Pubkey
  isSigner : Bool
  isWritable : Bool
  deriving DecidableEq

/-- `AccountMeta::new`: a writable account. -/
def AccountMeta.new (pubkey : Pubkey) (isSigner : Bool) : AccountMeta :=
  ⟨pubkey, isSigner, true⟩

def AccountMeta.newReadonly (pubkey : Pubkey) (isSigner : Bool) : AccountMeta :=
  ⟨pubkey, isSigner, false⟩

structure Instruction where
  programId : Pubkey
  accounts : List AccountMeta
  data : List UInt8
  deriving DecidableEq

/-- A signed transaction, as `Transaction::new_signed_with_payer` is asked to
build it: `signers` are the public keys of the key pairs that sign.  Of its
`signatures` only the first is read; a transaction read from bytes may have none. -/
structure Transaction where
  instructions : List Instruction
  payer : Option Pubkey
  signers : List Pubkey
  recentBlockhash : Hash
  firstSignature : Option Signature
  deriving DecidableEq

/-- A slice of memory: its bytes and the address of the first of them. -/
structure Buffer where
  bytes : List UInt8
  address : Nat
  deriving DecidableEq

/-- An account address as the DEX program stores it, `[u64; 4]`. -/
structure Words4 where
  w0 : UInt64
  w1 : UInt64
  w2 : UInt64
  w3 : UInt64

namespace Words4

def toList (words : Words4) : List UInt64 := [words.w0, words.w1, words.w2, words.w3]

/-- The words as the tuple that arrays are compared by. -/
def key (words : Words4) : ℕ ×ₗ ℕ ×ₗ ℕ ×ₗ ℕ :=
  toLex (words.w0.toNat, toLex (words.w1.toNat, toLex (words.w2.toNat, words.w3.toNat)))

theorem key_injective : Function.Injective key := by
  rintro ⟨a0, a1, a2, a3⟩ ⟨b0, b1, b2, b3⟩ same
  simpa [key, Prod.ext_iff, UInt64.toNat_inj] using same

/-- Arrays of words are ordered lexicographically. -/
instance : LinearOrder Words4 := LinearOrder.lift' key key_injective

/-- `Pubkey::new` of the bytes of the four words. -/
def toPubkey (words : Words4) : Pubkey where
  bytes := bytesOf words.toList
  length_eq := by simp [toList]

theorem toPubkey_injective : Function.Injective toPubkey := by
  rintro ⟨a0, a1, a2, a3⟩ ⟨b0, b1, b2, b3⟩ same
  have bytes := congrArg (fun pubkey : Pubkey => wordsOf pubkey.bytes) same
  simpa [toPubkey, toList] using bytes

end Words4

/-- The fields of `serum_dex::state::MarketState` that the service reads. -/
structure MarketState where
  accountFlags : UInt64
  ownAddress : Words4
  vaultSignerNonce : UInt64
  reqQ : Words4
  eventQ : Words4
  bids : Words4
  asks : Words4
  coinVault : Words4
  pcVault : Words4
  deriving DecidableEq

/-- `serum_dex::state::MarketStateV2`, the layout of permissioned markets. -/
structure MarketStateV2 where
  inner : MarketState
  deriving DecidableEq

/-- `serum_dex::state::AccountFlag`, as far as it is tested. -/
structure AccountFlags where
  permissioned : Bool
  deriving DecidableEq

abbrev NonZeroU64 := { value : UInt64 // value ≠ 0 }

inductive Side
  | bid
  | ask
  deriving DecidableEq

inductive SelfTradeBehavior
  | decrementTake
  | cancelProvide
  | abortTransaction
  deriving DecidableEq

inductive OrderType
  | limit
  | immediateOrCancel
  | postOnly
  deriving DecidableEq

/-- `serum_dex::instruction::NewOrderInstructionV3`. -/
structure NewOrderInstructionV3 where
  side : Side
  limitPrice : NonZeroU64
  maxCoinQty : NonZeroU64
  maxNativePcQtyIncludingFees : NonZeroU64
  selfTradeBehavior : SelfTradeBehavior
  orderType : OrderType
  clientOrderId : UInt64
  limit : UInt16
  deriving DecidableEq

/-- The instructions of the DEX program that the service packs itself. -/
inductive MarketInstruction
  | newOrderV3 (order : NewOrderInstructionV3)
  | consumeEvents (limit : UInt16)
  | matchOrders (limit : UInt16)
  | settleFunds
  deriving DecidableEq

end RustHelper
