import RustHelper.ByteFields
import RustHelper.SdkTypes

/-!
# Instructions of the token program

`token_instruction.rs`: the instructions, their packing into bytes, and the
functions that build an instruction with the accounts it is about.
-/

namespace RustHelper

open ByteBlocks ByteFields

/-- `solana_sdk::program_error::ProgramError`, as far as it is used. -/
inductive ProgramError
  | custom (code : Nat)
  | notEnoughAccountKeys
  | missingRequiredSignature
  deriving DecidableEq

inductive TokenInstruction
  | initializeMint (amount : UInt64) (decimals : UInt8)
  | initializeAccount
  | initializeMultisig (m : UInt8)
  | transfer (amount : UInt64)
  | approve (amount : UInt64)
  | revoke
  | setOwner
  | mintTo (amount : UInt64)
  | burn (amount : UInt64)
  | closeAccount
  deriving DecidableEq

namespace TokenInstruction

def minSigners : Nat := 1

def maxSigners : Nat := 11

/-- `size_of::<TokenInstruction>()` under `#[repr(C)]`: the tag padded to eight
bytes, then the largest payload, a word and a byte padded to sixteen. -/
def size : Nat := 24

section Codec

/-- The pointer casts of the source read the word in place. -/
def unpack (input : List UInt8) : Except ProgramError TokenInstruction :=
  if input.length < 1 then
    .error (.custom 0)
  else
    match (input.getD 0 0).toNat with
    | 0 =>
        if input.length < 1 + 8 + 1 then .error (.custom 1)
        else .ok (.initializeMint (wordAt 1 input) (input.getD (1 + 8) 0))
    | 1 => .ok .initializeAccount
    | 2 =>
        if input.length < 1 + 1 then .error (.custom 2)
        else .ok (.initializeMultisig (input.getD 1 0))
    | 3 =>
        if input.length < 1 + 8 then .error (.custom 3)
        else .ok (.transfer (wordAt 1 input))
    | 4 =>
        if input.length < 1 + 8 then .error (.custom 4)
        else .ok (.approve (wordAt 1 input))
    | 5 => .ok .revoke
    | 6 => .ok .setOwner
    | 7 =>
        if input.length < 1 + 8 then .error (.custom 5)
        else .ok (.mintTo (wordAt 1 input))
    | 8 =>
        if input.length < 1 + 8 then .error (.custom 6)
        else .ok (.burn (wordAt 1 input))
    | 9 => .ok .closeAccount
    | _ => .error (.custom 7)

/-- `output[0] = tag`, on the zeroed buffer. -/
def tagged (tag : UInt8) : List UInt8 :=
  write 0 [tag] (List.replicate size 0)

/-- The tag, then the word at offset one. -/
def taggedAmount (tag : UInt8) (amount : UInt64) : List UInt8 :=
  write 1 (wordBlock amount).bytes (tagged tag)

def pack : TokenInstruction → Except ProgramError (List UInt8)
  | .initializeMint amount decimals => .ok (write (1 + 8) [decimals] (taggedAmount 0 amount))
  | .initializeAccount => .ok (tagged 1)
  | .initializeMultisig m => .ok (write 1 [m] (tagged 2))
  | .transfer amount => .ok (taggedAmount 3 amount)
  | .approve amount => .ok (taggedAmount 4 amount)
  | .revoke => .ok (tagged 5)
  | .setOwner => .ok (tagged 6)
  | .mintTo amount => .ok (taggedAmount 7 amount)
  | .burn amount => .ok (taggedAmount 8 amount)
  | .closeAccount => .ok (tagged 9)

end Codec

section Builders

variable (tokenProgramId : Pubkey)

/-- The accounts of an instruction that an authority allows: without further
signers the authority signs itself, otherwise they sign for it. -/
def withAuthority (accounts : List AccountMeta) (authority : Pubkey)
    (signerPubkeys : List Pubkey) : List AccountMeta :=
  accounts ++ [.newReadonly authority signerPubkeys.isEmpty] ++
    signerPubkeys.map fun signerPubkey => .new signerPubkey true

/-- `instruction.pack()?`, then the instruction with the accounts. -/
def build (instruction : TokenInstruction) (accounts : List AccountMeta) :
    Except ProgramError Instruction := do
  let data ← instruction.pack
  .ok ⟨tokenProgramId, accounts, data⟩

def isValidSignerIndex (index : Nat) : Bool :=
  !(decide (index < minSigners) || decide (index > maxSigners))

def initializeMintIx (mintPubkey : Pubkey) (accountPubkey ownerPubkey : Option Pubkey)
    (amount : UInt64) (decimals : UInt8) : Except ProgramError Instruction := do
  let data ← (initializeMint amount decimals).pack
  let accounts : List AccountMeta := [.new mintPubkey false]
  let accounts ←
    if amount ≠ 0 then
      match accountPubkey with
      | some pubkey => Except.ok (accounts ++ [.new pubkey false])
      | none => .error .notEnoughAccountKeys
    else
      .ok accounts
  let accounts ←
    match ownerPubkey with
    | some pubkey => Except.ok (accounts ++ [.newReadonly pubkey false])
    | none => if amount = 0 then .error (.custom 8) else .ok accounts
  .ok ⟨tokenProgramId, accounts, data⟩

def initializeAccountIx (accountPubkey mintPubkey ownerPubkey : Pubkey) :
    Except ProgramError Instruction :=
  build tokenProgramId .initializeAccount
    [.new accountPubkey false, .newReadonly mintPubkey false, .newReadonly ownerPubkey false]

def initializeMultisigIx (multisigPubkey : Pubkey) (signerPubkeys : List Pubkey) (m : UInt8) :
    Except ProgramError Instruction :=
  if !isValidSignerIndex m.toNat || !isValidSignerIndex signerPubkeys.length ||
      decide (m.toNat > signerPubkeys.length) then
    .error .missingRequiredSignature
  else
    build tokenProgramId (.initializeMultisig m)
      (.new multisigPubkey false ::
        signerPubkeys.map fun signerPubkey => .newReadonly signerPubkey false)

def transferIx (sourcePubkey destinationPubkey authorityPubkey : Pubkey)
    (signerPubkeys : List Pubkey) (amount : UInt64) : Except ProgramError Instruction :=
  build tokenProgramId (.transfer amount)
    (withAuthority [.new sourcePubkey false, .new destinationPubkey false] authorityPubkey
      signerPubkeys)

def approveIx (sourcePubkey delegatePubkey ownerPubkey : Pubkey) (signerPubkeys : List Pubkey)
    (amount : UInt64) : Except ProgramError Instruction :=
  build tokenProgramId (.approve amount)
    (withAuthority [.newReadonly sourcePubkey false, .new delegatePubkey false] ownerPubkey
      signerPubkeys)

def revokeIx (sourcePubkey ownerPubkey : Pubkey) (signerPubkeys : List Pubkey) :
    Except ProgramError Instruction :=
  build tokenProgramId .revoke
    (withAuthority [.newReadonly sourcePubkey false] ownerPubkey signerPubkeys)

def setOwnerIx (ownedPubkey newOwnerPubkey ownerPubkey : Pubkey) (signerPubkeys : List Pubkey) :
    Except ProgramError Instruction :=
  build tokenProgramId .setOwner
    (withAuthority [.new ownedPubkey false, .newReadonly newOwnerPubkey false] ownerPubkey
      signerPubkeys)

def mintToIx (mintPubkey accountPubkey ownerPubkey : Pubkey) (signerPubkeys : List Pubkey)
    (amount : UInt64) : Except ProgramError Instruction :=
  build tokenProgramId (.mintTo amount)
    (withAuthority [.new mintPubkey false, .new accountPubkey false] ownerPubkey signerPubkeys)

def burnIx (accountPubkey authorityPubkey : Pubkey) (signerPubkeys : List Pubkey)
    (amount : UInt64) : Except ProgramError Instruction :=
  build tokenProgramId (.burn amount)
    (withAuthority [.new accountPubkey false] authorityPubkey signerPubkeys)

def closeAccountIx (accountPubkey destPubkey authorityPubkey : Pubkey)
    (signerPubkeys : List Pubkey) : Except ProgramError Instruction :=
  build tokenProgramId .closeAccount
    (withAuthority [.new accountPubkey false, .new destPubkey false] authorityPubkey
      signerPubkeys)

end Builders

end TokenInstruction

end RustHelper
