import RustHelper.IndexLoops
import RustHelper.Crates
import RustHelper.FallibleProgram

/-!
# Keys on the wire

Public keys and key pairs cross the service's gRPC boundary as byte strings.
Both encoders and the public-key decoder copy byte by byte over an index range
that stops one short of the key length.

The generated message types are called as in the service definition, with the
prefix `Pb` where another type has the name.
-/

namespace RustHelper

open ByteBlocks Effect

/-- `basic.Pubkey`. -/
structure PbPubkey where
  data : List UInt8
  deriving DecidableEq

inductive PbKeypairInput
  | seed (data : List UInt8)
  | privateKey (data : List UInt8)
  deriving DecidableEq

structure PbKeypair where
  input : Option PbKeypairInput
  deriving DecidableEq

/-- `ed25519_dalek::PUBLIC_KEY_LENGTH` -/
def publicKeyLength : Nat := 32

/-- The array `d` of `pubkey_from_bytes` after its loop, started with zeros. -/
def copiedPubkey (data : List UInt8) : Pubkey where
  bytes := IndexLoop.store (publicKeyLength - 1) (fun i => data.getD i 0)
    (List.replicate publicKeyLength 0)
  length_eq := by simp [publicKeyLength]

def pubkeyFromBytes (data : List UInt8) : Outcome AnyError Pubkey :=
  if data.length ≠ publicKeyLength then
    .err (.message "pubkey of wrong length")
  else
    .ok (copiedPubkey data)

def reversePubkey (ans : Pubkey) : PbPubkey :=
  let x := ans.bytes
  ⟨IndexLoop.push (x.length - 1) fun i => x.getD i 0⟩

def convertPubkey (req : PbPubkey) : Outcome AnyError Pubkey :=
  pubkeyFromBytes req.data

/-- A key field of a request, with one error for a missing and for a bad key. -/
def pubkeyField (field : Option PbPubkey) (error : Status) : Outcome Status Pubkey :=
  match field with
  | some x => (convertPubkey x).mapErr fun _ => error
  | none => .err error

section PublicKeys

/-- The encoder drops the last byte. -/
theorem reversePubkey_data (key : Pubkey) : (reversePubkey key).data = key.bytes.take 31 := by
  have length := key.length_eq
  simp only [reversePubkey]
  rw [IndexLoop.push_getD (by omega), length]

theorem length_reversePubkey (key : Pubkey) : (reversePubkey key).data.length = 31 := by
  simp [reversePubkey_data]

theorem convertPubkey_of_length_ne {wire : PbPubkey} (wrong : wire.data.length ≠ 32) :
    convertPubkey wire = .err (.message "pubkey of wrong length") := by
  simp [convertPubkey, pubkeyFromBytes, publicKeyLength, wrong]

/-- The decoder keeps the first 31 bytes and zeroes the last. -/
theorem copiedPubkey_bytes {data : List UInt8} (enough : 31 ≤ data.length) :
    (copiedPubkey data).bytes = data.take 31 ++ [0] := by
  simp only [copiedPubkey, publicKeyLength]
  rw [IndexLoop.store_eq_append (by simp), ← IndexLoop.push_eq_map,
    IndexLoop.push_getD enough]
  simp

theorem convertPubkey_of_length_eq {wire : PbPubkey} (right : wire.data.length = 32) :
    convertPubkey wire = .ok (copiedPubkey wire.data) := by
  simp [convertPubkey, pubkeyFromBytes, publicKeyLength, right]

theorem convertPubkey_isOk_iff (wire : PbPubkey) :
    (∃ key, convertPubkey wire = .ok key) ↔ wire.data.length = 32 := by
  constructor
  · rintro ⟨key, decoded⟩
    by_contra wrong
    rw [convertPubkey_of_length_ne wrong] at decoded
    cases decoded
  · exact fun right => ⟨_, convertPubkey_of_length_eq right⟩

theorem convertPubkey_reversePubkey (key : Pubkey) :
    convertPubkey (reversePubkey key) = .err (.message "pubkey of wrong length") :=
  convertPubkey_of_length_ne (by simp [length_reversePubkey])

theorem convertPubkey_eq_iff {first second : PbPubkey} (firstLength : first.data.length = 32)
    (secondLength : second.data.length = 32) :
    convertPubkey first = convertPubkey second ↔ first.data.take 31 = second.data.take 31 := by
  rw [convertPubkey_of_length_eq firstLength, convertPubkey_of_length_eq secondLength,
    Outcome.ok.injEq, Pubkey.ext_iff, copiedPubkey_bytes (by omega),
    copiedPubkey_bytes (by omega), List.append_left_inj]

/-- What the public-key codec achieves: an encoded key is never read back, a
decoded wire key is never restored, wrong lengths are refused, and accepted
wire keys stay apart exactly when they differ before the last byte. -/
theorem pubkeyCodec_exact (key : Pubkey) (wire other : PbPubkey) :
    convertPubkey (reversePubkey key) ≠ .ok key ∧
    (((wire.data.length = 32 →
          ∃ read, convertPubkey wire = .ok read ∧ reversePubkey read = wire) ∧
        (wire.data.length ≠ 32 → (convertPubkey wire).IsErr)) ↔ wire.data.length ≠ 32) ∧
    (wire.data.length = 32 → other.data.length = 32 →
      (convertPubkey wire ≠ convertPubkey other ↔ wire.data.take 31 ≠ other.data.take 31)) := by
  refine ⟨?_, ⟨?_, fun wrong => ⟨?_, fun _ => ?_⟩⟩, ?_⟩
  · simp [convertPubkey_reversePubkey]
  · rintro ⟨restores, _⟩ right
    obtain ⟨read, _, restored⟩ := restores right
    have shorter := length_reversePubkey read
    rw [restored, right] at shorter
    omega
  · exact fun right => absurd right wrong
  · rw [convertPubkey_of_length_ne wrong]
    trivial
  · intro wireLength otherLength
    exact not_congr (convertPubkey_eq_iff wireLength otherLength)

def onesPubkey : Pubkey := ⟨⟨List.replicate 32 1, rfl⟩⟩

/-- The address of ones is not read back, and its 32 wire bytes decode to another
address, the one that wire bytes ending in zero decode to. -/
theorem pubkeyCodec_loses_last_byte :
    convertPubkey (reversePubkey onesPubkey) ≠ .ok onesPubkey ∧
      convertPubkey ⟨List.replicate 32 1⟩ ≠ .ok onesPubkey ∧
      convertPubkey ⟨List.replicate 32 1⟩ = convertPubkey ⟨List.replicate 31 1 ++ [0]⟩ := by
  decide

end PublicKeys

section Keypairs

variable (crates : Crates)

def keypairToBytes (key : Keypair) : Outcome AnyError (List UInt8) :=
  let x := crates.keypairToBytes key
  .ok (IndexLoop.push (publicKeyLength - 1) fun i => x.getD i 0)

def keypairFromBytes (data : List UInt8) : Outcome AnyError Keypair :=
  match crates.keypairFromBytes data with
  | .ok key => .ok key
  | .error _ => .err (.message "bad keypair")

def reverseKeypair (key : Keypair) : Outcome Status PbKeypair :=
  match keypairToBytes crates key with
  | .ok privateKey => .ok ⟨some (.privateKey privateKey)⟩
  | .err _ => .err (.invalidArgument "bad key pair")
  | .panic message => .panic message

def convertKeypair (req : PbKeypair) : Outcome Status Keypair :=
  match req.input with
  | some (.seed _) => .err (.invalidArgument "seed not implemented")
  | some (.privateKey data) =>
      match keypairFromBytes crates data with
      | .ok key => .ok key
      | .err _ => .err (.invalidArgument "bad key pair")
      | .panic message => .panic message
  | none => .err (.invalidArgument "bad key pair")

/-- `copy_keypair`: the key pair, unless its input is missing. -/
def copyKeypair (req : Option PbKeypair) : Option PbKeypair :=
  match req with
  | some keypair =>
      match keypair.input with
      | some input => some ⟨some input⟩
      | none => none
  | none => none

end Keypairs

end RustHelper
