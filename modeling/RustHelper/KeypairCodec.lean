import RustHelper.Broadcast
import RustHelper.ReferenceCrates

/-!
# Key pairs on the wire

The decoder wants all 64 bytes of a key pair, the encoder writes 31 of them.
So no key pair that the service returns is ever accepted by it again.
-/

namespace RustHelper

open ByteBlocks Effect

section Codec

variable {crates : Crates}

/-- The encoder stops one byte short of the secret half. -/
theorem reverseKeypair_eq (laws : crates.KeypairLaws) (key : Keypair) :
    reverseKeypair crates key = .ok ⟨some (.privateKey ((crates.keypairToBytes key).take 31))⟩ := by
  have enough : 31 ≤ (crates.keypairToBytes key).length := by
    rw [laws.length_toBytes]
    omega
  simp only [reverseKeypair, keypairToBytes, publicKeyLength]
  rw [IndexLoop.push_getD enough]

theorem convertKeypair_eq_ok_iff {wire : PbKeypair} {key : Keypair} :
    convertKeypair crates wire = .ok key ↔
      ∃ data, wire.input = some (.privateKey data) ∧ crates.keypairFromBytes data = .ok key := by
  obtain ⟨input⟩ := wire
  rcases input with _ | data | data
  · simp [convertKeypair]
  · simp [convertKeypair]
  · cases read : crates.keypairFromBytes data <;> simp [convertKeypair, keypairFromBytes, read]

/-- Only the 64 bytes of a key pair are accepted. -/
theorem convertKeypair_length (laws : crates.KeypairLaws) {wire : PbKeypair} {key : Keypair}
    (accepted : convertKeypair crates wire = .ok key) :
    ∃ data, wire.input = some (.privateKey data) ∧ data.length = 64 := by
  obtain ⟨data, isInput, read⟩ := convertKeypair_eq_ok_iff.mp accepted
  have restored := laws.to_from data key read
  exact ⟨data, isInput, restored ▸ laws.length_toBytes key⟩

/-- What the encoder returns is never accepted by the decoder. -/
theorem convertKeypair_reverseKeypair_ne (laws : crates.KeypairLaws) {key read : Keypair}
    {wire : PbKeypair} (encoded : reverseKeypair crates key = .ok wire) :
    convertKeypair crates wire ≠ .ok read := by
  intro accepted
  obtain ⟨data, isInput, length⟩ := convertKeypair_length laws accepted
  rw [reverseKeypair_eq laws] at encoded
  cases encoded
  cases isInput
  rw [List.length_take, laws.length_toBytes] at length
  omega

end Codec

section Returned

variable {crates : Crates}

/-- What a handler returns comes out of the encoder. -/
def Encoded (crates : Crates) (wire : PbKeypair) : Prop :=
  ∃ key, reverseKeypair crates key = .ok wire

theorem runCreateAccount_encoded (r : Broadcast.CreateAccount) :
    (Broadcast.runCreateAccount crates r).Returns fun wire _ => Encoded crates wire := by
  apply Fallible.Returns.of_last
  intro mint
  apply Fallible.Returns.of_last
  intro owner
  apply Fallible.Returns.of_last
  intro payer
  apply Fallible.Returns.of_last
  intro result
  apply Fallible.Returns.lift
  exact fun wire encoded => ⟨result, encoded⟩

theorem runInitializeTokenAccount_encoded (r : Broadcast.InitializeTokenAccount) :
    (Broadcast.runInitializeTokenAccount crates r).Returns fun wire _ => Encoded crates wire := by
  apply Fallible.Returns.of_last
  intro mint
  apply Fallible.Returns.of_last
  intro owner
  apply Fallible.Returns.of_last
  intro owner1
  apply Fallible.Returns.of_last
  intro result
  apply Fallible.Returns.lift
  intro wire encoded
  refine ⟨result, ?_⟩
  cases reversed : reverseKeypair crates result <;> rw [reversed] at encoded <;> cases encoded
  rfl

end Returned

/-- What the key pair codec achieves: no key pair is recovered from its wire
form, none that is accepted is restored, and what the two handlers return is
never accepted again. -/
theorem keypairCodec_exact (crates : Crates) (laws : crates.KeypairLaws) (key : Keypair)
    (wire : PbKeypair) :
    (¬ ∃ encoded, reverseKeypair crates key = .ok encoded ∧
      convertKeypair crates encoded = .ok key) ∧
    (∀ read, convertKeypair crates wire = .ok read → reverseKeypair crates read ≠ .ok wire) ∧
    (∀ r world clock returned,
      (Broadcast.runCreateAccount crates r).outcome world clock = .ok returned →
        ∀ read, convertKeypair crates returned ≠ .ok read) ∧
    ∀ r world clock returned,
      (Broadcast.runInitializeTokenAccount crates r).outcome world clock = .ok returned →
        ∀ read, convertKeypair crates returned ≠ .ok read := by
  refine ⟨?_, ?_, ?_, ?_⟩
  · rintro ⟨encoded, isEncoded, recovered⟩
    exact convertKeypair_reverseKeypair_ne laws isEncoded recovered
  · intro read accepted restores
    exact convertKeypair_reverseKeypair_ne laws restores accepted
  · intro r world clock returned ends read
    obtain ⟨key, isEncoded⟩ := (runCreateAccount_encoded r).sound ends
    exact convertKeypair_reverseKeypair_ne laws isEncoded
  · intro r world clock returned ends read
    obtain ⟨key, isEncoded⟩ := (runInitializeTokenAccount_encoded r).sound ends
    exact convertKeypair_reverseKeypair_ne laws isEncoded

theorem keypairCodec_exact_reference :
    ¬ ∃ encoded, reverseKeypair referenceCrates Reference.keypair = .ok encoded ∧
      convertKeypair referenceCrates encoded = .ok Reference.keypair :=
  (keypairCodec_exact referenceCrates referenceCrates_keypairLaws Reference.keypair ⟨none⟩).1

/-- A key pair whose secret is 32 bytes 7 is encoded as 31 of them and refused. -/
theorem keypairCodec_loses_secret :
    reverseKeypair referenceCrates Reference.keypair =
        .ok ⟨some (.privateKey (List.replicate 31 7))⟩ ∧
      convertKeypair referenceCrates ⟨some (.privateKey (List.replicate 31 7))⟩ =
        .err (.invalidArgument "bad key pair") := by
  decide

end RustHelper
