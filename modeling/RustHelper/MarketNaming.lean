import RustHelper.SerumClient

/-!
# Naming a market by id and by key set

A request may name its market by id, to be looked up on the chain, or by the
key set that an earlier lookup returned.  Since no encoded key is read back, the
second way never works with what the first one returned.
-/

namespace RustHelper.SerumClient

open Effect

theorem convertState_convertMarketPubkeys (crates : Crates) (rClient : ServiceMutex)
    (programId : Pubkey) (m : MarketPubkeys) (world : ServiceWorld) (clock : Nat) :
    (convertState crates rClient programId ⟨some (.state (convertMarketPubkeys m))⟩).outcome
        world clock = .err (.message "pubkey of wrong length") :=
  reverseMarketPubkeys_convertMarketPubkeys m

/-- What the market codec achieves: an encoded key set is never read back; a
wire key set is accepted exactly when its eight keys are valid, and is then
never restored; and looking a market up by the key set that its id led to fails. -/
theorem marketNaming_exact (m : MarketPubkeys) (p : PbMarketPubkeys) (crates : Crates)
    (rClient : ServiceMutex) (programId : Pubkey) (id : PbPubkey) (world laterWorld : ServiceWorld)
    (clock laterClock : Nat) :
    reverseMarketPubkeys (convertMarketPubkeys m) ≠ .ok m ∧
    ((((∃ read, reverseMarketPubkeys p = .ok read) ↔ ValidKeys p) ∧
        ∀ read, reverseMarketPubkeys p = .ok read → convertMarketPubkeys read = p) ↔
      ¬ ValidKeys p) ∧
    ((convertState crates rClient programId ⟨some (.id id)⟩).outcome world clock = .ok m →
      (convertState crates rClient programId
        ⟨some (.state (convertMarketPubkeys m))⟩).outcome laterWorld laterClock ≠ .ok m) := by
  refine ⟨?_, ⟨?_, fun invalid => ?_⟩, fun _ => ?_⟩
  · simp [reverseMarketPubkeys_convertMarketPubkeys]
  · rintro ⟨accepts, restores⟩ valid
    obtain ⟨read, decoded⟩ := accepts.mpr valid
    exact convertMarketPubkeys_ne valid read (restores read decoded)
  · have accepts := reverseMarketPubkeys_isOk_iff p
    exact ⟨accepts, fun read decoded => absurd (accepts.mp ⟨read, decoded⟩) invalid⟩
  · rw [convertState_convertMarketPubkeys]
    simp

/-- The key set of ones is not read back, and its valid wire form is accepted
but not restored. -/
theorem marketNaming_loses_keys :
    let wire : Option PbPubkey := some ⟨List.replicate 32 1⟩
    let p : PbMarketPubkeys := ⟨wire, wire, wire, wire, wire, wire, wire, wire⟩
    reverseMarketPubkeys (convertMarketPubkeys (sameKeys onesPubkey)) ≠
        .ok (sameKeys onesPubkey) ∧
      reverseMarketPubkeys p = .ok (sameKeys (copiedPubkey (List.replicate 32 1))) ∧
      convertMarketPubkeys (sameKeys (copiedPubkey (List.replicate 32 1))) ≠ p := by
  decide

end RustHelper.SerumClient
