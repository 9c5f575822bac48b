import RustHelper.FatalAnswers

/-!
# When the builders panic

No builder fails to sign.  The builders for tokens and orders never panic; the others
panic exactly when they are given what they cannot cope with.
-/

namespace RustHelper

open Effect
open SerumClient (MarketInPlace QueueInRange generatedKeys)

variable {crates : Crates} {request : Request} {past : List ServiceEvent} {ε α : Type}
  {kind : String → Prop} {rClient : ServiceMutex} {returns : List ServiceEvent → α → Prop}

section Sending

theorem Rpcnb.sendTxn_faults (txn : Transaction) (simulate : Bool) :
    Faults crates request kind past Proper.Anything (Rpcnb.sendTxn rClient txn simulate) :=
  (Faults.locked_rpcTry (not_fatal_of_routine (.rpc (.sendAndConfirmTransaction ..)) trivial)).mono
    fun _ _ _ _ => trivial

theorem Util.sendTxn_faults (txn : Transaction) (simulate : Bool) :
    Faults crates request kind past Proper.Anything (Util.sendTxn rClient txn simulate) := by
  apply Fallible.Blames.bind (Faults.locked_rpcTry
    (not_fatal_of_routine (.rpc (.sendAndConfirmTransaction ..)) trivial))
  intro later sig _ _
  apply Faults.locked
  intro _
  apply Fallible.Blames.bind
    (Faults.rpcTry (not_fatal_of_routine (.rpc (.confirmTransaction sig)) trivial))
  intro asked confirmed _ _
  split
  · exact .pure fun _ => trivial
  · exact .throw _

theorem Util.copied_faults (laws : crates.KeypairLaws) (key : Keypair) :
    Faults crates request kind past (fun later copy => later = past ∧ copy = key)
      (Util.copied crates key : Svc ε Keypair) := by
  unfold Util.copied
  rw [laws.from_to]
  exact .pure ⟨rfl, rfl⟩

/-- The common end of the builders. -/
theorem signed_faults {instructions : List Instruction} {payer : Option Pubkey}
    {signers : List Keypair} {next : Transaction → Svc AnyError α}
    (unsimulated : ¬ request.Simulates)
    (rest : ∀ later txn, past <:+ later →
      Faults crates request (¬ IsSignFailure ·) later returns (next txn)) :
    Faults crates request (¬ IsSignFailure ·) past returns (do
      let recentHash ← Rpcnb.getLatestBlockhash rClient
      let txn ← newSignedWithPayer instructions payer signers recentHash
      next txn) := by
  apply Fallible.Blames.bind Faults.getLatestBlockhash
  intro hashed recentHash grown _
  apply Fallible.Blames.bind (Faults.newSignedWithPayer unsimulated)
  intro later txn grownMore _
  exact rest later txn (grown.trans grownMore)

theorem serialize_faults {result : Except ForeignError α} :
    Faults crates request kind past Proper.Anything (tryForeign result) :=
  (Faults.tryForeign result).mono fun _ _ _ _ => trivial

theorem SerumClient.serialized_faults (txn : Transaction) :
    Faults crates request kind past Proper.Anything (SerumClient.serialized crates txn) := by
  unfold SerumClient.serialized
  split
  · exact .pure trivial
  · exact .throw _

theorem SerumClient.failOnSimulationError_faults (err : Option ForeignError) :
    Faults crates request kind past Proper.Anything (SerumClient.failOnSimulationError err) := by
  cases err with
  | none => exact .pure trivial
  | some e => exact .throw _

end Sending

section Tokens

variable (unlisted : ¬ request.Lists) (unsimulated : ¬ request.Simulates)

include unlisted unsimulated

theorem Rpcnb.createAndInitMint_faults (laws : crates.SignerLaws) (payer mint : Keypair)
    (owner : Pubkey) (decimals : UInt8) :
    Faults crates request (fun _ => True) past Proper.Anything
      (Rpcnb.createAndInitMint crates rClient payer mint owner decimals) := by
  refine .all ?_ (Rpcnb.createAndInitMint_signs laws payer mint owner decimals).never
  apply Faults.locked
  intro _
  apply Fallible.Blames.bind
    (Faults.rpcTry fun answer => not_fatal_rent (fun lists => absurd lists unlisted) answer)
  intro funded lamports _ _
  apply Fallible.Blames.bind (Faults.tryForeign _)
  intro built instruction _ _
  apply signed_faults unsimulated
  intro later txn _
  exact (Rpcnb.sendTxn_faults txn false).mono fun _ _ _ _ _ => trivial

theorem Util.initializeTokenAccount_faults (laws : crates.SignerLaws)
    (keypairs : crates.KeypairLaws) (mint : Pubkey) (owner : Keypair) :
    Faults crates request (fun _ => True) past Proper.Anything
      (Util.initializeTokenAccount crates rClient mint owner) := by
  refine .all ?_ (Util.initializeTokenAccount_signs laws keypairs mint owner).never
  apply Fallible.Blames.bind Faults.generateKeypair
  intro opened key _ _
  apply Fallible.Blames.bind (Rpcnb.getMinimumBalanceForRentExemption_faults
    fun lists => absurd lists unlisted)
  intro funded lamports _ _
  apply Fallible.Blames.bind (Faults.tryForeign _)
  intro built instruction _ _
  apply Fallible.Blames.bind (Util.copied_faults keypairs owner)
  intro copied copy _ _
  apply signed_faults unsimulated
  intro signed txn _
  apply Fallible.Blames.bind (Util.sendTxn_faults txn false)
  exact fun _ _ _ _ => .pure trivial

theorem Util.createAccount_faults (laws : crates.SignerLaws) (mint owner : Pubkey)
    (payer : Keypair) :
    Faults crates request (fun _ => True) past Proper.Anything
      (Util.createAccount crates rClient mint owner payer) := by
  refine .all ?_ (Util.createAccount_signs laws mint owner payer).never
  apply Fallible.Blames.bind Faults.generateKeypair
  intro opened key _ _
  apply Fallible.Blames.bind (Rpcnb.getMinimumBalanceForRentExemption_faults
    fun lists => absurd lists unlisted)
  intro funded lamports _ _
  apply Fallible.Blames.bind (Faults.tryForeign _)
  intro built instruction _ _
  apply signed_faults unsimulated
  intro signed txn _
  apply Fallible.Blames.bind (Rpcnb.sendTxn_faults txn false)
  exact fun _ _ _ _ => .pure trivial

omit unlisted in
theorem Util.mintToExistingAccount_faults (laws : crates.SignerLaws)
    (keypairs : crates.KeypairLaws) (payer mintingKey : Keypair) (mint recipient : Pubkey)
    (quantity : UInt64) :
    Faults crates request (fun _ => True) past Proper.Anything
      (Util.mintToExistingAccount crates rClient payer mintingKey mint recipient quantity) := by
  refine .all ?_ (Util.mintToExistingAccount_signs laws keypairs payer mintingKey mint recipient
    quantity).never
  apply Fallible.Blames.bind (Util.copied_faults keypairs payer)
  intro copied payer1 _ _
  apply Fallible.Blames.bind (Util.copied_faults keypairs mintingKey)
  intro copiedBoth mintingKey1 _ _
  apply Fallible.Blames.bind (Faults.tryForeign _)
  intro built instruction _ _
  apply signed_faults unsimulated
  intro signed txn _
  apply Fallible.Blames.bind (Util.sendTxn_faults txn false)
  exact fun _ _ _ _ => .pure trivial

end Tokens

section Batches

namespace Broadcast

theorem ensureSent_faults (entry : Nat) (sr : SendResult) :
    Faults crates request (fun _ => True) past Proper.Anything (ensureSent entry sr) := by
  unfold ensureSent
  split
  · exact .pure trivial
  · apply Faults.locked
    intro _
    apply Fallible.Blames.bind (Faults.sendTransactionWithConfig (some entry) sr.tx _)
    intro later result _ _
    split
    · exact .throw _
    · exact .pure fun _ => trivial

theorem ensureConfirmed_faults (entry confirmedTxCount : Nat) (sr : SendResult) :
    Faults crates request (fun _ => True) past Proper.Anything
      (ensureConfirmed entry sr confirmedTxCount) := by
  unfold ensureConfirmed
  split
  · exact .pure trivial
  · apply Faults.locked
    intro _
    apply Fallible.Blames.bind (Faults.perform (.sendWireTransaction ..) trivial)
    intro later sent _ _
    split
    · apply Fallible.Blames.bind (Faults.perform (.sleep 10) trivial)
      intro slept _ _ _
      apply Faults.locked
      intro _
      split
      · apply Fallible.Blames.bind
          (Faults.perform (.rpc (.confirmTransactionWithCommitment ..)) trivial)
        intro checked reply _ _
        split
        · exact .throw _
        · split
          · exact .pure fun _ _ => trivial
          · exact .pure fun _ _ => trivial
      · exact .throw _
    · exact .throw _

theorem sendPass_faults (sigList : List SendResult) (entry confirmedTxCount : Nat) :
    Faults crates request (fun _ => True) past Proper.Anything
      (sendPass entry sigList confirmedTxCount) := by
  induction sigList generalizing past entry confirmedTxCount with
  | nil => exact .pure trivial
  | cons sr sigList ih =>
      have visit : Faults crates request (fun _ => True) past Proper.Anything
          (visit entry sr confirmedTxCount) := by
        apply Fallible.Blames.bind (ensureSent_faults entry sr)
        exact fun _ sent _ _ => ensureConfirmed_faults entry confirmedTxCount sent
      apply Fallible.Blames.bind visit
      intro visited passed _ _
      apply Fallible.Blames.bind (ih (entry + 1) passed.2)
      exact fun _ _ _ _ => .pure trivial

theorem sendLoop_faults (passes : Nat) (sigList : List SendResult) (confirmedTxCount : Nat) :
    Faults crates request (fun _ => True) past Proper.Anything
      (sendLoop crates passes sigList confirmedTxCount) := by
  induction passes generalizing past sigList confirmedTxCount with
  | zero => exact .pure trivial
  | succ passes ih =>
      apply Fallible.Blames.bind (Faults.perform (.elapsedSecs) trivial)
      intro timed elapsed _ _
      split
      · apply Fallible.Blames.bind (sendPass_faults sigList 0 confirmedTxCount)
        exact fun _ passed _ _ => ih passed.1 passed.2
      · exact .pure trivial

end Broadcast

end Batches

namespace SerumClient

section Reading

/-- What is asked for is not the account of a market that has to be looked up. -/
theorem not_brokenMarket_of_resolves {programId address : Pubkey} {market : MarketSource}
    {act : MarketAct} {keys : MarketPubkeys} {data : Buffer}
    (isIntent : request.intent crates = some (.trade programId market act))
    (resolves : market.Resolves crates past programId keys) :
    ¬ BrokenMarket crates request past address data := by
  rintro ⟨program, -, named, first, -⟩
  rw [Request.marketAddress_of_intent isIntent] at named
  cases market with
  | keys given => cases named
  | account market =>
      obtain ⟨accountData, isEvent, -⟩ := resolves
      exact first _ isEvent ⟨market, rfl⟩

theorem not_brokenQueue_of_first {address : Pubkey} {data : Buffer}
    (named : request.marketAddress = some address) (first : ∀ event ∈ past, ¬ LooksUp event) :
    ¬ BrokenQueue crates request past address data := by
  rintro ⟨programId, market, payer, coinWallet, pcWallet, keys, isIntent, resolves, -⟩
  rw [Request.marketAddress_of_intent isIntent] at named
  cases market with
  | keys given => cases named
  | account market =>
      obtain ⟨accountData, isEvent, -⟩ := resolves
      exact first _ isEvent ⟨market, rfl⟩

/-- What becomes of the reply when the account of a market is looked up. -/
def decodeReply (crates : Crates) (programId market : Pubkey) :
    Except ForeignError Buffer → Outcome AnyError MarketPubkeys
  | .ok accountData => decodeMarketKeys crates programId market accountData
  | .error e => .err (.message e.display)

/-- The first account that is looked up is the market. -/
theorem getKeysForMarket_faults {programId market : Pubkey}
    (isProgram : request.dexProgram = some programId)
    (named : request.marketAddress = some market) (first : ∀ event ∈ past, ¬ LooksUp event) :
    Faults crates request (fun _ => True) past
      (fun later keys => ReadFrom crates later programId market keys)
      (getKeysForMarket crates .dexRpc programId market) := by
  apply Faults.locked
  intro answer
  have firstHere : ∀ event ∈ (⟨ServiceOp.lock .dexRpc, answer⟩ :: past : List ServiceEvent),
      ¬ LooksUp event := by
    rintro event (_ | ⟨_, isEvent⟩)
    · exact nofun
    · exact first event isEvent
  apply Fallible.Blames.checked (decodeReply crates programId market)
  · intro reply
    cases reply with
    | ok accountData => rfl
    | error e => rfl
  · intro reply
    cases reply with
    | error e => exact Iff.rfl
    | ok data =>
        rw [Outcome.panicsWith_true]
        apply (decodeMarketKeys_panics_iff data).trans
        constructor
        · exact fun broken => .inl ⟨programId, isProgram, named, firstHere, broken⟩
        · rintro (⟨program, isProgram', -, -, broken⟩ | broken)
          · cases isProgram.symm.trans isProgram'
            exact broken
          · exact absurd broken (not_brokenQueue_of_first named firstHere)
  · intro reply keys decoded _
    cases reply with
    | error e => cases decoded
    | ok data => exact ⟨data, List.mem_cons_of_mem _ List.mem_cons_self, decoded⟩

/-- The market is resolved, and its event queue is looked up. -/
theorem consumeEventsInstruction_faults (laws : crates.RecordLaws) {programId : Pubkey}
    {market : MarketSource} {payer : Keypair} {keys : MarketPubkeys} {coinWallet pcWallet : Pubkey}
    (isIntent : request.intent crates =
      some (.trade programId market (.consume payer coinWallet pcWallet)))
    (resolves : market.Resolves crates past programId keys) :
    Faults crates request (¬ IsSignFailure ·) past Proper.Anything
      (consumeEventsInstruction crates .dexRpc programId keys coinWallet pcWallet) := by
  intro harmless lockAnswer
  refine ⟨trivial, ?_⟩
  intro reply
  refine ⟨trivial, ?_⟩
  have locked : Harmless (Fatal crates request)
      (⟨ServiceOp.lock .dexRpc, lockAnswer⟩ :: past : List ServiceEvent) :=
    ⟨not_fatal_of_routine (.lock .dexRpc) trivial _, harmless⟩
  cases reply with
  | error e =>
      intro unlockAnswer
      refine ⟨trivial, iff_of_false id (not_not.mpr ?_), nofun⟩
      exact ⟨not_fatal_of_routine (.unlock .dexRpc) trivial _, id, locked⟩
  | ok data =>
      intro unlockAnswer
      refine ⟨trivial, ?_, fun _ _ => trivial⟩
      have ends : Ends True (fun _ => True)
          (decodeCrankInstruction crates programId keys coinWallet pcWallet data) := by
        apply Ends.bind (removeDexAccountPadding_ends data)
        intro inner _
        exact .bind (parseEventQueue_ends _) fun parsed _ => trivial
      have broken : (decodeCrankInstruction crates programId keys coinWallet pcWallet data).Panics ↔
          ¬ QueueInRange crates data :=
        decodeQueue_panics_iff (fun parsed =>
          crankInstruction crates programId keys coinWallet pcWallet parsed.2.1 parsed.2.2) laws
      apply ends.panicsWith.trans (broken.trans _)
      have resolvesHere : market.Resolves crates
          (⟨ServiceOp.lock .dexRpc, lockAnswer⟩ :: past : List ServiceEvent) programId keys :=
        resolves.grow (List.subset_cons_self _ _)
      constructor
      · intro outOfRange harmlessNow
        exact harmlessNow.2.1 (.inr ⟨programId, market, payer, coinWallet, pcWallet, keys,
          isIntent, resolvesHere, rfl, outOfRange⟩)
      · intro harmful inRange
        refine harmful ⟨id, ?_, locked⟩
        rintro (brokenMarket | ⟨_, _, _, _, _, _, _, _, _, outOfRange⟩)
        · exact not_brokenMarket_of_resolves isIntent resolvesHere brokenMarket
        · exact outOfRange inRange

theorem consumeEvents_faults (laws : crates.RecordLaws) {programId : Pubkey}
    {market : MarketSource} {payer : Keypair} {keys : MarketPubkeys} {coinWallet pcWallet : Pubkey}
    (unsimulated : ¬ request.Simulates)
    (isIntent : request.intent crates =
      some (.trade programId market (.consume payer coinWallet pcWallet)))
    (resolves : market.Resolves crates past programId keys) :
    Faults crates request (fun _ => True) past Proper.Anything
      (consumeEvents crates .dexRpc programId payer keys coinWallet pcWallet) := by
  refine .all ?_ (consumeEvents_signs programId payer keys coinWallet pcWallet).never
  apply Fallible.Blames.bind (consumeEventsInstruction_faults laws isIntent resolves)
  intro later crank _ _
  cases crank with
  | none => exact .throw _
  | some instruction =>
      apply signed_faults unsimulated
      exact fun _ txn _ => serialize_faults

end Reading

section Simulating

/-- What is signed for simulation is fatal if it cannot be serialized. -/
theorem sign_fatal_iff {hashed earlier : List ServiceEvent} {instructions : List Instruction}
    {payer : Option Pubkey} {signers : List Pubkey} {recentHash : Hash}
    (simulates : request.Simulates)
    (isHashed : hashed =
      ⟨.unlock .dexRpc, ()⟩ :: ⟨.rpc .getLatestBlockhash, .ok recentHash⟩ :: earlier)
    (signature : Signature) :
    Fatal crates request hashed ⟨.sign instructions payer signers, signature⟩ ↔
      ∃ error, crates.serialize (.signed instructions payer signers recentHash signature) =
        .error error := by
  constructor
  · rintro ⟨-, hash, before, error, isHash, fails⟩
    rw [isHashed] at isHash
    cases isHash
    exact ⟨error, fails⟩
  · rintro ⟨error, fails⟩
    exact ⟨simulates, recentHash, earlier, error, isHashed, fails⟩

/-- Whatever the node answers to a simulation, nothing is fatal. -/
theorem simulation_faults (encoded : List UInt8) (cfg : CommitmentLevel) :
    Faults crates request (fun _ => True) past Proper.Anything (locked .dexRpc do
      let result ← rpcTry (.simulateTransaction encoded true cfg)
      pure result.err) := by
  apply Faults.locked
  intro _
  apply Fallible.Blames.bind (Faults.rpcTry
    (not_fatal_of_routine (.rpc (.simulateTransaction ..)) trivial))
  exact fun _ _ _ _ => .pure fun _ => trivial

/-- The common end of the builders that simulate: only a transaction that cannot be
serialized is fatal. -/
theorem simulated_faults {instructions : List Instruction} {payer : Option Pubkey}
    {signers : List Keypair} {cfg : CommitmentLevel} {next : Transaction → Svc AnyError α}
    (simulates : request.Simulates)
    (exactly : ExactSigners instructions payer (signers.map Keypair.pubkey))
    (rest : ∀ later txn, Faults crates request (fun _ => True) later returns (next txn)) :
    Faults crates request (fun _ => True) past returns (do
      let recentHash ← Rpcnb.getLatestBlockhash .dexRpc
      let txn ← newSignedWithPayer instructions payer signers recentHash
      let result ← Rpcnb.simulateTransaction crates .dexRpc txn true cfg
      failOnSimulationError result
      next txn) := by
  simp only [newSignedWithPayer_of_exactSigners exactly]
  apply Fallible.Blames.bind Faults.getLatestBlockhash
  intro hashed recentHash _ isHashed harmless (signature : Signature)
  refine ⟨trivial, ?_⟩
  obtain ⟨txn, isTxn⟩ : ∃ txn, txn =
    Transaction.signed instructions payer (signers.map Keypair.pubkey) recentHash signature :=
      ⟨_, rfl⟩
  have signsAs : Fatal crates request hashed
      ⟨.sign instructions payer (signers.map Keypair.pubkey), signature⟩ ↔ ∃ error,
        crates.serialize txn = .error error := by
    rw [isTxn]
    exact sign_fatal_iff simulates isHashed signature
  change Prog.Keeps _ _ _ (Rpcnb.simulateTransaction crates .dexRpc (.signed instructions payer
    (signers.map Keypair.pubkey) recentHash signature) true cfg >>= fun result =>
      failOnSimulationError result >>= fun _ => next (.signed instructions payer
        (signers.map Keypair.pubkey) recentHash signature) : Svc AnyError α)
  rw [← isTxn]
  unfold Rpcnb.simulateTransaction
  cases serializes : crates.serialize txn with
  | error e =>
      have isFatal := signsAs.mpr ⟨e, serializes⟩
      exact ⟨iff_of_true trivial fun harmlessNow => harmlessNow.1 isFatal, nofun⟩
  | ok encoded =>
      have spared : ¬ Fatal crates request hashed
          ⟨.sign instructions payer (signers.map Keypair.pubkey), signature⟩ := by
        rw [signsAs, serializes]
        rintro ⟨_, ⟨⟩⟩
      have goesOn : Faults crates request (fun _ => True)
          (⟨.sign instructions payer (signers.map Keypair.pubkey), signature⟩ :: hashed) returns
          (do
            let result ← locked .dexRpc do
              let result ← rpcTry (.simulateTransaction encoded true cfg)
              pure result.err
            failOnSimulationError result
            next txn : Svc AnyError α) := by
        apply Fallible.Blames.bind (simulation_faults encoded cfg)
        intro simulated result _ _
        apply Fallible.Blames.bind (failOnSimulationError_faults result)
        exact fun _ _ _ _ => rest _ _
      exact goesOn ⟨spared, harmless⟩

variable (simulates : request.Simulates)

include simulates

theorem cancelOrderByClientOrderId_faults (laws : crates.SignerLaws) (programId : Pubkey)
    (owner : Keypair) (state : MarketPubkeys) (orders : Pubkey) (clientOrderId : UInt64) :
    Faults crates request (fun _ => True) past Proper.Anything
      (cancelOrderByClientOrderId crates .dexRpc programId owner state orders clientOrderId) := by
  apply Fallible.Blames.bind (Faults.tryForeign _)
  intro made ix _ holds
  apply simulated_faults simulates
  · apply exactSigners_payer
    intro key marked
    exact (laws.cancelOrder _ _ _ _ _ _ _ _ _ holds.2 key).mp marked
  · exact fun later txn => serialize_faults

theorem closeOpenOrders_faults (laws : crates.SignerLaws) (programId : Pubkey)
    (owner : Keypair) (state : MarketPubkeys) (orders : Pubkey) :
    Faults crates request (fun _ => True) past Proper.Anything
      (closeOpenOrders crates .dexRpc programId owner state orders) := by
  apply Fallible.Blames.bind (Faults.tryForeign _)
  intro made ix _ holds
  apply simulated_faults simulates
  · apply exactSigners_payer
    intro key marked
    exact (laws.closeOpenOrders _ _ _ _ _ _ holds.2 key).mp marked
  · intro later txn
    split
    · exact .pure trivial
    · exact .throw _

theorem settleFunds_faults (programId : Pubkey) (payer : Keypair) (state : MarketPubkeys)
    (signer : Option Keypair) (orders coinWallet pcWallet : Pubkey) :
    Faults crates request (fun _ => True) past Proper.Anything
      (settleFunds crates .dexRpc programId payer state signer orders coinWallet pcWallet) := by
  apply simulated_faults simulates
  · intro key
    change key ∈ (payer :: signer.toList).map Keypair.pubkey ↔
      key ∈ [payer.pubkey, (signer.getD payer).pubkey]
    cases signer with
    | none => simp
    | some signer => simp
  · exact fun later txn => serialized_faults txn

theorem matchOrders_faults (programId : Pubkey) (payer : Keypair) (state : MarketPubkeys)
    (coinWallet pcWallet : Pubkey) :
    Faults crates request (fun _ => True) past Proper.Anything
      (matchOrders crates .dexRpc programId payer state coinWallet pcWallet) :=
  simulated_faults simulates (exactSigners_payer nofun) fun _ txn => serialized_faults txn

end Simulating

section Opening

/-- One more key pair is generated; the rent may be fatal for the fifth only. -/
theorem createDexAccount_faults {programId payer : Pubkey} {unpaddedLen : Nat}
    (other : request.Lists → (generatedKeys past).length + 1 ≠ 5) :
    Faults crates request kind past
      (fun later made => generatedKeys later = made.1 :: generatedKeys past)
      (createDexAccount crates rClient programId payer unpaddedLen) := by
  apply Fallible.Blames.bind Faults.generateKeypair
  intro opened key _ isOpened
  have otherHere : request.Lists → (generatedKeys opened).length ≠ 5 := by
    rw [isOpened]
    exact other
  apply Fallible.Blames.bind (Rpcnb.getMinimumBalanceForRentExemption_faults otherHere)
  intro funded lamports _ isFunded
  apply Fallible.Blames.pure
  rw [isFunded, isOpened]
  rfl

variable (unlisted : ¬ request.Lists) (unsimulated : ¬ request.Simulates)

include unlisted

theorem ordersOrNew_faults (programId payer : Pubkey) :
    InOut.Blames (σ := Option Pubkey) kind (Fatal crates request) past Proper.Anything
      (ordersOrNew crates rClient programId payer) := by
  apply InOut.Blames.bind .read
  intro later orders _ _
  cases orders with
  | some pk => exact .pure trivial
  | none =>
      apply InOut.Blames.bind (.lift (createDexAccount_faults fun lists => absurd lists unlisted))
      exact fun _ _ _ _ => .pure trivial

include unsimulated

theorem initOpenOrders_faults (laws : crates.SignerLaws) (programId : Pubkey) (owner : Keypair)
    (state : MarketPubkeys) (slot : Option Pubkey) :
    Faults crates request (fun _ => True) past Proper.Anything
      ((initOpenOrders crates rClient programId owner state).call slot) := by
  refine .all ?_ (initOpenOrders_signs laws programId owner state slot).never
  refine InOut.Blames.call ?_ slot
  apply InOut.Blames.bind (ordersOrNew_faults unlisted programId owner.pubkey)
  intro opened orders _ _
  apply InOut.Blames.bind (.assign _)
  intro assigned _ _ _
  apply InOut.Blames.bind (.lift (Faults.tryForeign _))
  intro made instruction _ _
  apply InOut.Blames.bind (.lift Faults.getLatestBlockhash)
  intro hashed recentHash _ _
  apply InOut.Blames.bind (.lift (Faults.newSignedWithPayer unsimulated))
  exact fun _ _ _ _ => .lift serialize_faults

theorem placeOrder_faults (laws : crates.SignerLaws) (programId : Pubkey) (payer : Keypair)
    (wallet : Pubkey) (state : MarketPubkeys) (newOrder : NewOrderInstructionV3)
    (slot : Option Pubkey) :
    Faults crates request (fun _ => True) past Proper.Anything
      ((placeOrder crates rClient programId payer wallet state newOrder).call slot) := by
  refine .all ?_ (placeOrder_signs laws programId payer wallet state newOrder slot).never
  refine InOut.Blames.call ?_ slot
  apply InOut.Blames.bind (ordersOrNew_faults unlisted programId payer.pubkey)
  intro opened orders _ _
  apply InOut.Blames.bind (.assign _)
  intro assigned _ _ _
  apply InOut.Blames.bind (.lift Faults.getLatestBlockhash)
  intro hashed recentHash _ _
  apply InOut.Blames.bind (.lift (Faults.newSignedWithPayer unsimulated))
  exact fun _ txn _ _ => .lift (serialized_faults txn)

end Opening

section Listing

/-- The search panics when no nonce that is left gives a vault signer. -/
theorem findVaultSigner_panics_iff {market programId : Pubkey} {remaining : Nat} {start : UInt64}
    (noOverflow : start.toNat + remaining < 2 ^ 64) :
    (findVaultSigner crates market programId remaining start).Panics ↔
      ∀ nonce : UInt64, start ≤ nonce → nonce.toNat < start.toNat + remaining →
        ∀ vaultSigner, crates.genVaultSignerKey nonce market programId ≠ .ok vaultSigner := by
  induction remaining generalizing start with
  | zero =>
      apply iff_of_true trivial
      intro nonce notBelow below
      have := UInt64.le_iff_toNat_le.mp notBelow
      omega
  | succ remaining ih =>
      have next : (start + 1).toNat = start.toNat + 1 := by
        rw [UInt64.toNat_add]
        exact Nat.mod_eq_of_lt (by simpa using by omega)
      unfold findVaultSigner
      cases derived : crates.genVaultSignerKey start market programId with
      | ok key =>
          apply iff_of_false id
          intro none
          exact none start (UInt64.le_refl _) (by omega) key derived
      | error error =>
          apply (ih (by omega)).trans
          rw [next]
          constructor
          · intro none nonce notBelow below
            by_cases isStart : nonce = start
            · subst isStart
              simp [derived]
            · have differs : nonce.toNat ≠ start.toNat := fun same =>
                isStart (UInt64.toNat_inj.mp same)
              have := UInt64.le_iff_toNat_le.mp notBelow
              exact none nonce (UInt64.le_iff_toNat_le.mpr (by omega)) (by omega)
          · intro none nonce above below
            have := UInt64.le_iff_toNat_le.mp above
            exact none nonce (UInt64.le_iff_toNat_le.mpr (by omega)) (by omega)

theorem findVaultSigner_all_panics_iff {market programId : Pubkey} :
    (findVaultSigner crates market programId 100 0).Panics ↔
      ∀ nonce < 100, ∀ vaultSigner,
        crates.genVaultSignerKey nonce market programId ≠ .ok vaultSigner := by
  apply (findVaultSigner_panics_iff (by decide)).trans
  constructor
  · intro none nonce small
    have below := UInt64.lt_iff_toNat_lt.mp small
    exact none nonce (UInt64.le_iff_toNat_le.mpr (Nat.zero_le _)) (by simpa using below)
  · intro none nonce _ small
    exact none nonce (UInt64.lt_iff_toNat_lt.mpr (by simpa using small))

/-- The rent of the fifth account is fatal if no vault signer is found. -/
theorem lastRent_fatal_iff {programId : Pubkey} {market : Keypair} {keys : List Keypair}
    (lists : request.Lists) (isProgram : request.dexProgram = some programId)
    (isPast : generatedKeys past = keys ++ [market]) (isLast : keys.length = 4) (size : Nat)
    (lamports : UInt64) :
    Fatal crates request past ⟨.rpc (.getMinimumBalanceForRentExemption size), .ok lamports⟩ ↔
      (findVaultSigner crates market.pubkey programId 100 0).Panics := by
  rw [findVaultSigner_all_panics_iff]
  constructor
  · rintro ⟨-, -, program, first, isProgram', isFirst, none⟩
    cases isProgram.symm.trans isProgram'
    rw [isPast, List.getLast?_concat] at isFirst
    cases isFirst
    exact none
  · intro none
    refine ⟨lists, ?_, programId, market, isProgram, ?_, none⟩
    · rw [isPast]
      simp [isLast]
    · rw [isPast, List.getLast?_concat]

/-- The last account of a market is prepared, and then the vault signer is searched. -/
theorem lastAccount_faults {programId payer : Pubkey} {market : Keypair} {others : List Keypair}
    {unpaddedLen : Nat} {finish : Keypair × Instruction → UInt64 × Pubkey → α}
    (lists : request.Lists) (isProgram : request.dexProgram = some programId)
    (isPast : generatedKeys past = others ++ [market]) (isLast : others.length = 3) :
    Faults crates request (¬ IsSignFailure ·) past
      (fun later _ => 5 ≤ (generatedKeys later).length) (do
        let made ← createDexAccount crates .dexRpc programId payer unpaddedLen
        let found ← Fallible.lift (findVaultSigner crates market.pubkey programId 100 0)
        pure (finish made found) : Svc AnyError α) := by
  intro harmless (key : Keypair)
  refine ⟨trivial, ?_⟩
  intro lockAnswer
  refine ⟨trivial, ?_⟩
  intro reply
  refine ⟨trivial, ?_⟩
  cases reply with
  | error e =>
      intro unlockAnswer
      exact ⟨trivial, iff_of_false id (not_not.mpr ⟨id, id, id, id, harmless⟩), nofun⟩
  | ok lamports =>
      intro unlockAnswer
      refine ⟨trivial, ?_⟩
      have generated : generatedKeys (⟨ServiceOp.lock .dexRpc, lockAnswer⟩ ::
          ⟨.generateKeypair, key⟩ :: past : List ServiceEvent) = key :: others ++ [market] :=
        congrArg (key :: ·) isPast
      have signerless : Fatal crates request
          (⟨ServiceOp.lock .dexRpc, lockAnswer⟩ :: ⟨.generateKeypair, key⟩ :: past)
          ⟨.rpc (.getMinimumBalanceForRentExemption (unpaddedLen + 12)), .ok lamports⟩ ↔
            (findVaultSigner crates market.pubkey programId 100 0).Panics :=
        lastRent_fatal_iff lists isProgram generated (by simp [isLast]) _ lamports
      have ends : Ends True (fun _ => True)
          (findVaultSigner crates market.pubkey programId 100 0) := findVaultSigner_ends _ _ _ _
      have blamed : (findVaultSigner crates market.pubkey programId 100 0).PanicsWith
          (¬ IsSignFailure ·) ↔ ¬ Harmless (Fatal crates request)
            (⟨service.unlock .dexRpc, unlockAnswer⟩ ::
              ⟨ServiceOp.rpc (.getMinimumBalanceForRentExemption (unpaddedLen + 12)),
                .ok lamports⟩ ::
              ⟨service.lock .dexRpc, lockAnswer⟩ :: ⟨.generateKeypair, key⟩ :: past) := by
        rw [ends.panicsWith, ← signerless]
        constructor
        · exact fun isFatal harmlessNow => harmlessNow.2.1 isFatal
        · intro harmful
          by_contra spared
          exact harmful ⟨id, spared, id, id, harmless⟩
      have five : 5 ≤ (generatedKeys (⟨ServiceOp.lock .dexRpc, lockAnswer⟩ ::
          ⟨.generateKeypair, key⟩ :: past : List ServiceEvent)).length := by
        rw [generated]
        simp [isLast]
      change Prog.Keeps _ _ _ (Fallible.lift (findVaultSigner crates market.pubkey programId 100 0)
        >>= fun found => pure (finish (key, crates.createAccount payer key.pubkey lamports
          (UInt64.ofNat (unpaddedLen + 12)) programId) found) : Svc AnyError α)
      cases found : findVaultSigner crates market.pubkey programId 100 0 with
      | ok value =>
          rw [found] at blamed
          exact ⟨blamed, fun _ _ => five⟩
      | err error =>
          rw [found] at blamed
          exact ⟨blamed, nofun⟩
      | panic message =>
          rw [found] at blamed
          exact ⟨blamed, nofun⟩

/-- Five key pairs are generated for a market before its vault signer is searched. -/
theorem genListingParams_faults {programId payer : Pubkey} (lists : request.Lists)
    (isProgram : request.dexProgram = some programId) (isPast : generatedKeys past = []) :
    Faults crates request (¬ IsSignFailure ·) past
      (fun later _ => 5 ≤ (generatedKeys later).length)
      (genListingParams crates .dexRpc programId payer) := by
  apply Fallible.Blames.bind (createDexAccount_faults (by simp [isPast]))
  intro pastMarket market _ isMarket
  rw [isPast] at isMarket
  apply Fallible.Blames.bind (createDexAccount_faults (by simp [isMarket]))
  intro pastReqQ reqQ _ isReqQ
  rw [isMarket] at isReqQ
  apply Fallible.Blames.bind (createDexAccount_faults (by simp [isReqQ]))
  intro pastEventQ eventQ _ isEventQ
  rw [isReqQ] at isEventQ
  apply Fallible.Blames.bind (createDexAccount_faults (by simp [isEventQ]))
  intro pastBids bids _ isBids
  rw [isEventQ] at isBids
  have isPastBids : generatedKeys pastBids = [bids.1, eventQ.1, reqQ.1] ++ [market.1] := isBids
  exact lastAccount_faults lists isProgram isPastBids rfl

end Listing

end SerumClient

section Vaults

/-- No rent is fatal once the accounts of the market are prepared. -/
theorem Rpcnb.createTokenAccount_faults (unsimulated : ¬ request.Simulates)
    {mint owner : Pubkey} {payer : Keypair} (five : 5 ≤ (generatedKeys past).length) :
    Faults crates request (¬ IsSignFailure ·) past
      (fun later _ => 5 ≤ (generatedKeys later).length)
      (Rpcnb.createTokenAccount crates rClient mint owner payer) := by
  have creates : Faults crates request (¬ IsSignFailure ·) past Proper.Anything
      (Rpcnb.createTokenAccount crates rClient mint owner payer) := by
    apply Fallible.Blames.bind Faults.generateKeypair
    intro opened key _ isOpened
    have six : (generatedKeys opened).length ≠ 5 := by
      rw [isOpened]
      exact Nat.ne_of_gt (Nat.lt_succ_of_le five)
    have prepares : Faults crates request (¬ IsSignFailure ·) opened Proper.Anything
        (Rpcnb.createTokenAccountInstructions crates rClient key.pubkey mint owner payer) := by
      apply Faults.locked
      intro lockAnswer
      have sixHere : (generatedKeys
          (⟨ServiceOp.lock rClient, lockAnswer⟩ :: opened : List ServiceEvent)).length ≠ 5 := six
      apply Fallible.Blames.bind
        (Faults.rpcTry fun answer => not_fatal_rent (fun _ => sixHere) answer)
      intro funded lamports _ _
      apply Fallible.Blames.bind (Faults.tryForeign _)
      exact fun _ _ _ _ => .pure fun _ => trivial
    apply Fallible.Blames.bind prepares
    intro prepared instructions _ _
    apply signed_faults unsimulated
    intro signed txn _
    apply Fallible.Blames.bind (Rpcnb.sendTxn_faults txn false)
    exact fun _ _ _ _ => .pure trivial
  apply creates.mono
  intro later _ grown _
  exact five.trans (grown.filterMap _).length_le

theorem SerumClient.listMarket_faults (laws : crates.SignerLaws) {programId : Pubkey}
    {payer : Keypair} {coinMint pcMint : Pubkey} {coinLotSize pcLotSize : UInt64}
    (lists : request.Lists) (unsimulated : ¬ request.Simulates)
    (isProgram : request.dexProgram = some programId) (isPast : generatedKeys past = []) :
    Faults crates request (fun _ => True) past Proper.Anything
      (SerumClient.listMarket crates .dexRpc programId payer coinMint pcMint coinLotSize
        pcLotSize) := by
  refine .all ?_ (SerumClient.listMarket_signs laws programId payer coinMint pcMint coinLotSize
    pcLotSize).never
  apply Fallible.Blames.bind (SerumClient.genListingParams_faults lists isProgram isPast)
  intro pastListing listing _ five
  apply Fallible.Blames.bind (Rpcnb.createTokenAccount_faults unsimulated five)
  intro pastCoin coinVault _ fiveCoin
  apply Fallible.Blames.bind (Rpcnb.createTokenAccount_faults unsimulated fiveCoin)
  intro pastPc pcVault _ _
  apply Fallible.Blames.bind (Faults.tryForeign _)
  intro made instruction _ _
  apply signed_faults unsimulated
  intro signed txn _
  apply Fallible.Blames.bind (Faults.tryForeign _)
  exact fun _ _ _ _ => .pure trivial

end Vaults

end RustHelper
