import RustHelper.RequestIntents

/-!
# What the builders sign

Under a warrant that restricts little but signing, each builder signs only what serves,
and what it returns comes from a transaction that does.
-/

namespace RustHelper

open Effect

/-- The warrant restricts nothing but signing, and spawning the tasks of a stream. -/
def OnlySigning (warrant : List ServiceEvent → ServiceEvent → Prop) : Prop :=
  ∀ past (op : ServiceOp) (answer : op.Answer),
    (∀ instructions payer signers, op ≠ .sign instructions payer signers) →
      (∀ side target, op ≠ .spawnMonitor side target) → warrant past ⟨op, answer⟩

/-- Besides, the warrant lets the instructions be signed that serve, by whomever. -/
structure Serving (warrant : List ServiceEvent → ServiceEvent → Prop)
    (serves : List ServiceEvent → List Instruction → Prop) : Prop where
  only : OnlySigning warrant
  signs : ∀ past instructions, serves past instructions → ∀ payer signers signature,
    warrant past ⟨ServiceOp.sign instructions payer signers, signature⟩
  grow : ∀ past later instructions, past ⊆ later → serves past instructions →
    serves later instructions

variable {ε α : Type} {crates : Crates} {warrant : List ServiceEvent → ServiceEvent → Prop}
  {serves : List ServiceEvent → List Instruction → Prop} {past : List ServiceEvent}
  {rClient : ServiceMutex} {returns : List ServiceEvent → α → Prop}

/-- A transaction that serves was signed and confirmed. -/
def ServedIn (serves : List ServiceEvent → List Instruction → Prop) (past : List ServiceEvent) :
    Prop := ∃ tx, ConfirmedIn past tx ∧ serves past tx.instructions

/-- The bytes are those of a transaction that serves and was signed. -/
def HandsOver (crates : Crates) (serves : List ServiceEvent → List Instruction → Prop)
    (past : List ServiceEvent) (bytes : List UInt8) : Prop :=
  ∃ tx, crates.serialize tx = .ok bytes ∧ SignedIn past tx ∧ serves past tx.instructions

namespace OnlySigning

variable (only : OnlySigning warrant)

include only

theorem locked {body : Svc ε α} (inside : ∀ answer,
      Fallible.Justified warrant (⟨ServiceOp.lock rClient, answer⟩ :: past)
        (fun later value => ∀ answer, returns (⟨ServiceOp.unlock rClient, answer⟩ :: later) value)
        body) : Fallible.Justified warrant past returns (RustHelper.locked rClient body) :=
  Fallible.Justified.withGuard (L := service) (fun _ => only _ (.lock rClient) _ nofun nofun)
    (fun _ _ => only _ (.unlock rClient) _ nofun nofun) inside

theorem rpc (call : RpcCall) :
    Fallible.Justified warrant past (fun later reply => (⟨.rpc call, reply⟩ : ServiceEvent) ∈ later)
      (RustHelper.rpc call : Svc ε _) :=
  Fallible.Justified.perform (I := service.toInterface) fun _ => only _ (.rpc call) _ nofun nofun

theorem rpcTry (call : RpcCall) :
    Fallible.Justified warrant past
      (fun later reply => (⟨.rpc call, .ok reply⟩ : ServiceEvent) ∈ later)
      (RustHelper.rpcTry call) := by
  apply Fallible.Justified.bind (rpc only call)
  intro later reply _ isEvent
  apply Fallible.Justified.lift
  intro value isOk
  have same : reply = .ok value := Outcome.ofExcept_eq_ok_iff.mp isOk
  rwa [same] at isEvent

theorem locked_rpcTry (call : RpcCall) :
    Fallible.Justified warrant past
      (fun later reply => (⟨.rpc call, .ok reply⟩ : ServiceEvent) ∈ later)
      (RustHelper.locked rClient (RustHelper.rpcTry call)) := by
  apply locked only
  intro answer
  apply (rpcTry only call).mono
  intro later reply _ isEvent answer
  exact List.mem_cons_of_mem _ isEvent

theorem generateKeypair :
    Fallible.Justified warrant past
      (fun later key => (⟨.generateKeypair, key⟩ : ServiceEvent) ∈ later)
      (RustHelper.generateKeypair : Svc ε _) :=
  Fallible.Justified.perform (I := service.toInterface) fun _ =>
    only _ .generateKeypair _ nofun nofun

omit only in
theorem tryForeign (result : Except ForeignError α) :
    Fallible.Justified warrant past (fun _ value => result = .ok value)
      (RustHelper.tryForeign result) :=
  .lift fun _ isOk => Outcome.ofExcept_eq_ok_iff.mp isOk

omit only in
/-- Nothing is done, and nothing is said of the value. -/
theorem lift (outcome : Outcome ε α) :
    Fallible.Justified warrant past Proper.Anything (Fallible.lift outcome : Svc ε α) :=
  .lift fun _ _ => trivial

end OnlySigning

/-- Instructions that serve are signed, and what follows may use the transaction. -/
theorem Serving.signed {instructions : List Instruction} {payer : Pubkey}
    {signers : List Keypair} {next : Transaction → Svc AnyError α}
    (serving : Serving warrant serves) (asked : serves past instructions)
    (rest : ∀ later tx, past ⊆ later → SignedIn later tx → tx.instructions = instructions →
      Fallible.Justified warrant later returns (next tx)) :
    Fallible.Justified warrant past returns (do
      let recentHash ← Rpcnb.getLatestBlockhash rClient
      let txn ← newSignedWithPayer instructions (some payer) signers recentHash
      next txn) := by
  apply Fallible.Justified.bind (serving.only.locked_rpcTry .getLatestBlockhash)
  intro hashed recentHash grown answered
  have signs : Fallible.Justified warrant hashed
      (fun later tx => SignedIn later tx ∧ tx.instructions = instructions)
      (newSignedWithPayer instructions (some payer) signers recentHash : Svc AnyError _) := by
    apply Fallible.Justified.bind (Fallible.Justified.perform (I := service.toInterface)
      fun _ => serving.signs hashed _ (serving.grow _ _ _ grown asked) _ _ _)
    intro later signature grownMore isEvent
    split
    · exact .pure ⟨⟨⟨signature, isEvent, rfl⟩, grownMore answered⟩, rfl⟩
    · exact .lift nofun
  apply signs.bind
  intro later tx grownMore made
  exact rest later tx (List.Subset.trans grown grownMore) made.1 made.2

section Sending

variable (only : OnlySigning warrant)

include only

theorem Rpcnb.sendTxn_follows {tx : Transaction} (signed : SignedIn past tx) (simulate : Bool) :
    Fallible.Justified warrant past (fun later _ => ConfirmedIn later tx)
      (Rpcnb.sendTxn rClient tx simulate) := by
  apply (only.locked_rpcTry _).mono
  intro later signature grown isEvent
  exact ⟨signed.grow grown, signature, isEvent⟩

theorem Util.sendTxn_follows {tx : Transaction} (signed : SignedIn past tx) (simulate : Bool) :
    Fallible.Justified warrant past (fun later _ => ConfirmedIn later tx)
      (Util.sendTxn rClient tx simulate) := by
  apply Fallible.Justified.bind (Rpcnb.sendTxn_follows only signed simulate)
  intro sent sig _ confirmed
  apply only.locked
  intro answer
  apply Fallible.Justified.bind (only.rpcTry (.confirmTransaction sig))
  intro later known grown _
  split
  · apply Fallible.Justified.pure
    intro dropped
    apply confirmed.grow
    exact fun event isEvent =>
      List.mem_cons_of_mem _ (grown (List.mem_cons_of_mem _ isEvent))
  · exact .throw _

theorem Rpcnb.simulateTransaction_follows (tx : Transaction) (cfg : CommitmentLevel) :
    Fallible.Justified warrant past Proper.Anything
      (Rpcnb.simulateTransaction crates rClient tx true cfg) := by
  unfold Rpcnb.simulateTransaction
  split
  · exact OnlySigning.lift _
  · apply only.locked
    intro answer
    apply Fallible.Justified.bind (only.rpcTry _)
    exact fun _ _ _ _ => .pure fun _ => trivial

end Sending

section TokenAccounts

variable {payer : Keypair} {mint owner : Pubkey} (serving : Serving warrant serves)

/-- Whatever sets up a token account for the mint and the owner serves. -/
def ServesTokenAccount (crates : Crates)
    (serves : List ServiceEvent → List Instruction → Prop) (past : List ServiceEvent)
    (payer mint owner : Pubkey) : Prop :=
  ∀ later key instructions, past ⊆ later →
    SetsUpTokenAccount crates later payer mint owner key instructions → serves later instructions

include serving

/-- The common end of the functions that open a token account. -/
theorem initialised_follows {splAccount : Keypair} {signers : List Keypair}
    {instructions : List Instruction} {send : Transaction → Svc AnyError Signature}
    (sends : ∀ later tx, SignedIn later tx →
      Fallible.Justified warrant later (fun last _ => ConfirmedIn last tx) (send tx))
    (setsUp : SetsUpTokenAccount crates past payer.pubkey mint owner splAccount instructions)
    (asked : serves past instructions) :
    Fallible.Justified warrant past
      (fun later key => HasTokenAccount crates later payer.pubkey mint owner key) (do
        let recentHash ← Rpcnb.getLatestBlockhash rClient
        let txn ← newSignedWithPayer instructions (some payer.pubkey) signers recentHash
        let _ ← send txn
        pure splAccount) := by
  apply serving.signed asked
  intro signed tx grown isSigned same
  apply Fallible.Justified.bind (sends signed tx isSigned)
  intro later _ grownMore confirmed
  apply Fallible.Justified.pure
  refine ⟨tx, confirmed, ?_⟩
  rw [same]
  exact setsUp.grow (List.Subset.trans grown grownMore)

theorem Rpcnb.createTokenAccount_follows
    (asked : ServesTokenAccount crates serves past payer.pubkey mint owner) :
    Fallible.Justified warrant past
      (fun later key => HasTokenAccount crates later payer.pubkey mint owner key)
      (Rpcnb.createTokenAccount crates rClient mint owner payer) := by
  apply Fallible.Justified.bind serving.only.generateKeypair
  intro made splAccount grownMade generated
  have builds : Fallible.Justified warrant made
      (fun later instructions => SetsUpTokenAccount crates later payer.pubkey mint owner
        splAccount instructions)
      (Rpcnb.createTokenAccountInstructions crates rClient splAccount.pubkey mint owner payer) := by
    apply serving.only.locked
    intro answer
    apply Fallible.Justified.bind (serving.only.rpcTry (.getMinimumBalanceForRentExemption _))
    intro asked lamports grown funded
    apply Fallible.Justified.bind (OnlySigning.tryForeign _)
    intro later instruction grownMore built
    apply Fallible.Justified.pure
    intro dropped
    refine ⟨_, instruction, ⟨?_, lamports, ?_, rfl⟩, built, rfl⟩
    · exact List.mem_cons_of_mem _ (grownMore (grown (List.mem_cons_of_mem _ generated)))
    · exact List.mem_cons_of_mem _ (grownMore funded)
  apply builds.bind
  intro prepared instructions grown setsUp
  exact initialised_follows serving
    (fun _ _ isSigned => Rpcnb.sendTxn_follows serving.only isSigned false) setsUp
    (asked _ _ _ (List.Subset.trans grownMade grown) setsUp)

theorem Util.createAccount_follows
    (asked : ServesTokenAccount crates serves past payer.pubkey mint owner) :
    Fallible.Justified warrant past
      (fun later key => HasTokenAccount crates later payer.pubkey mint owner key)
      (Util.createAccount crates rClient mint owner payer) := by
  apply Fallible.Justified.bind serving.only.generateKeypair
  intro made splAccount grownMade generated
  apply Fallible.Justified.bind
    (serving.only.locked_rpcTry (.getMinimumBalanceForRentExemption crates.tokenAccountLen))
  intro rented lamports grownRented funded
  apply Fallible.Justified.bind (OnlySigning.tryForeign _)
  intro later instruction grown built
  have setsUp : SetsUpTokenAccount crates later payer.pubkey mint owner splAccount _ :=
    ⟨_, instruction, ⟨grown (grownRented generated), lamports, grown funded, rfl⟩, built, rfl⟩
  exact initialised_follows serving
    (fun _ _ isSigned => Rpcnb.sendTxn_follows serving.only isSigned false) setsUp
    (asked _ _ _ (List.Subset.trans grownMade (List.Subset.trans grownRented grown)) setsUp)

omit serving in
theorem Util.copied_follows (key : Keypair) :
    Fallible.Justified warrant past Proper.Anything (Util.copied crates key : Svc ε Keypair) := by
  unfold Util.copied
  split
  · exact .pure trivial
  · exact OnlySigning.lift _

theorem Util.initializeTokenAccount_follows
    (asked : ServesTokenAccount crates serves past payer.pubkey mint payer.pubkey) :
    Fallible.Justified warrant past
      (fun later key => HasTokenAccount crates later payer.pubkey mint payer.pubkey key)
      (Util.initializeTokenAccount crates rClient mint payer) := by
  apply Fallible.Justified.bind serving.only.generateKeypair
  intro made recipKeypair grownMade generated
  apply Fallible.Justified.bind
    (serving.only.locked_rpcTry (.getMinimumBalanceForRentExemption crates.tokenAccountLen))
  intro rented lamports grownRented funded
  apply Fallible.Justified.bind (OnlySigning.tryForeign _)
  intro prepared instruction grownBuilt built
  apply Fallible.Justified.bind (Util.copied_follows payer)
  intro later o1 grown _
  have setsUp : SetsUpTokenAccount crates later payer.pubkey mint payer.pubkey recipKeypair _ :=
    ⟨_, instruction, ⟨grown (grownBuilt (grownRented generated)), lamports,
      grown (grownBuilt funded), rfl⟩, built, rfl⟩
  exact initialised_follows serving
    (fun _ _ isSigned => Util.sendTxn_follows serving.only isSigned false) setsUp
    (asked _ _ _ (List.Subset.trans grownMade (List.Subset.trans grownRented
      (List.Subset.trans grownBuilt grown))) setsUp)

end TokenAccounts

section Mints

variable (serving : Serving warrant serves)

include serving

theorem Rpcnb.createAndInitMint_follows {payer mint : Keypair} {owner : Pubkey} {decimals : UInt8}
    (asked : ∀ later lamports instruction, past ⊆ later →
      (⟨.rpc (.getMinimumBalanceForRentExemption crates.mintLen), .ok lamports⟩ :
        ServiceEvent) ∈ later →
      crates.initializeMint crates.splToken mint.pubkey owner none decimals = .ok instruction →
      serves later [crates.createAccount payer.pubkey mint.pubkey lamports
        (UInt64.ofNat crates.mintLen) crates.splToken, instruction]) :
    Fallible.Justified warrant past (fun later _ => ServedIn serves later)
      (Rpcnb.createAndInitMint crates rClient payer mint owner decimals) := by
  apply serving.only.locked
  intro answer
  apply Fallible.Justified.bind
    (serving.only.rpcTry (.getMinimumBalanceForRentExemption crates.mintLen))
  intro rented lamports grown funded
  apply Fallible.Justified.bind (OnlySigning.tryForeign _)
  intro prepared instruction grownBuilt built
  have grownAll : past ⊆ prepared := fun event isEvent =>
    grownBuilt (grown (List.mem_cons_of_mem _ isEvent))
  have may := asked prepared lamports instruction grownAll (grownBuilt funded) built
  apply serving.signed may
  intro signed tx grownSigned isSigned same
  apply (Rpcnb.sendTxn_follows serving.only isSigned false).mono
  intro later _ grownSent confirmed dropped
  refine ⟨tx, confirmed.grow (List.subset_cons_self _ _), ?_⟩
  rw [same]
  exact serving.grow _ _ _ (fun event isEvent =>
    List.mem_cons_of_mem _ (grownSent (grownSigned isEvent))) may

theorem Util.mintToExistingAccount_follows {payer mintingKey : Keypair} {mint recipient : Pubkey}
    {quantity : UInt64}
    (asked : ∀ later instruction, past ⊆ later →
      crates.mintTo crates.splToken mint recipient mintingKey.pubkey [] quantity =
        .ok instruction →
      serves later [instruction]) :
    Fallible.Justified warrant past (fun later _ => ServedIn serves later)
      (Util.mintToExistingAccount crates rClient payer mintingKey mint recipient quantity) := by
  apply Fallible.Justified.bind (Util.copied_follows payer)
  intro pastPayer payer1 grownPayer _
  apply Fallible.Justified.bind (Util.copied_follows mintingKey)
  intro pastMinting mintingKey1 grownMinting _
  apply Fallible.Justified.bind (OnlySigning.tryForeign _)
  intro prepared instruction grown built
  have may := asked prepared instruction
    (List.Subset.trans grownPayer (List.Subset.trans grownMinting grown)) built
  apply serving.signed may
  intro signed tx grownSigned isSigned same
  apply Fallible.Justified.bind (Util.sendTxn_follows serving.only isSigned false)
  intro later _ grownSent confirmed
  apply Fallible.Justified.pure
  refine ⟨tx, confirmed, ?_⟩
  rw [same]
  exact serving.grow _ _ _ (List.Subset.trans grownSigned grownSent) may

end Mints

namespace Broadcast

variable (only : OnlySigning warrant)

include only

theorem ensureSent_follows (entry : Nat) (sr : SendResult) :
    Fallible.Justified warrant past Proper.Anything (ensureSent entry sr) := by
  unfold ensureSent
  split
  · exact .pure trivial
  · apply only.locked
    intro answer
    apply Fallible.Justified.bind (only.rpc _)
    intro later reply _ _
    apply Fallible.Justified.bind (OnlySigning.lift _)
    intro checked result _ _
    split
    · exact .throw _
    · exact .pure fun _ => trivial

theorem ensureConfirmed_follows (entry confirmedTxCount : Nat) (sr : SendResult) :
    Fallible.Justified warrant past Proper.Anything
      (ensureConfirmed entry sr confirmedTxCount) := by
  unfold ensureConfirmed
  split
  · exact .pure trivial
  · apply only.locked
    intro answer
    apply Fallible.Justified.bind (Fallible.Justified.perform (I := service.toInterface)
      fun _ => only _ (.sendWireTransaction entry sr.serializedTx) _ nofun nofun)
    intro wired sent _ _
    split
    · apply Fallible.Justified.bind (Fallible.Justified.perform (I := service.toInterface)
        fun _ => only _ (.sleep 10) _ nofun nofun)
      intro slept _ _ _
      apply only.locked
      intro answerRpc
      split
      · apply Fallible.Justified.bind (only.rpc _)
        intro later reply _ _
        split
        · exact .throw _
        · split
          · exact .pure fun _ _ => trivial
          · exact .pure fun _ _ => trivial
      · exact .throw _
    · exact .throw _

theorem sendPass_follows (sigList : List SendResult) (entry confirmedTxCount : Nat) :
    Fallible.Justified warrant past Proper.Anything
      (sendPass entry sigList confirmedTxCount) := by
  induction sigList generalizing past entry confirmedTxCount with
  | nil => exact .pure trivial
  | cons sr sigList ih =>
      have visits : Fallible.Justified warrant past Proper.Anything
          (visit entry sr confirmedTxCount) := by
        apply Fallible.Justified.bind (ensureSent_follows only entry sr)
        exact fun _ sent _ _ => ensureConfirmed_follows only entry confirmedTxCount sent
      apply visits.bind
      intro later visited _ _
      apply Fallible.Justified.bind (ih (entry + 1) visited.2)
      exact fun _ _ _ _ => .pure trivial

theorem sendLoop_follows (passes : Nat) (sigList : List SendResult) (confirmedTxCount : Nat) :
    Fallible.Justified warrant past Proper.Anything
      (sendLoop crates passes sigList confirmedTxCount) := by
  induction passes generalizing past sigList confirmedTxCount with
  | zero => exact .pure trivial
  | succ passes ih =>
      apply Fallible.Justified.bind (Fallible.Justified.perform (I := service.toInterface)
        fun _ => only _ .elapsedSecs _ nofun nofun)
      intro timed elapsed _ _
      split
      · apply Fallible.Justified.bind (sendPass_follows only sigList 0 confirmedTxCount)
        exact fun _ passed _ _ => ih passed.1 passed.2
      · exact .pure trivial

end Broadcast

namespace SerumClient
section Markets

variable {programId : Pubkey} {payer : Keypair} {keys : MarketPubkeys}
  {coinWallet pcWallet : Pubkey} (serving : Serving warrant serves)

theorem serialized_follows (tx : Transaction) :
    Fallible.Justified warrant past (fun _ bytes => crates.serialize tx = .ok bytes)
      (serialized crates tx) := by
  unfold serialized
  split
  · rename_i bytes serializes
    exact .pure serializes
  · exact .throw _

theorem failOnSimulationError_follows (err : Option ForeignError) :
    Fallible.Justified warrant past Proper.Anything (failOnSimulationError err) := by
  cases err with
  | none => exact .pure trivial
  | some e => exact .throw _

include serving

/-- What serves is signed and encoded, and perhaps simulated in between. -/
theorem handedOver_follows {instructions : List Instruction} {signers : List Keypair}
    {next : Transaction → Svc AnyError (List UInt8)} (asked : serves past instructions)
    (encodes : ∀ later tx, Fallible.Justified warrant later
      (fun _ bytes => crates.serialize tx = .ok bytes) (next tx)) :
    Fallible.Justified warrant past (HandsOver crates serves) (do
      let recentHash ← Rpcnb.getLatestBlockhash rClient
      let txn ← newSignedWithPayer instructions (some payer.pubkey) signers recentHash
      next txn) := by
  apply serving.signed asked
  intro signed tx grownSigned isSigned same
  apply (encodes signed tx).mono
  intro later bytes grown encoded
  refine ⟨tx, encoded, isSigned.grow grown, ?_⟩
  rw [same]
  exact serving.grow _ _ _ (List.Subset.trans grownSigned grown) asked

theorem simulated_follows {instructions : List Instruction} {signers : List Keypair}
    {encode : Transaction → Svc AnyError (List UInt8)} (cfg : CommitmentLevel)
    (asked : serves past instructions)
    (encodes : ∀ later tx, Fallible.Justified warrant later
      (fun _ bytes => crates.serialize tx = .ok bytes) (encode tx)) :
    Fallible.Justified warrant past (HandsOver crates serves) (do
      let recentHash ← Rpcnb.getLatestBlockhash rClient
      let txn ← newSignedWithPayer instructions (some payer.pubkey) signers recentHash
      let result ← Rpcnb.simulateTransaction crates rClient txn true cfg
      failOnSimulationError result
      encode txn) := by
  apply handedOver_follows serving asked
  intro signed tx
  apply Fallible.Justified.bind (Rpcnb.simulateTransaction_follows serving.only tx cfg)
  intro simulated result _ _
  apply Fallible.Justified.bind (failOnSimulationError_follows result)
  intro later _ _ _
  exact encodes later tx

theorem consumeEvents_follows
    (asked : ∀ later eventQData instruction, past ⊆ later →
      (⟨.rpc (.getAccountData keys.eventQ), .ok eventQData⟩ : ServiceEvent) ∈ later →
      Cranks crates programId keys coinWallet pcWallet eventQData instruction →
      serves later [instruction]) :
    Fallible.Justified warrant past (HandsOver crates serves)
      (consumeEvents crates rClient programId payer keys coinWallet pcWallet) := by
  have reads : Fallible.Justified warrant past
      (fun later crank => ∃ eventQData,
        (⟨.rpc (.getAccountData keys.eventQ), .ok eventQData⟩ : ServiceEvent) ∈ later ∧
          decodeCrankInstruction crates programId keys coinWallet pcWallet eventQData = .ok crank)
      (consumeEventsInstruction crates rClient programId keys coinWallet pcWallet) := by
    apply Fallible.Justified.bind (serving.only.locked_rpcTry (.getAccountData keys.eventQ))
    intro later eventQData _ shown
    exact .lift fun crank decoded => ⟨eventQData, shown, decoded⟩
  apply reads.bind
  intro built crank grown holds
  obtain ⟨eventQData, shown, decoded⟩ := holds
  cases crank with
  | none => exact .throw _
  | some instruction =>
      apply handedOver_follows serving
      · exact asked built eventQData instruction grown shown (cranks_of_decoded decoded)
      · exact fun _ tx => OnlySigning.tryForeign _

theorem cancelOrderByClientOrderId_follows {orders : Pubkey} {id : UInt64}
    (asked : ∀ later instruction, past ⊆ later →
      crates.cancelOrderByClientOrderIdIx programId keys.market keys.bids keys.asks orders
        payer.pubkey keys.eventQ id = .ok instruction →
      serves later [instruction]) :
    Fallible.Justified warrant past (HandsOver crates serves)
      (cancelOrderByClientOrderId crates rClient programId payer keys orders id) := by
  apply Fallible.Justified.bind (OnlySigning.tryForeign _)
  intro made ix grown built
  exact simulated_follows serving _ (asked made ix grown built) fun _ tx =>
    OnlySigning.tryForeign _

theorem closeOpenOrders_follows {orders : Pubkey}
    (asked : ∀ later instruction, past ⊆ later →
      crates.closeOpenOrdersIx programId orders payer.pubkey payer.pubkey keys.market =
        .ok instruction →
      serves later [instruction]) :
    Fallible.Justified warrant past (HandsOver crates serves)
      (closeOpenOrders crates rClient programId payer keys orders) := by
  apply Fallible.Justified.bind (OnlySigning.tryForeign _)
  intro made ix grown built
  apply simulated_follows serving _ (asked made ix grown built)
  intro later tx
  split
  · rename_i bytes serializes
    exact .pure serializes
  · exact .throw _

end Markets

section Accounts

variable {programId : Pubkey} {payer : Keypair}

theorem createDexAccount_follows (only : OnlySigning warrant) (unpaddedLen : Nat)
    (payer : Pubkey) :
    Fallible.Justified warrant past
      (fun later made => CreatesAccount crates later payer made.1 (unpaddedLen + 12) programId
        made.2)
      (createDexAccount crates rClient programId payer unpaddedLen) := by
  apply Fallible.Justified.bind only.generateKeypair
  intro made key _ generated
  apply Fallible.Justified.bind
    (only.locked_rpcTry (.getMinimumBalanceForRentExemption (unpaddedLen + 12)))
  intro later lamports grown funded
  exact .pure ⟨grown generated, lamports, funded, rfl⟩

variable (serving : Serving warrant serves)

include serving

/-- The open-orders account is the one of the slot, or a new one. -/
theorem setUp_follows {build : Pubkey → List Keypair → List Instruction → Svc AnyError (List UInt8)}
    (slot : Option Pubkey)
    (builds : ∀ later account signers creates, past ⊆ later →
      OpensOrders crates later programId payer.pubkey slot account creates →
      Fallible.Justified warrant later (HandsOver crates serves)
        (build account signers creates)) :
    Fallible.Justified warrant past (HandsOver crates serves)
      ((setUp crates rClient programId payer.pubkey build).call slot) := by
  have finishes (later : List ServiceEvent) (account : Pubkey) (signers : List Keypair)
      (creates : List Instruction) (grown : past ⊆ later)
      (opens : OpensOrders crates later programId payer.pubkey slot account creates) :
      InOut.Justified warrant later (HandsOver crates serves) (do
        InOut.assign (some account)
        InOut.lift (build account signers creates)) := by
    apply InOut.Justified.bind (.assign _)
    intro assigned _ grownMore _
    apply InOut.Justified.lift
    exact builds assigned account signers creates (List.Subset.trans grown grownMore)
      (opens.grow grownMore)
  cases slot with
  | some given =>
      exact (finishes past given [] [] (List.Subset.refl _) ⟨rfl, rfl⟩).call (some given)
  | none =>
      have prepares : InOut.Justified warrant past (HandsOver crates serves)
          (InOut.lift (createDexAccount crates rClient programId payer.pubkey
            crates.openOrdersSize) >>= fun made => do
              InOut.assign (some made.1.pubkey)
              InOut.lift (build made.1.pubkey [made.1] [made.2])) := by
        apply InOut.Justified.bind (.lift (createDexAccount_follows serving.only _ _))
        intro later made grown creates
        exact finishes later made.1.pubkey [made.1] [made.2] grown
          ⟨made.1, made.2, creates, rfl, rfl⟩
      have same : setUp crates rClient programId payer.pubkey build none = _ :=
        setUp_none programId payer.pubkey build
      rw [InOut.call, same]
      exact prepares.call none

theorem initOpenOrders_follows {keys : MarketPubkeys} (slot : Option Pubkey)
    (asked : ∀ later account creates instruction, past ⊆ later →
      OpensOrders crates later programId payer.pubkey slot account creates →
      crates.initOpenOrdersIx programId account payer.pubkey keys.market none = .ok instruction →
      serves later (creates ++ [instruction])) :
    Fallible.Justified warrant past (HandsOver crates serves)
      ((initOpenOrders crates rClient programId payer keys).call slot) := by
  rw [initOpenOrders_eq]
  apply setUp_follows serving
  intro opened account signers creates grown opens
  apply Fallible.Justified.bind (OnlySigning.tryForeign _)
  intro made instruction grownMade built
  have may := asked made account creates instruction (List.Subset.trans grown grownMade)
    (opens.grow grownMade) built
  exact handedOver_follows serving may fun _ tx => OnlySigning.tryForeign _

theorem placeOrder_follows {keys : MarketPubkeys} {wallet : Pubkey}
    {newOrder : NewOrderInstructionV3} (slot : Option Pubkey)
    (asked : ∀ later account creates, past ⊆ later →
      OpensOrders crates later programId payer.pubkey slot account creates →
      serves later (creates ++
        [orderInstruction crates programId payer wallet keys newOrder account])) :
    Fallible.Justified warrant past (HandsOver crates serves)
      ((placeOrder crates rClient programId payer wallet keys newOrder).call slot) := by
  rw [placeOrder_eq]
  apply setUp_follows serving
  intro opened account signers creates grown opens
  exact handedOver_follows serving (asked opened account creates grown opens)
    fun _ tx => serialized_follows tx

end Accounts

section Listing

variable {programId : Pubkey} {payer : Keypair}

/-- The accounts of the listing are created, and its vault signer is derived from
the key of the market. -/
theorem genListingParams_follows (only : OnlySigning warrant) (payer : Pubkey) :
    Fallible.Justified warrant past (fun later listing =>
        List.Forall₂ (fun (account : Keypair × Nat) create =>
            CreatesAccount crates later payer account.1 account.2 programId create)
          (listing.1.keypairs.zip listingSizes) listing.2 ∧
          LeastNonce crates listing.1.marketKey.pubkey programId listing.1.vaultSignerNonce
            listing.1.vaultSignerPk)
      (genListingParams crates rClient programId payer) := by
  apply Fallible.Justified.bind (createDexAccount_follows only _ _)
  intro pastMarket market _ ofMarket
  apply Fallible.Justified.bind (createDexAccount_follows only _ _)
  intro pastReqQ reqQ grownReqQ ofReqQ
  apply Fallible.Justified.bind (createDexAccount_follows only _ _)
  intro pastEventQ eventQ grownEventQ ofEventQ
  apply Fallible.Justified.bind (createDexAccount_follows only _ _)
  intro pastBids bids grownBids ofBids
  apply Fallible.Justified.bind (createDexAccount_follows only _ _)
  intro pastAsks asks grownAsks ofAsks
  have searching : Fallible.Justified warrant pastAsks
      (fun _ found => LeastNonce crates market.1.pubkey programId found.1 found.2)
      (Fallible.lift (findVaultSigner crates market.1.pubkey programId 100 0) :
        Svc AnyError _) := by
    exact .lift fun _ isFound => leastNonce_of_found isFound
  apply searching.bind
  intro later found grown least
  apply Fallible.Justified.pure
  refine ⟨.cons ?_ (.cons ?_ (.cons ?_ (.cons ?_ (.cons ?_ .nil)))), least⟩
  · exact ofMarket.grow fun _ isEvent =>
      grown (grownAsks (grownBids (grownEventQ (grownReqQ isEvent))))
  · exact ofReqQ.grow fun _ isEvent => grown (grownAsks (grownBids (grownEventQ isEvent)))
  · exact ofEventQ.grow fun _ isEvent => grown (grownAsks (grownBids isEvent))
  · exact ofBids.grow fun _ isEvent => grown (grownAsks isEvent)
  · exact ofAsks.grow grown

/-- The listing, with its market's keys, is handed over once its two vaults are set up. -/
theorem listMarket_follows (serving : Serving warrant serves) {coinMint pcMint : Pubkey}
    {coinLotSize pcLotSize : UInt64}
    (vaults : ∀ later instructions mint market key nonce vaultSigner, past ⊆ later →
      mint = coinMint ∨ mint = pcMint →
      (⟨.generateKeypair, market⟩ : ServiceEvent) ∈ later →
      LeastNonce crates market.pubkey programId nonce vaultSigner →
      SetsUpTokenAccount crates later payer.pubkey mint vaultSigner key instructions →
      serves later instructions)
    (asked : ∀ later accounts coinVault pcVault instructions, past ⊆ later →
      ListsMarket crates later programId payer.pubkey coinMint pcMint coinLotSize pcLotSize
        accounts coinVault pcVault instructions →
      serves later instructions) :
    Fallible.Justified warrant past
      (fun later listed => ∃ tx accounts coinVault pcVault,
        crates.serialize tx = .ok listed.1 ∧ SignedIn later tx ∧
          listed.2 = accounts.withVaults coinVault pcVault ∧
          ListsMarket crates later programId payer.pubkey coinMint pcMint coinLotSize pcLotSize
            accounts coinVault pcVault tx.instructions)
      (listMarket crates rClient programId payer coinMint pcMint coinLotSize pcLotSize) := by
  apply Fallible.Justified.bind (genListingParams_follows serving.only payer.pubkey)
  intro pastKeys listing grownKeys holds
  obtain ⟨accounts, creates⟩ := listing
  obtain ⟨created, least⟩ := holds
  have generated : (⟨.generateKeypair, accounts.marketKey⟩ : ServiceEvent) ∈ pastKeys := by
    cases created with
    | cons first _ => exact first.1
  have servesVault (later : List ServiceEvent) (grown : pastKeys ⊆ later) (mint : Pubkey)
      (isMint : mint = coinMint ∨ mint = pcMint) :
      ServesTokenAccount crates serves later payer.pubkey mint accounts.vaultSignerPk := by
    intro last key instructions grownMore setsUp
    have grownAll := List.Subset.trans grown grownMore
    exact vaults last instructions mint accounts.marketKey key _ _
      (List.Subset.trans grownKeys grownAll) isMint (grownAll generated) least setsUp
  apply Fallible.Justified.bind (Rpcnb.createTokenAccount_follows serving
    (servesVault _ (List.Subset.refl _) coinMint (.inl rfl)))
  intro pastCoin coinVault grownCoin hasCoin
  apply Fallible.Justified.bind (Rpcnb.createTokenAccount_follows serving
    (servesVault _ grownCoin pcMint (.inr rfl)))
  intro pastPc pcVault grownPc hasPc
  apply Fallible.Justified.bind (OnlySigning.tryForeign _)
  intro pastBuilt setUp grownBuilt built
  have grownAll : pastKeys ⊆ pastBuilt := fun event isEvent =>
    grownBuilt (grownPc (grownCoin isEvent))
  have lists : ListsMarket crates pastBuilt programId payer.pubkey coinMint pcMint coinLotSize
      pcLotSize accounts coinVault pcVault (creates ++ [setUp]) := by
    refine ⟨least, (hasCoin.grow grownPc).grow grownBuilt, hasPc.grow grownBuilt, creates, setUp,
      ?_, built, rfl⟩
    exact created.imp fun _ _ makes => makes.grow grownAll
  apply serving.signed
    (asked pastBuilt accounts coinVault pcVault _ (List.Subset.trans grownKeys grownAll) lists)
  intro signed tx grownSigned isSigned same
  apply Fallible.Justified.bind (OnlySigning.tryForeign _)
  intro later bytes grown encoded
  apply Fallible.Justified.pure
  refine ⟨tx, accounts, coinVault, pcVault, encoded, isSigned.grow grown, rfl, ?_⟩
  rw [same]
  exact lists.grow (List.Subset.trans grownSigned grown)

end Listing

end SerumClient

end RustHelper
