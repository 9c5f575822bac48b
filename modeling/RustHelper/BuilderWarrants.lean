import RustHelper.ServiceWarrants
import RustHelper.MarketListing

/-!
# The builders do what they are entitled to

Each function of the client, followed through its calls: what it signs, simulates
and sends is warranted, and what it returns comes from what it signed.
-/

namespace RustHelper

open Effect

variable {crates : Crates} {grant : Grant} {past : List ServiceEvent} {rClient : ServiceMutex}

/-- The key pair was generated in the past, and a confirmed transaction, signed with it,
created and set up its account. -/
def NewAccountIn (crates : Crates) (past : List ServiceEvent) (key : Keypair) : Prop :=
  (⟨.generateKeypair, key⟩ : ServiceEvent) ∈ past ∧ ∃ tx payer,
    ConfirmedIn past tx ∧ key.pubkey ∈ tx.signers ∧ tx.payer = some payer ∧
      OpensAccount crates past tx.instructions payer key.pubkey

theorem NewAccountIn.grow {later : List ServiceEvent} (grown : past ⊆ later) {key : Keypair}
    (opened : NewAccountIn crates past key) : NewAccountIn crates later key := by
  obtain ⟨generated, tx, payer, confirmed, signs, pays, opens⟩ := opened
  exact ⟨grown generated, tx, payer, confirmed.grow grown, signs, pays, opens.grow grown⟩

/-- The account is new once the transaction that opens it is confirmed. -/
theorem NewAccountIn.of_confirmed {key : Keypair} {tx : Transaction} {payer : Pubkey}
    {instructions : List Instruction} {signers : List Keypair}
    (generated : (⟨.generateKeypair, key⟩ : ServiceEvent) ∈ past) (confirmed : ConfirmedIn past tx)
    (isSigned : tx.IsSigned instructions (some payer) (signers.map Keypair.pubkey))
    (signs : key ∈ signers)
    (opens : OpensAccount crates past instructions payer key.pubkey) :
    NewAccountIn crates past key := by
  obtain ⟨recentBlockhash, signature, same⟩ := isSigned
  subst same
  exact ⟨generated, _, payer, confirmed, List.mem_map_of_mem signs, rfl, opens⟩

/-- A new token account is created and set up for its mint. -/
theorem OpensAccount.tokenAccount {payer key mint authority : Pubkey} {lamports : UInt64}
    {instruction : Instruction} (generated : GeneratedIn past key)
    (funded : (⟨.rpc (.getMinimumBalanceForRentExemption crates.tokenAccountLen), .ok lamports⟩ :
      ServiceEvent) ∈ past)
    (built : crates.initializeAccount crates.splToken key mint authority = .ok instruction) :
    OpensAccount crates past
      [crates.createAccount payer key lamports (UInt64.ofNat crates.tokenAccountLen)
        crates.splToken, instruction] payer key := by
  have created : Prepares crates past
      [crates.createAccount payer key lamports (UInt64.ofNat crates.tokenAccountLen)
        crates.splToken, instruction] payer key crates.splToken :=
    ⟨generated, lamports, crates.tokenAccountLen, funded, List.mem_cons_self⟩
  exact ⟨crates.splToken, created, instruction, by simp, .tokenAccount rfl built⟩

/-- The payer signs as a key of the request, the new key for its account. -/
theorem OpensAccount.entitled {instructions : List Instruction} {payer opened : Keypair}
    (own : payer.pubkey ∈ grant.signers)
    (opens : OpensAccount crates past instructions payer.pubkey opened.pubkey) :
    ∀ signer ∈ [payer, opened], signer.pubkey ∈ grant.signers ∨
      OpensAccount crates past instructions payer.pubkey signer.pubkey := by
  intro signer among
  simp only [List.mem_cons, List.not_mem_nil, or_false] at among
  rcases among with isPayer | isOpened
  · exact .inl (isPayer ▸ own)
  · exact .inr (isOpened ▸ opens)

namespace Rpcnb

theorem getMinimumBalanceForRentExemption_proper (granted : rClient ∈ grant.mutexes) (len : Nat) :
    Proper crates grant past (fun later lamports =>
        (⟨.rpc (.getMinimumBalanceForRentExemption len), .ok lamports⟩ : ServiceEvent) ∈ later)
      (getMinimumBalanceForRentExemption rClient len) :=
  Proper.locked_rpcTry _ granted fun _ _ => trivial

theorem getLatestBlockhash_proper (granted : rClient ∈ grant.mutexes) :
    Proper crates grant past (fun later recentHash =>
        (⟨.rpc .getLatestBlockhash, .ok recentHash⟩ : ServiceEvent) ∈ later)
      (getLatestBlockhash rClient) :=
  Proper.locked_rpcTry _ granted fun _ _ => trivial

theorem sendTxn_proper (granted : rClient ∈ grant.mutexes) (submits : grant.submits)
    {tx : Transaction} (signed : SignedIn past tx) (simulate : Bool) :
    Proper crates grant past (fun later _ => ConfirmedIn later tx)
      (sendTxn rClient tx simulate) := by
  have may (later : List ServiceEvent) (grown : past ⊆ later) : WarrantedOp crates later grant
      (.rpc (.sendAndConfirmTransaction tx .confirmed { skipPreflight := true })) :=
    ⟨submits, signed.grow grown⟩
  apply (Proper.locked_rpcTry _ granted may).mono
  intro later signature grown isEvent
  exact ⟨signed.grow grown, signature, isEvent⟩

/-- A transaction is signed for the latest block hash. -/
theorem signed_proper {α : Type} {returns : List ServiceEvent → α → Prop}
    {instructions : List Instruction} {payer : Pubkey} {signers : List Keypair}
    {next : Transaction → Svc AnyError α} (granted : rClient ∈ grant.mutexes)
    (isPayer : payer ∈ grant.payer)
    (entitled : ∀ signer ∈ signers, signer.pubkey ∈ grant.signers ∨
      OpensAccount crates past instructions payer signer.pubkey)
    (rest : ∀ later tx, past ⊆ later → SignedIn later tx →
      tx.IsSigned instructions (some payer) (signers.map Keypair.pubkey) →
        Proper crates grant later returns (next tx)) :
    Proper crates grant past returns (do
      let recentHash ← getLatestBlockhash rClient
      let txn ← newSignedWithPayer instructions (some payer) signers recentHash
      next txn) := by
  apply Fallible.Justified.bind (getLatestBlockhash_proper granted)
  intro later recentHash grown answered
  have stillEntitled : ∀ signer ∈ signers, signer.pubkey ∈ grant.signers ∨
      OpensAccount crates later instructions payer signer.pubkey := by
    intro signer among
    rcases entitled signer among with own | opens
    · exact .inl own
    · exact .inr (opens.grow grown)
  apply Fallible.Justified.bind (Proper.newSignedWithPayer isPayer stillEntitled answered)
  intro final tx grownMore signs
  exact rest final tx (List.Subset.trans grown grownMore) signs.1 signs.2

theorem simulateTransaction_proper (granted : rClient ∈ grant.mutexes) {tx : Transaction}
    (signed : SignedIn past tx) (cfg : CommitmentLevel) :
    Proper crates grant past (fun later reported => reported = none →
        ∀ bytes, crates.serialize tx = .ok bytes → SimulatedIn later bytes)
      (simulateTransaction crates rClient tx true cfg) := by
  unfold simulateTransaction
  split
  · exact .lift nofun
  · rename_i encoded serializes
    have may (later : List ServiceEvent) (grown : past ⊆ later) : WarrantedOp crates later grant
        (.rpc (.simulateTransaction encoded true cfg)) := ⟨tx, serializes, signed.grow grown⟩
    apply Proper.locked granted
    intro answer
    apply Fallible.Justified.bind (Proper.rpcTry _ (may _ (List.subset_cons_self _ _)))
    intro later reply _ isEvent
    apply Fallible.Justified.pure
    intro dropped isNone bytes same
    rw [serializes, Except.ok.injEq] at same
    subst same
    exact ⟨cfg, reply, List.mem_cons_of_mem _ isEvent, isNone⟩

theorem createTokenAccountInstructions_proper (granted : rClient ∈ grant.mutexes)
    {splAccount : Pubkey} (generated : GeneratedIn past splAccount)
    (mintPubkey ownerPubkey : Pubkey) (payer : Keypair) :
    Proper crates grant past (fun later instructions =>
        OpensAccount crates later instructions payer.pubkey splAccount)
      (createTokenAccountInstructions crates rClient splAccount mintPubkey ownerPubkey payer) := by
  apply Proper.locked granted
  intro answer
  apply Fallible.Justified.bind (Proper.rpcTry (.getMinimumBalanceForRentExemption _) trivial)
  intro asked lamports grown funded
  apply Fallible.Justified.bind (Proper.tryForeign _)
  intro later instruction grownMore built
  apply Fallible.Justified.pure
  intro dropped
  have opens : OpensAccount crates later _ payer.pubkey splAccount := .tokenAccount
    (((generated.grow (List.subset_cons_self _ _)).grow grown).grow grownMore)
    (grownMore funded) built
  exact opens.grow (List.subset_cons_self _ _)

/-- The account of the key pair that is returned was opened. -/
theorem createTokenAccount_proper (granted : rClient ∈ grant.mutexes) (submits : grant.submits)
    {payer : Keypair} (isPayer : payer.pubkey ∈ grant.payer) (own : payer.pubkey ∈ grant.signers)
    (mintPubkey ownerPubkey : Pubkey) :
    Proper crates grant past (NewAccountIn crates)
      (createTokenAccount crates rClient mintPubkey ownerPubkey payer) := by
  apply Fallible.Justified.bind Proper.generateKeypair
  intro made splAccount _ generated
  apply Fallible.Justified.bind (createTokenAccountInstructions_proper granted
    ⟨splAccount, generated, rfl⟩ mintPubkey ownerPubkey payer)
  intro prepared instructions grown opens
  apply signed_proper granted isPayer (opens.entitled own)
  intro signed tx grownMore isSigned asAsked
  apply Fallible.Justified.bind (sendTxn_proper granted submits isSigned false)
  intro sent _ grownLast confirmed
  apply Fallible.Justified.pure
  exact .of_confirmed (grownLast (grownMore (grown generated))) confirmed asAsked
    (List.mem_cons_of_mem _ List.mem_cons_self) ((opens.grow grownMore).grow grownLast)

/-- The mint's key pair is one of the request. -/
theorem createAndInitMint_proper (granted : rClient ∈ grant.mutexes) (submits : grant.submits)
    {payerKeypair mintKeypair : Keypair} (isPayer : payerKeypair.pubkey ∈ grant.payer)
    (own : ∀ signer ∈ [payerKeypair, mintKeypair], signer.pubkey ∈ grant.signers)
    (ownerPubkey : Pubkey) (decimals : UInt8) :
    Proper crates grant past (fun later _ => ∃ tx, ConfirmedIn later tx)
      (createAndInitMint crates rClient payerKeypair mintKeypair ownerPubkey decimals) := by
  apply Proper.locked granted
  intro answer
  apply Fallible.Justified.bind (Proper.rpcTry (.getMinimumBalanceForRentExemption _) trivial)
  intro asked lamports _ _
  apply Fallible.Justified.bind (Proper.tryForeign _)
  intro prepared instruction _ _
  apply signed_proper granted isPayer fun signer among => .inl (own signer among)
  intro signed tx _ isSigned _
  apply (sendTxn_proper granted submits isSigned false).mono
  intro later signature _ confirmed dropped
  exact ⟨tx, confirmed.grow (List.subset_cons_self _ _)⟩

end Rpcnb

namespace Util

theorem copied_proper {ε : Type} (laws : crates.KeypairLaws) (key : Keypair) :
    Proper crates grant past (fun _ copy => copy = key) (copied crates key : Svc ε Keypair) := by
  unfold copied
  rw [laws.from_to]
  exact .pure rfl

theorem sendTxn_proper (granted : rClient ∈ grant.mutexes) (submits : grant.submits)
    {tx : Transaction} (signed : SignedIn past tx) (simulate : Bool) :
    Proper crates grant past (fun later _ => ConfirmedIn later tx)
      (sendTxn rClient tx simulate) := by
  apply Fallible.Justified.bind (Rpcnb.sendTxn_proper granted submits signed simulate)
  intro sent sig _ confirmed
  apply Proper.locked granted
  intro answer
  apply Fallible.Justified.bind (Proper.rpcTry (.confirmTransaction sig) trivial)
  intro later known grown _
  split
  · apply Fallible.Justified.pure
    intro dropped
    have kept : sent ⊆ later := fun event isEvent => grown (List.mem_cons_of_mem _ isEvent)
    exact (confirmed.grow kept).grow (List.subset_cons_self _ _)
  · exact .throw _

theorem initializeTokenAccount_proper (laws : crates.KeypairLaws)
    (granted : rClient ∈ grant.mutexes) (submits : grant.submits) {owner : Keypair}
    (isPayer : owner.pubkey ∈ grant.payer) (own : owner.pubkey ∈ grant.signers) (mint : Pubkey) :
    Proper crates grant past (NewAccountIn crates)
      (initializeTokenAccount crates rClient mint owner) := by
  apply Fallible.Justified.bind Proper.generateKeypair
  intro made recipKeypair _ generated
  apply Fallible.Justified.bind (Rpcnb.getMinimumBalanceForRentExemption_proper granted _)
  intro asked lamports grown funded
  apply Fallible.Justified.bind (Proper.tryForeign _)
  intro prepared initRecipInstr grownBuilt built
  apply Fallible.Justified.bind (copied_proper laws owner)
  intro copying o1 grownCopy same
  subst same
  have opens : OpensAccount crates copying _ o1.pubkey recipKeypair.pubkey := .tokenAccount
    ⟨recipKeypair, grownCopy (grownBuilt (grown generated)), rfl⟩
    (grownCopy (grownBuilt funded)) built
  apply Rpcnb.signed_proper granted isPayer (opens.entitled own)
  intro signed tx grownMore isSigned asAsked
  apply Fallible.Justified.bind (sendTxn_proper granted submits isSigned false)
  intro sent _ grownLast confirmed
  apply Fallible.Justified.pure
  have still := grownLast (grownMore (grownCopy (grownBuilt (grown generated))))
  exact .of_confirmed still confirmed asAsked (List.mem_cons_of_mem _ List.mem_cons_self)
    ((opens.grow grownMore).grow grownLast)

theorem mintToExistingAccount_proper (laws : crates.KeypairLaws)
    (granted : rClient ∈ grant.mutexes) (submits : grant.submits) {payer mintingKey : Keypair}
    (isPayer : payer.pubkey ∈ grant.payer)
    (own : ∀ signer ∈ [payer, mintingKey], signer.pubkey ∈ grant.signers)
    (mint recipient : Pubkey) (quantity : UInt64) :
    Proper crates grant past (fun later _ => ∃ tx, ConfirmedIn later tx)
      (mintToExistingAccount crates rClient payer mintingKey mint recipient quantity) := by
  apply Fallible.Justified.bind (copied_proper laws payer)
  intro copying payer1 _ samePayer
  apply Fallible.Justified.bind (copied_proper laws mintingKey)
  intro copyingMore mintingKey1 _ sameMinting
  subst samePayer sameMinting
  apply Fallible.Justified.bind (Proper.tryForeign _)
  intro prepared mintTokensInstr _ _
  apply Rpcnb.signed_proper granted isPayer fun signer among => .inl (own signer among)
  intro signed tx _ isSigned _
  apply Fallible.Justified.bind (sendTxn_proper granted submits isSigned false)
  intro sent _ _ confirmed
  exact .pure ⟨tx, confirmed⟩

theorem createAccount_proper (granted : rClient ∈ grant.mutexes) (submits : grant.submits)
    {payer : Keypair} (isPayer : payer.pubkey ∈ grant.payer) (own : payer.pubkey ∈ grant.signers)
    (mintPubkey ownerPubkey : Pubkey) :
    Proper crates grant past (NewAccountIn crates)
      (createAccount crates rClient mintPubkey ownerPubkey payer) := by
  apply Fallible.Justified.bind Proper.generateKeypair
  intro made splAccount _ generated
  apply Fallible.Justified.bind (Rpcnb.getMinimumBalanceForRentExemption_proper granted _)
  intro asked lamports grown funded
  apply Fallible.Justified.bind (Proper.tryForeign _)
  intro prepared initAccountInstr grownBuilt built
  have opens : OpensAccount crates prepared _ payer.pubkey splAccount.pubkey := .tokenAccount
    ⟨splAccount, grownBuilt (grown generated), rfl⟩ (grownBuilt funded) built
  apply Rpcnb.signed_proper granted isPayer (opens.entitled own)
  intro signed tx grownMore isSigned asAsked
  apply Fallible.Justified.bind (Rpcnb.sendTxn_proper granted submits isSigned false)
  intro sent _ grownLast confirmed
  apply Fallible.Justified.pure
  exact .of_confirmed (grownLast (grownMore (grownBuilt (grown generated)))) confirmed asAsked
    (List.mem_cons_of_mem _ List.mem_cons_self) ((opens.grow grownMore).grow grownLast)

end Util

namespace SerumClient

/-- The keys are those of the market's account, as the cluster showed it. -/
def ReadFrom (crates : Crates) (past : List ServiceEvent) (programId market : Pubkey)
    (keys : MarketPubkeys) : Prop :=
  ∃ accountData, (⟨.rpc (.getAccountData market), .ok accountData⟩ : ServiceEvent) ∈ past ∧
    decodeMarketKeys crates programId market accountData = .ok keys

theorem ReadFrom.grow {later : List ServiceEvent} (grown : past ⊆ later)
    {programId market : Pubkey} {keys : MarketPubkeys}
    (readFrom : ReadFrom crates past programId market keys) :
    ReadFrom crates later programId market keys := by
  obtain ⟨accountData, isEvent, decoded⟩ := readFrom
  exact ⟨accountData, grown isEvent, decoded⟩

theorem getKeysForMarket_proper (granted : rClient ∈ grant.mutexes) (programId market : Pubkey) :
    Proper crates grant past (fun later keys => ReadFrom crates later programId market keys)
      (getKeysForMarket crates rClient programId market) := by
  apply Proper.locked granted
  intro answer
  apply Fallible.Justified.bind (Proper.rpc (.getAccountData market) trivial)
  intro asked reply _ isEvent
  cases reply with
  | ok accountData =>
      apply Fallible.Justified.lift
      intro keys decoded dropped
      exact ⟨accountData, List.mem_cons_of_mem _ isEvent, decoded⟩
  | error e => exact .throw _

theorem consumeEventsInstruction_proper (granted : rClient ∈ grant.mutexes) (programId : Pubkey)
    (state : MarketPubkeys) (coinWallet pcWallet : Pubkey) :
    Proper crates grant past Proper.Anything
      (consumeEventsInstruction crates rClient programId state coinWallet pcWallet) := by
  have reads : Proper crates grant past Proper.Anything
      (locked rClient (rpcTry (.getAccountData state.eventQ))) :=
    Proper.forget (Proper.locked_rpcTry _ granted fun _ _ => trivial)
  apply Fallible.Justified.bind reads
  intro asked eventQData _ _
  exact Proper.unit_lift _

theorem serialized_proper (tx : Transaction) :
    Proper crates grant past (fun _ bytes => crates.serialize tx = .ok bytes)
      (serialized crates tx) := by
  unfold serialized
  split
  · exact .pure ‹_›
  · exact .throw _

theorem failOnSimulationError_proper (err : Option ForeignError) :
    Proper crates grant past (fun _ _ => err = none) (failOnSimulationError err) := by
  cases err with
  | none => exact .pure rfl
  | some e => exact .throw _

section Signed

variable {instructions : List Instruction} {payer : Pubkey} {signers : List Keypair}
  {encode : Transaction → Svc AnyError (List UInt8)}

/-- What is returned is the encoding of the transaction that was signed. -/
theorem signed_delivers (granted : rClient ∈ grant.mutexes) (isPayer : payer ∈ grant.payer)
    (entitled : ∀ signer ∈ signers, signer.pubkey ∈ grant.signers ∨
      OpensAccount crates past instructions payer signer.pubkey)
    (encodes : ∀ later tx, Proper crates grant later
      (fun _ bytes => crates.serialize tx = .ok bytes) (encode tx)) :
    Proper crates grant past (Delivers crates) (do
      let recentHash ← Rpcnb.getLatestBlockhash rClient
      let txn ← newSignedWithPayer instructions (some payer) signers recentHash
      encode txn) := by
  apply Rpcnb.signed_proper granted isPayer entitled
  intro signed tx _ isSigned _
  apply (encodes signed tx).mono
  intro later bytes grown serializes
  exact ⟨tx, serializes, isSigned.grow grown⟩

/-- With a simulation in between, it was simulated without an error. -/
theorem signed_simulated_delivers (granted : rClient ∈ grant.mutexes)
    (isPayer : payer ∈ grant.payer)
    (entitled : ∀ signer ∈ signers, signer.pubkey ∈ grant.signers ∨
      OpensAccount crates past instructions payer signer.pubkey)
    (cfg : CommitmentLevel)
    (encodes : ∀ later tx, Proper crates grant later
      (fun _ bytes => crates.serialize tx = .ok bytes) (encode tx)) :
    Proper crates grant past
      (fun later bytes => Delivers crates later bytes ∧ SimulatedIn later bytes) (do
        let recentHash ← Rpcnb.getLatestBlockhash rClient
        let txn ← newSignedWithPayer instructions (some payer) signers recentHash
        let result ← Rpcnb.simulateTransaction crates rClient txn true cfg
        failOnSimulationError result
        encode txn) := by
  apply Rpcnb.signed_proper granted isPayer entitled
  intro signed tx _ isSigned _
  apply Fallible.Justified.bind (Rpcnb.simulateTransaction_proper granted isSigned cfg)
  intro asked result grownAsked simulated
  apply Fallible.Justified.bind (failOnSimulationError_proper result)
  intro passed _ grownPassed isNone
  apply (encodes passed tx).mono
  intro later bytes grown serializes
  have delivered := (isSigned.grow grownAsked).grow grownPassed
  exact ⟨⟨tx, serializes, delivered.grow grown⟩,
    ((simulated isNone bytes serializes).grow grownPassed).grow grown⟩

end Signed

/-- A payer that is entitled signs alone. -/
theorem alone_entitled {payer : Keypair} {instructions : List Instruction}
    (own : payer.pubkey ∈ grant.signers) : ∀ signer ∈ [payer], signer.pubkey ∈ grant.signers ∨
      OpensAccount crates past instructions payer.pubkey signer.pubkey := by
  intro signer among
  exact .inl (List.mem_singleton.mp among ▸ own)

section Builders

variable {payer : Keypair} (granted : rClient ∈ grant.mutexes)
  (isPayer : payer.pubkey ∈ grant.payer)
  (own : payer.pubkey ∈ grant.signers)

include granted isPayer own

theorem consumeEvents_proper (programId : Pubkey) (state : MarketPubkeys)
    (coinWallet pcWallet : Pubkey) :
    Proper crates grant past (Delivers crates)
      (consumeEvents crates rClient programId payer state coinWallet pcWallet) := by
  apply Fallible.Justified.bind (consumeEventsInstruction_proper granted _ _ _ _)
  intro built crank _ _
  cases crank with
  | none => exact .throw _
  | some instruction =>
      exact signed_delivers granted isPayer (alone_entitled own) fun _ _ => Proper.tryForeign _

theorem cancelOrderByClientOrderId_proper (programId : Pubkey) (state : MarketPubkeys)
    (orders : Pubkey) (clientOrderId : UInt64) :
    Proper crates grant past
      (fun later bytes => Delivers crates later bytes ∧ SimulatedIn later bytes)
      (cancelOrderByClientOrderId crates rClient programId payer state orders clientOrderId) := by
  apply Fallible.Justified.bind (Proper.tryForeign _)
  intro built ix _ _
  exact signed_simulated_delivers granted isPayer (alone_entitled own) _ fun _ _ =>
    Proper.tryForeign _

theorem closeOpenOrders_proper (programId : Pubkey) (state : MarketPubkeys) (orders : Pubkey) :
    Proper crates grant past
      (fun later bytes => Delivers crates later bytes ∧ SimulatedIn later bytes)
      (closeOpenOrders crates rClient programId payer state orders) := by
  apply Fallible.Justified.bind (Proper.tryForeign _)
  intro built ix _ _
  apply signed_simulated_delivers granted isPayer (alone_entitled own)
  intro later tx
  split
  · exact .pure ‹_›
  · exact .throw _

theorem settleFunds_proper (programId : Pubkey) (state : MarketPubkeys)
    {signer : Option Keypair} (cosigner : ∀ key ∈ signer, key.pubkey ∈ grant.signers)
    (orders coinWallet pcWallet : Pubkey) :
    Proper crates grant past
      (fun later bytes => Delivers crates later bytes ∧ SimulatedIn later bytes)
      (settleFunds crates rClient programId payer state signer orders coinWallet pcWallet) := by
  refine signed_simulated_delivers granted isPayer ?_ _ fun _ tx => serialized_proper tx
  intro key among
  left
  rcases List.mem_cons.mp among with isPayer | isCosigner
  · exact isPayer ▸ own
  · exact cosigner key (Option.mem_toList.mp isCosigner)

theorem matchOrders_proper (programId : Pubkey) (state : MarketPubkeys)
    (coinWallet pcWallet : Pubkey) :
    Proper crates grant past
      (fun later bytes => Delivers crates later bytes ∧ SimulatedIn later bytes)
      (matchOrders crates rClient programId payer state coinWallet pcWallet) :=
  signed_simulated_delivers granted isPayer (alone_entitled own) _ fun _ tx => serialized_proper tx

end Builders

section NewAccounts

variable {payer : Pubkey} (granted : rClient ∈ grant.mutexes) (programId : Pubkey)

include granted

/-- The instruction that is returned creates the account of the new key. -/
theorem createDexAccount_proper (unpaddedLen : Nat) :
    Proper crates grant past
      (fun later made => Prepares crates later [made.2] payer made.1.pubkey programId)
      (createDexAccount crates rClient programId payer unpaddedLen) := by
  apply Fallible.Justified.bind Proper.generateKeypair
  intro made key _ generated
  apply Fallible.Justified.bind (Rpcnb.getMinimumBalanceForRentExemption_proper granted _)
  intro asked lamports grown funded
  apply Fallible.Justified.pure
  exact ⟨⟨key, grown generated, rfl⟩, lamports, unpaddedLen + 12, funded, List.mem_cons_self⟩

/-- An open-orders account that is not given is prepared, and its key is added. -/
theorem ordersOrNew_proper :
    InOut.Justified (ServiceWarrant crates grant) past
      (fun later opened => ∀ signer ∈ opened.2.1, signer.pubkey = opened.1 ∧
        Prepares crates later opened.2.2 payer opened.1 programId)
      (ordersOrNew crates rClient programId payer) := by
  apply InOut.Justified.bind .read
  intro read orders _ _
  cases orders with
  | some pk => exact .pure nofun
  | none =>
      apply InOut.Justified.bind (.lift (createDexAccount_proper granted programId _))
      intro made opened _ prepares
      apply InOut.Justified.pure
      intro signer among
      rw [List.mem_singleton.mp among]
      exact ⟨rfl, prepares⟩

end NewAccounts

section Orders

variable {payer : Keypair}

/-- Whether the open-orders account is given or new, the transaction that is built
for it is signed as it may be. -/
theorem setUp_proper (granted : rClient ∈ grant.mutexes) {programId : Pubkey}
    {build : Pubkey → List Keypair → List Instruction → Svc AnyError (List UInt8)}
    (builds : ∀ past ordersPubkey signers instructions,
      (∀ signer ∈ signers, signer.pubkey = ordersPubkey ∧
        Prepares crates past instructions payer.pubkey ordersPubkey programId) →
      Proper crates grant past (Delivers crates) (build ordersPubkey signers instructions))
    (slot : Option Pubkey) :
    Proper crates grant past (Delivers crates)
      ((setUp crates rClient programId payer.pubkey build).call slot) := by
  refine InOut.Justified.call ?_ slot
  apply InOut.Justified.bind (ordersOrNew_proper granted programId)
  intro found opened _ prepared
  apply InOut.Justified.bind (.assign _)
  intro filled _ grown _
  apply InOut.Justified.lift
  apply builds
  intro signer among
  obtain ⟨isOrders, prepares⟩ := prepared signer among
  exact ⟨isOrders, prepares.grow grown⟩

/-- The last instruction sets the account up that the others prepare. -/
theorem opened_entitled {programId ordersPubkey : Pubkey} {signers : List Keypair}
    {instructions : List Instruction} {instruction : Instruction}
    (own : payer.pubkey ∈ grant.signers)
    (prepared : ∀ signer ∈ signers, signer.pubkey = ordersPubkey ∧
      Prepares crates past instructions payer.pubkey ordersPubkey programId)
    (initialises : Initialises crates programId ordersPubkey instruction) :
    ∀ signer ∈ signers ++ [payer], signer.pubkey ∈ grant.signers ∨
      OpensAccount crates past (instructions ++ [instruction]) payer.pubkey signer.pubkey := by
  intro signer among
  rcases List.mem_append.mp among with isNew | isOwn
  · obtain ⟨isOrders, prepares⟩ := prepared signer isNew
    right
    rw [isOrders]
    exact ⟨programId, prepares.more (List.subset_append_left _ _), instruction,
      List.mem_append_right _ List.mem_cons_self, initialises⟩
  · exact .inl (List.mem_singleton.mp isOwn ▸ own)

variable (granted : rClient ∈ grant.mutexes) (isPayer : payer.pubkey ∈ grant.payer)
  (own : payer.pubkey ∈ grant.signers)

include granted isPayer own

theorem initOpenOrders_proper (programId : Pubkey) (state : MarketPubkeys)
    (slot : Option Pubkey) :
    Proper crates grant past (Delivers crates)
      ((initOpenOrders crates rClient programId payer state).call slot) := by
  rw [initOpenOrders_eq]
  apply setUp_proper granted
  intro later ordersPubkey signers instructions prepared
  apply Fallible.Justified.bind (Proper.tryForeign _)
  intro made instruction grown built
  apply signed_delivers granted isPayer
  · refine opened_entitled own ?_ (.openOrders built)
    intro signer among
    obtain ⟨isOrders, prepares⟩ := prepared signer among
    exact ⟨isOrders, prepares.grow grown⟩
  · exact fun _ _ => Proper.tryForeign _

theorem placeOrder_proper (programId wallet : Pubkey) (state : MarketPubkeys)
    (newOrder : NewOrderInstructionV3) (slot : Option Pubkey) :
    Proper crates grant past (Delivers crates)
      ((placeOrder crates rClient programId payer wallet state newOrder).call slot) := by
  rw [placeOrder_eq]
  apply setUp_proper granted
  intro later ordersPubkey signers instructions prepared
  apply signed_delivers granted isPayer
  · exact opened_entitled own prepared (.order rfl)
  · exact fun _ tx => serialized_proper tx

end Orders

section Listing

variable {payer : Keypair} (granted : rClient ∈ grant.mutexes)

include granted

/-- The transaction sets up the market of the keys: it opens the accounts of the market,
the vaults are open, and the market's key determines the vault signer. -/
structure SetsUpMarket (crates : Crates) (past : List ServiceEvent) (programId : Pubkey)
    (tx : Transaction) (keys : MarketPubkeys) : Prop where
  opened : ∃ payer, tx.payer = some payer ∧
    ∀ account ∈ [keys.market, keys.reqQ, keys.eventQ, keys.bids, keys.asks],
      OpensAccount crates past tx.instructions payer account
  vaults : ∀ vault ∈ [keys.coinVault, keys.pcVault],
    ∃ key, NewAccountIn crates past key ∧ key.pubkey = vault
  setUp : ∃ arguments instruction, SameRoles keys arguments ∧ arguments.programId = programId ∧
    arguments.instruction crates = .ok instruction ∧ instruction ∈ tx.instructions ∧
      LeastNonce crates keys.market programId arguments.vaultSignerNonce keys.vaultSignerKey

omit granted in
theorem SetsUpMarket.grow {later : List ServiceEvent} (grown : past ⊆ later) {programId : Pubkey}
    {tx : Transaction} {keys : MarketPubkeys}
    (setsUp : SetsUpMarket crates past programId tx keys) :
    SetsUpMarket crates later programId tx keys where
  opened := by
    obtain ⟨payer, pays, opens⟩ := setsUp.opened
    exact ⟨payer, pays, fun account among => (opens account among).grow grown⟩
  vaults := by
    intro vault among
    obtain ⟨key, opened, isVault⟩ := setsUp.vaults vault among
    exact ⟨key, opened.grow grown, isVault⟩
  setUp := setsUp.setUp

/-- The keys of the accounts that the DEX program is to own. -/
def ListingKeys.keypairs (keys : ListingKeys) : List Keypair :=
  [keys.marketKey, keys.reqQKey, keys.eventQKey, keys.bidsKey, keys.asksKey]

theorem genListingParams_proper (programId payer : Pubkey) :
    Proper crates grant past (fun later listing =>
        (∀ key ∈ listing.1.keypairs, Prepares crates later listing.2 payer key.pubkey programId) ∧
          LeastNonce crates listing.1.marketKey.pubkey programId listing.1.vaultSignerNonce
            listing.1.vaultSignerPk)
      (genListingParams crates rClient programId payer) := by
  apply Fallible.Justified.bind (createDexAccount_proper granted programId _)
  intro pastMarket market _ ofMarket
  apply Fallible.Justified.bind (createDexAccount_proper granted programId _)
  intro pastReqQ reqQ grownReqQ ofReqQ
  apply Fallible.Justified.bind (createDexAccount_proper granted programId _)
  intro pastEventQ eventQ grownEventQ ofEventQ
  apply Fallible.Justified.bind (createDexAccount_proper granted programId _)
  intro pastBids bids grownBids ofBids
  apply Fallible.Justified.bind (createDexAccount_proper granted programId _)
  intro pastAsks asks grownAsks ofAsks
  apply Fallible.Justified.bind (Proper.decoded _)
  intro later vaultSigner grown isFound
  apply Fallible.Justified.pure
  refine ⟨?_, leastNonce_of_found isFound⟩
  intro key among
  simp only [ListingKeys.keypairs, List.mem_cons, List.not_mem_nil, or_false] at among
  rcases among with isKey | isKey | isKey | isKey | isKey
  all_goals subst isKey
  · exact (((((ofMarket.grow grownReqQ).grow grownEventQ).grow grownBids).grow grownAsks).grow
      grown).more (by simp)
  · exact ((((ofReqQ.grow grownEventQ).grow grownBids).grow grownAsks).grow grown).more (by simp)
  · exact (((ofEventQ.grow grownBids).grow grownAsks).grow grown).more (by simp)
  · exact ((ofBids.grow grownAsks).grow grown).more (by simp)
  · exact (ofAsks.grow grown).more (by simp)

omit granted in
/-- The accounts of a listing are opened by their creation and the set-up of the market. -/
theorem ListingKeys.opened {keys : ListingKeys} {programId payer coinMint pcMint : Pubkey}
    {coinVault pcVault : Pubkey} {coinLotSize pcLotSize nonce dust : UInt64}
    {creates : List Instruction} {setUp : Instruction}
    (prepared : ∀ key ∈ keys.keypairs, Prepares crates past creates payer key.pubkey programId)
    (built : crates.initializeMarket keys.marketKey.pubkey programId coinMint pcMint coinVault
      pcVault none none none keys.bidsKey.pubkey keys.asksKey.pubkey keys.reqQKey.pubkey
      keys.eventQKey.pubkey coinLotSize pcLotSize nonce dust = .ok setUp) :
    ∀ key ∈ keys.keypairs,
      OpensAccount crates past (creates ++ [setUp]) payer key.pubkey := by
  intro key isKey
  refine ⟨programId, (prepared key isKey).more (List.subset_append_left _ _), setUp,
    List.mem_append_right _ List.mem_cons_self, .market ?_ built⟩
  have named := List.mem_map_of_mem (f := Keypair.pubkey) isKey
  simp only [ListingKeys.keypairs, List.map_cons, List.map_nil, List.mem_cons,
    List.not_mem_nil, or_false] at named ⊢
  tauto

/-- The vaults are open when the listing is returned; the accounts of the market
are opened by the transaction that comes with it, which sets the market up. -/
theorem listMarket_proper (submits : grant.submits) (isPayer : payer.pubkey ∈ grant.payer)
    (own : payer.pubkey ∈ grant.signers) (programId coinMint pcMint : Pubkey)
    (coinLotSize pcLotSize : UInt64) :
    Proper crates grant past (fun later listed => ∃ tx,
        crates.serialize tx = .ok listed.1 ∧ SignedIn later tx ∧
          SetsUpMarket crates later programId tx listed.2)
      (listMarket crates rClient programId payer coinMint pcMint coinLotSize pcLotSize) := by
  apply Fallible.Justified.bind (genListingParams_proper granted programId payer.pubkey)
  intro pastKeys listing _ holds
  obtain ⟨prepared, least⟩ := holds
  apply Fallible.Justified.bind
    (Rpcnb.createTokenAccount_proper granted submits isPayer own coinMint _)
  intro pastCoin coinVault grownCoin openedCoin
  apply Fallible.Justified.bind
    (Rpcnb.createTokenAccount_proper granted submits isPayer own pcMint _)
  intro pastPc pcVault grownPc openedPc
  apply Fallible.Justified.bind (Proper.tryForeign _)
  intro pastInit initMarket grownInit built
  have preparedStill : ∀ key ∈ listing.1.keypairs, Prepares crates pastInit listing.2
      payer.pubkey key.pubkey programId := fun key isKey =>
    (((prepared key isKey).grow grownCoin).grow grownPc).grow grownInit
  have opens := ListingKeys.opened preparedStill built
  have entitled : ∀ signer ∈ [payer, listing.1.marketKey, listing.1.reqQKey, listing.1.eventQKey,
      listing.1.bidsKey, listing.1.asksKey, listing.1.reqQKey, listing.1.eventQKey],
      signer.pubkey ∈ grant.signers ∨ OpensAccount crates pastInit
        (listing.2 ++ [initMarket]) payer.pubkey signer.pubkey := by
    intro signer among
    rcases List.mem_cons.mp among with isPayer | isAccount
    · exact .inl (isPayer ▸ own)
    · right
      apply opens signer
      simp only [ListingKeys.keypairs, List.mem_cons, List.not_mem_nil, or_false]
        at isAccount ⊢
      tauto
  apply Rpcnb.signed_proper granted isPayer entitled
  intro pastSigned tx grownSigned isSigned asAsked
  apply Fallible.Justified.bind (Proper.tryForeign _)
  intro later signedTx grown serializes
  apply Fallible.Justified.pure
  refine ⟨tx, serializes, isSigned.grow grown, ?_⟩
  obtain ⟨recentHash, signature, same⟩ := asAsked
  subst same
  constructor
  case opened =>
    refine ⟨payer.pubkey, rfl, ?_⟩
    intro account among
    obtain ⟨key, isKey, isAccount⟩ := List.mem_map.mp
      (show account ∈ listing.1.keypairs.map Keypair.pubkey from among)
    subst isAccount
    exact ((opens key isKey).grow grownSigned).grow grown
  case vaults =>
    intro vault among
    simp only [List.mem_cons, List.not_mem_nil, or_false] at among
    rcases among with isCoin | isPc
    · refine ⟨coinVault, ?_, isCoin.symm⟩
      exact (((openedCoin.grow grownPc).grow grownInit).grow grownSigned).grow grown
    · refine ⟨pcVault, ?_, isPc.symm⟩
      exact ((openedPc.grow grownInit).grow grownSigned).grow grown
  case setUp =>
    exact ⟨⟨listing.1.marketKey.pubkey, programId, coinMint, pcMint, coinVault.pubkey,
      pcVault.pubkey, listing.1.bidsKey.pubkey, listing.1.asksKey.pubkey, listing.1.reqQKey.pubkey,
      listing.1.eventQKey.pubkey, coinLotSize, pcLotSize, listing.1.vaultSignerNonce, 100⟩,
      initMarket, ⟨rfl, rfl, rfl, rfl, rfl, rfl, rfl⟩, rfl, built,
      List.mem_append_right _ List.mem_cons_self, least⟩

end Listing

end SerumClient

end RustHelper
