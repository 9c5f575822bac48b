import RustHelper.RequestGrants

/-!
# The handlers stay within what is granted

The loops of a batch keep every entry tied to its wire bytes and to the signature
that the cluster gave for it.  The other handlers decode the keys of the request
and pass them to one builder.
-/

namespace RustHelper

open Effect

section Batches

variable {crates : Crates} {grant : Grant} {past later : List ServiceEvent}

namespace Broadcast

/-- The entry is of the batch, and its signature the cluster's. -/
structure Tracked (crates : Crates) (batch : List (List UInt8)) (past : List ServiceEvent)
    (entry : Nat) (sr : SendResult) : Prop where
  among : batch[entry]? = some sr.serializedTx
  reads : crates.deserialize sr.serializedTx = .ok sr.tx
  accepted : ∀ signature, sr.sig = some signature →
    sr.tx.firstSignature = some signature ∧ AcceptedIn past entry sr.tx signature

theorem Tracked.grow (grown : past ⊆ later) {batch : List (List UInt8)} {entry : Nat}
    {sr : SendResult} (tracked : Tracked crates batch past entry sr) :
    Tracked crates batch later entry sr := by
  refine ⟨tracked.among, tracked.reads, ?_⟩
  intro signature isSig
  obtain ⟨isOwn, accepted⟩ := tracked.accepted signature isSig
  exact ⟨isOwn, grown accepted⟩

/-- All entries of the batch from the given index on are tracked. -/
structure TrackedFrom (crates : Crates) (batch : List (List UInt8)) (past : List ServiceEvent)
    (entry : Nat) (sigList : List SendResult) : Prop where
  length_eq : entry + sigList.length = batch.length
  entries : ∀ index sr, sigList[index]? = some sr → Tracked crates batch past (entry + index) sr

theorem trackedFrom_cons {batch : List (List UInt8)} {entry : Nat} {sr : SendResult}
    {sigList : List SendResult} :
    TrackedFrom crates batch past entry (sr :: sigList) ↔
      Tracked crates batch past entry sr ∧ TrackedFrom crates batch past (entry + 1) sigList := by
  constructor
  · intro tracked
    have length := tracked.length_eq
    rw [List.length_cons] at length
    refine ⟨tracked.entries 0 sr rfl, by omega, ?_⟩
    intro index other isOther
    have here := tracked.entries (index + 1) other isOther
    rwa [show entry + (index + 1) = entry + 1 + index by omega] at here
  · rintro ⟨first, rest⟩
    have length := rest.length_eq
    refine ⟨by rw [List.length_cons]; omega, ?_⟩
    intro index other isOther
    cases index with
    | zero =>
        cases isOther
        exact first
    | succ index =>
        have here := rest.entries index other isOther
        rwa [show entry + 1 + index = entry + (index + 1) by omega] at here

theorem TrackedFrom.grow (grown : past ⊆ later) {batch : List (List UInt8)} {entry : Nat}
    {sigList : List SendResult} (tracked : TrackedFrom crates batch past entry sigList) :
    TrackedFrom crates batch later entry sigList :=
  ⟨tracked.length_eq, fun index sr isEntry => (tracked.entries index sr isEntry).grow grown⟩

theorem deserializeBatch_tracked (txList : List (List UInt8)) :
    ∀ (before : List (List UInt8)) (sigList : List SendResult),
      deserializeBatch crates txList = .ok sigList →
        TrackedFrom crates (before ++ txList) past before.length sigList := by
  induction txList with
  | nil =>
      intro before sigList read
      cases read
      exact ⟨by simp, nofun⟩
  | cons wire txList ih =>
      intro before sigList read
      unfold deserializeBatch at read
      split at read
      · cases read
      · rename_i tx decoded
        cases rest : deserializeBatch crates txList with
        | err error => rw [rest] at read; cases read
        | panic message => rw [rest] at read; cases read
        | ok entries =>
            rw [rest] at read
            cases read
            apply trackedFrom_cons.mpr
            constructor
            · exact ⟨by simp [SendResult.new], decoded, nofun⟩
            · have tracked := ih (before ++ [wire]) entries rest
              rwa [List.append_assoc, List.length_append] at tracked

theorem ensureSent_proper (granted : .broadcastRpc ∈ grant.mutexes) {entry : Nat}
    {sr : SendResult} (tracked : Tracked crates grant.batch past entry sr) :
    Proper crates grant past (fun later sent => Tracked crates grant.batch later entry sent)
      (ensureSent entry sr) := by
  unfold ensureSent
  split
  · exact .pure tracked
  · apply Proper.locked granted
    intro answer
    have may : WarrantedOp crates (⟨.lock .broadcastRpc, answer⟩ :: past) grant
        (.rpc (.sendTransactionWithConfig (some entry) sr.tx sendConfig)) :=
      ⟨entry, _, rfl, tracked.among, tracked.reads⟩
    apply Fallible.Justified.bind (Proper.sendTransactionWithConfig _ _ _ may)
    intro asked result _ accepts
    cases result with
    | error e => exact .throw _
    | ok signature =>
        apply Fallible.Justified.pure
        intro dropped
        refine ⟨tracked.among, tracked.reads, ?_⟩
        intro other isSig
        cases isSig
        obtain ⟨isOwn, isEvent⟩ := accepts signature rfl
        exact ⟨isOwn, List.mem_cons_of_mem _ isEvent⟩

/-- Only a signature that the cluster gave is asked about. -/
theorem ensureConfirmed_proper (grantedRpc : .broadcastRpc ∈ grant.mutexes)
    (grantedTpu : .broadcastTpu ∈ grant.mutexes) {entry : Nat} {sr : SendResult}
    (tracked : Tracked crates grant.batch past entry sr) (confirmedTxCount : Nat) :
    Proper crates grant past (fun later visited => Tracked crates grant.batch later entry visited.1)
      (ensureConfirmed entry sr confirmedTxCount) := by
  have still (later : List ServiceEvent) (grown : past ⊆ later) (inSystem : Bool) :
      Tracked crates grant.batch later entry { sr with inSystem := inSystem } :=
    ⟨tracked.among, tracked.reads, (tracked.grow grown).accepted⟩
  unfold ensureConfirmed
  split
  · exact .pure tracked
  · apply Proper.locked grantedTpu
    intro answer
    apply Fallible.Justified.bind
      (Fallible.Justified.perform (I := service.toInterface) fun _ => tracked.among)
    intro transmitted sent grownSent _
    split
    · apply Fallible.Justified.bind
        (Fallible.Justified.perform (I := service.toInterface) fun _ => trivial)
      intro slept _ grownSlept _
      have grown : past ⊆ slept := fun event isEvent =>
        grownSlept (grownSent (List.mem_cons_of_mem _ isEvent))
      apply Proper.locked grantedRpc
      intro answerRpc
      split
      · rename_i signature isSig
        have may : WarrantedOp crates (⟨.lock .broadcastRpc, answerRpc⟩ :: slept) grant
            (.rpc (.confirmTransactionWithCommitment (some entry) signature .finalized)) :=
          ⟨sr.tx, sendConfig, List.mem_cons_of_mem _ (grown (tracked.accepted signature isSig).2)⟩
        apply Fallible.Justified.bind (Proper.rpc _ may)
        intro asked reply grownAsked _
        have kept (inSystem : Bool) (first second : ServiceEvent) :=
          still (first :: second :: asked) (fun event isEvent =>
            List.mem_cons_of_mem _ (List.mem_cons_of_mem _
              (grownAsked (List.mem_cons_of_mem _ (grown isEvent))))) inSystem
        split
        · exact .throw _
        · split
          · exact .pure fun _ _ => kept true _ _
          · exact .pure fun _ _ => kept sr.inSystem _ _
      · exact .throw _
    · exact .throw _

theorem sendPass_proper (grantedRpc : .broadcastRpc ∈ grant.mutexes)
    (grantedTpu : .broadcastTpu ∈ grant.mutexes) (sigList : List SendResult) :
    ∀ (past : List ServiceEvent) (entry confirmedTxCount : Nat),
      TrackedFrom crates grant.batch past entry sigList →
        Proper crates grant past
          (fun later passed => TrackedFrom crates grant.batch later entry passed.1)
          (sendPass entry sigList confirmedTxCount) := by
  induction sigList with
  | nil => exact fun _ _ _ tracked => .pure tracked
  | cons sr sigList ih =>
      intro past entry confirmedTxCount tracked
      obtain ⟨first, rest⟩ := trackedFrom_cons.mp tracked
      have visits : Proper crates grant past
          (fun later visited => Tracked crates grant.batch later entry visited.1)
          (visit entry sr confirmedTxCount) := by
        apply Fallible.Justified.bind (ensureSent_proper grantedRpc first)
        intro later sent _ trackedSent
        exact ensureConfirmed_proper grantedRpc grantedTpu trackedSent confirmedTxCount
      apply visits.bind
      intro visitedPast visited grownVisited trackedFirst
      apply Fallible.Justified.bind (ih visitedPast (entry + 1) visited.2 (rest.grow grownVisited))
      intro later passed grown trackedRest
      exact .pure (trackedFrom_cons.mpr ⟨trackedFirst.grow grown, trackedRest⟩)

/-- However long the batch is followed, its entries stay tracked. -/
theorem sendLoop_proper (grantedRpc : .broadcastRpc ∈ grant.mutexes)
    (grantedTpu : .broadcastTpu ∈ grant.mutexes) (passes : Nat) :
    ∀ (past : List ServiceEvent) (sigList : List SendResult) (confirmedTxCount : Nat),
      TrackedFrom crates grant.batch past 0 sigList →
        Proper crates grant past (fun later reply => ∃ sigList,
            TrackedFrom crates grant.batch later 0 sigList ∧
              (reply = .response (genSigList sigList) ∨ ∃ count, reply = .running sigList count))
          (sendLoop crates passes sigList confirmedTxCount) := by
  induction passes with
  | zero =>
      intro past sigList confirmedTxCount tracked
      exact .pure ⟨sigList, tracked, .inr ⟨_, rfl⟩⟩
  | succ passes ih =>
      intro past sigList confirmedTxCount tracked
      apply Fallible.Justified.bind
        (Fallible.Justified.perform (I := service.toInterface) fun _ => trivial)
      intro timed elapsed grownTimed _
      split
      · apply Fallible.Justified.bind (sendPass_proper grantedRpc grantedTpu sigList timed 0
          confirmedTxCount (tracked.grow grownTimed))
        intro later passed _ trackedPass
        exact ih later passed.1 passed.2 trackedPass
      · exact .pure ⟨sigList, tracked.grow grownTimed, .inl rfl⟩

theorem accepted_of_tracked {batch : List (List UInt8)} {sigList : List SendResult}
    (tracked : TrackedFrom crates batch past 0 sigList) :
    Given crates batch past (genSigList sigList) := by
  have length := tracked.length_eq
  refine ⟨by rw [genSigList, List.length_map]; omega, ?_⟩
  intro entry bytes isEntry nonempty
  rw [genSigList, List.getElem?_map, Option.map_eq_some_iff] at isEntry
  obtain ⟨sr, isSr, isBytes⟩ := isEntry
  have here := tracked.entries entry sr isSr
  rw [Nat.zero_add] at here
  cases isSig : sr.sig with
  | none =>
      rw [isSig] at isBytes
      exact absurd isBytes.symm nonempty
  | some signature =>
      rw [isSig] at isBytes
      obtain ⟨isOwn, accepted⟩ := here.accepted signature isSig
      exact ⟨sr.serializedTx, sr.tx, signature, here.among, here.reads, isOwn, accepted, isBytes⟩

end Broadcast

end Batches

section Handlers

variable {crates : Crates} {past : List ServiceEvent}

theorem fieldKey_of_mapErr {wire : PbKeypair} {translate : Status → Status} {key : Keypair}
    (decoded : (convertKeypair crates wire).mapErr translate = .ok key) :
    key.pubkey ∈ fieldKey crates (some wire) := by
  cases converted : convertKeypair crates wire with
  | ok read =>
      rw [converted] at decoded
      cases decoded
      exact ⟨wire, key, rfl, converted, rfl⟩
  | err error => rw [converted] at decoded; cases decoded
  | panic message => rw [converted] at decoded; cases decoded

namespace Broadcast

theorem keypairField_key {field : Option PbKeypair} {missing : Status} {bad : Status → Status}
    {key : Keypair} (decoded : keypairField crates field missing bad = .ok key) :
    key.pubkey ∈ fieldKey crates field := by
  rcases field with _ | ⟨_ | input⟩
  · cases decoded
  · cases decoded
  · exact fieldKey_of_mapErr decoded

theorem genesisArguments_keys {r : Genesis} {payer mint : Keypair} {owner : Pubkey}
    {decimals : UInt8}
    (decoded : genesisArguments crates r = .ok (payer, mint, owner, decimals)) :
    payer.pubkey ∈ fieldKey crates r.payer ∧ mint.pubkey ∈ fieldKey crates r.mint := by
  obtain ⟨payerRead, payerField, decoded⟩ := Outcome.bind_eq_ok_iff.mp decoded
  obtain ⟨mintRead, mintField, decoded⟩ := Outcome.bind_eq_ok_iff.mp decoded
  obtain ⟨ownerRead, _, decoded⟩ := Outcome.bind_eq_ok_iff.mp decoded
  split at decoded
  · cases decoded
    exact ⟨keypairField_key payerField, keypairField_key mintField⟩
  · cases decoded

theorem runGenesis_proper (r : Genesis) :
    Proper crates ((Request.runGenesis r).grant crates) past
      (fun later _ => ∃ tx, ConfirmedIn later tx) (runGenesis crates r) := by
  apply Fallible.Justified.bind (Proper.decoded _)
  intro pastFields arguments _ decoded
  obtain ⟨payer, mint, owner, decimals⟩ := arguments
  obtain ⟨ofPayer, ofMint⟩ := genesisArguments_keys decoded
  have own : ∀ signer ∈ [payer, mint],
      signer.pubkey ∈ ((Request.runGenesis r).grant crates).signers := by
    intro signer among
    simp only [List.mem_cons, List.not_mem_nil, or_false] at among
    rcases among with isPayer | isMint
    · exact .inl (isPayer ▸ ofPayer)
    · exact .inr (isMint ▸ ofMint)
  apply Fallible.Justified.bind (.mapErr
    (Rpcnb.createAndInitMint_proper rfl trivial ofPayer own owner decimals))
  intro later signature _ confirmed
  exact .pure confirmed

theorem runInitializeTokenAccount_proper (laws : crates.KeypairLaws)
    (r : InitializeTokenAccount) :
    Proper crates ((Request.runInitializeTokenAccount r).grant crates) past
      (fun later wire => ∃ key, NewAccountIn crates later key ∧
        reverseKeypair crates key = .ok wire)
      (runInitializeTokenAccount crates r) := by
  apply Fallible.Justified.bind (Proper.unit_lift _)
  intro pastMint mint _ _
  apply Fallible.Justified.bind (Proper.decoded _)
  intro pastOwner owner _ decoded
  have ofOwner := keypairField_key decoded
  apply Fallible.Justified.bind (Util.copied_proper laws owner)
  intro pastCopy owner1 _ same
  subst same
  have own : owner1.pubkey ∈ ((Request.runInitializeTokenAccount r).grant crates).signers :=
    Or.inl ofOwner
  apply Fallible.Justified.bind (.mapErr (Util.initializeTokenAccount_proper laws rfl trivial
    ofOwner own mint))
  intro later key _ opened
  apply Fallible.Justified.lift
  intro wire encoded
  refine ⟨key, opened, ?_⟩
  cases reversed : reverseKeypair crates key <;> rw [reversed] at encoded <;> cases encoded
  rfl

theorem runCreateAccount_proper (r : CreateAccount) :
    Proper crates ((Request.runCreateAccount r).grant crates) past
      (fun later wire => ∃ key, NewAccountIn crates later key ∧
        reverseKeypair crates key = .ok wire)
      (runCreateAccount crates r) := by
  apply Fallible.Justified.bind (Proper.unit_lift _)
  intro pastMint mint _ _
  apply Fallible.Justified.bind (Proper.unit_lift _)
  intro pastOwner owner _ _
  apply Fallible.Justified.bind (Proper.decoded _)
  intro pastPayer payer _ decoded
  have ofPayer := keypairField_key decoded
  have own : payer.pubkey ∈ ((Request.runCreateAccount r).grant crates).signers := Or.inl ofPayer
  apply Fallible.Justified.bind (.mapErr (Util.createAccount_proper rfl trivial ofPayer own mint
    owner))
  intro later key _ opened
  exact .lift fun wire encoded => ⟨key, opened, encoded⟩

theorem runMint_proper (laws : crates.KeypairLaws) (r : Mint) :
    Proper crates ((Request.runMint r).grant crates) past
      (fun later _ => ∃ tx, ConfirmedIn later tx) (runMint crates r) := by
  apply Fallible.Justified.bind (Proper.decoded _)
  intro pastPayer payer _ decoded
  have ofPayer := keypairField_key decoded
  apply Fallible.Justified.bind (Proper.decoded _)
  intro pastSigner signer _ signerDecoded
  have ofSigner := keypairField_key signerDecoded
  apply Fallible.Justified.bind (Proper.unit_lift _)
  intro pastMint mint _ _
  apply Fallible.Justified.bind (Proper.unit_lift _)
  intro pastRecipient recipient _ _
  have own : ∀ key ∈ [payer, signer],
      key.pubkey ∈ ((Request.runMint r).grant crates).signers := by
    intro key among
    simp only [List.mem_cons, List.not_mem_nil, or_false] at among
    rcases among with isPayer | isSigner
    · exact .inl (isPayer ▸ ofPayer)
    · exact .inr (isSigner ▸ ofSigner)
  split
  · exact .throw _
  · exact .mapErr (Util.mintToExistingAccount_proper laws rfl trivial ofPayer own _ _ _)

theorem sendTx_proper (passes : Nat) (txList : List (List UInt8)) :
    Proper crates ((Request.sendTx txList).grant crates) past
      (fun later reply =>
        Response.Backed crates (.sendTx txList) later (.batch reply))
      (sendTx crates passes txList) := by
  apply Fallible.Justified.bind (Proper.decoded _)
  intro start sigList _ read
  have tracked : TrackedFrom crates txList start 0 sigList :=
    deserializeBatch_tracked txList [] sigList read
  have grantedRpc : .broadcastRpc ∈ ((Request.sendTx txList).grant crates).mutexes := Or.inl rfl
  have grantedTpu : .broadcastTpu ∈ ((Request.sendTx txList).grant crates).mutexes := Or.inr rfl
  apply (sendLoop_proper grantedRpc grantedTpu passes start sigList 0 tracked).mono
  intro later reply _ ended
  obtain ⟨left, trackedLeft, isReply⟩ := ended
  rcases isReply with isResponse | ⟨count, isRunning⟩
  · subst isResponse
    exact accepted_of_tracked trackedLeft
  · subst isRunning
    exact accepted_of_tracked trackedLeft

end Broadcast

namespace DexHandlers

theorem keypairField_key {field : Option PbKeypair} {errmsg : String} {key : Keypair}
    (decoded : keypairField crates field errmsg = .ok key) :
    key.pubkey ∈ fieldKey crates field := by
  cases field with
  | none => cases decoded
  | some wire => exact fieldKey_of_mapErr decoded

theorem optionalKeypair_key {field : Option PbKeypair} {error : Status} {read : Option Keypair}
    (decoded : optionalKeypair crates field error = .ok read) :
    ∀ key ∈ read, key.pubkey ∈ fieldKey crates field := by
  intro key isKey
  cases isKey
  cases field with
  | none => cases decoded
  | some wire =>
      obtain ⟨found, converted, isFound⟩ := Outcome.bind_eq_ok_iff.mp decoded
      cases isFound
      exact fieldKey_of_mapErr converted

theorem marketField_proper {grant : Grant} (granted : .dexRpc ∈ grant.mutexes)
    (programId : Pubkey) (market : Option PbMarketState) :
    Proper crates grant past
      (fun later keys => ∃ source, readMarket market = some source ∧
        source.Resolves crates later programId keys)
      (marketField crates programId market) := by
  rcases market with _ | ⟨_ | id | keys⟩
  · exact .throw _
  · exact .throw _
  · apply Fallible.Justified.mapErr
    apply Fallible.Justified.bind (Proper.decoded _)
    intro read key _ decoded
    apply Fallible.Justified.mapErr
    apply (SerumClient.getKeysForMarket_proper granted programId key).mono
    intro later keys _ readFrom
    exact ⟨.account key, readMarket_of_id decoded, readFrom⟩
  · apply Fallible.Justified.mapErr
    apply Fallible.Justified.lift
    intro given decoded
    exact ⟨.keys given, readMarket_of_state decoded, rfl⟩

theorem getMarketPubkeys_proper (r : MarketRequest) :
    Proper crates ((Request.getMarketPubkeys r).grant crates) past
      (fun later keys => Response.Backed crates (.getMarketPubkeys r) later (.marketPubkeys keys))
      (getMarketPubkeys crates r) := by
  apply Fallible.Justified.bind (Proper.decoded _)
  intro pastProgram programId _ isProgram
  apply Fallible.Justified.bind (Proper.decoded _)
  intro pastMarket market _ isMarket
  apply Fallible.Justified.bind (.mapErr (SerumClient.getKeysForMarket_proper rfl _ _))
  intro later state _ readFrom
  exact .pure ⟨programId, market, state, readProgramId_of_field isProgram,
    readPubkey_of_field isMarket, readFrom, rfl⟩

theorem listMarket_proper (r : ListMarketRequest) :
    Proper crates ((Request.listMarket r).grant crates) past
      (fun later listed => Response.Backed crates (.listMarket r) later (.listing listed))
      (listMarket crates r) := by
  apply Fallible.Justified.bind (Proper.decoded _)
  intro pastPayer payer _ decoded
  have ofPayer := keypairField_key decoded
  apply Fallible.Justified.bind (Proper.decoded _)
  intro pastProgram programId _ isProgram
  apply Fallible.Justified.bind (Proper.unit_lift _)
  intro pastCoin coinMint _ _
  apply Fallible.Justified.bind (Proper.unit_lift _)
  intro pastPc pcMint _ _
  have own : payer.pubkey ∈ ((Request.listMarket r).grant crates).signers := Or.inl ofPayer
  apply Fallible.Justified.bind (.mapErr (SerumClient.listMarket_proper rfl trivial ofPayer own
    programId coinMint pcMint _ _))
  intro later listed _ backed
  obtain ⟨tx, encodes, signed, setsUp⟩ := backed
  exact .pure ⟨programId, listed.1, tx, listed.2, readProgramId_of_field isProgram, rfl, encodes,
    signed, setsUp⟩

/-- The common end of the handlers that return a signed transaction. -/
theorem signedTx_proper {grant : Grant} {build : Svc AnyError (List UInt8)} {message : String}
    {returns : List ServiceEvent → List UInt8 → Prop}
    (proper : Proper crates grant past returns build) :
    Proper crates grant past (fun later signed => returns later signed.tx) (do
      let signedTx ← Fallible.mapErr (fun _ => Status.internal message) build
      pure (⟨signedTx⟩ : SignedTx)) :=
  .bind (.mapErr proper) fun _ _ _ holds => .pure holds

theorem consumeEvents_proper (r : CrankRequest) :
    Proper crates ((Request.consumeEvents r).grant crates) past
      (fun later signed => Delivers crates later signed.tx) (consumeEvents crates r) := by
  have granted : .dexRpc ∈ ((Request.consumeEvents r).grant crates).mutexes := rfl
  apply Fallible.Justified.bind (Proper.unit_lift _)
  intro pastProgram programId _ _
  apply Fallible.Justified.bind (Proper.decoded _)
  intro pastPayer payer _ decoded
  have ofPayer := keypairField_key decoded
  apply Fallible.Justified.bind (marketField_proper granted _ _)
  intro pastState state _ _
  apply Fallible.Justified.bind (Proper.unit_lift _)
  intro pastCoin coinWallet _ _
  apply Fallible.Justified.bind (Proper.unit_lift _)
  intro pastPc pcWallet _ _
  have own : payer.pubkey ∈ ((Request.consumeEvents r).grant crates).signers := Or.inl ofPayer
  exact signedTx_proper (SerumClient.consumeEvents_proper granted ofPayer own _ _ _ _)

theorem initOpenOrder_proper (r : OpenOrderRequest) :
    Proper crates ((Request.initOpenOrder r).grant crates) past
      (fun later signed => Delivers crates later signed.tx) (initOpenOrder crates r) := by
  have granted : .dexRpc ∈ ((Request.initOpenOrder r).grant crates).mutexes := rfl
  apply Fallible.Justified.bind (Proper.unit_lift _)
  intro pastProgram programId _ _
  apply Fallible.Justified.bind (Proper.decoded _)
  intro pastOwner owner _ decoded
  have ofOwner := keypairField_key decoded
  apply Fallible.Justified.bind (marketField_proper granted _ _)
  intro pastState state _ _
  apply Fallible.Justified.bind (Proper.unit_lift _)
  intro pastOrders orders _ _
  have own : owner.pubkey ∈ ((Request.initOpenOrder r).grant crates).signers := Or.inl ofOwner
  exact signedTx_proper (SerumClient.initOpenOrders_proper granted ofOwner own _ _ _)

theorem newOrder_proper (r : PbOrder) :
    Proper crates ((Request.newOrder r).grant crates) past
      (fun later signed => Delivers crates later signed.tx) (newOrder crates r) := by
  have granted : .dexRpc ∈ ((Request.newOrder r).grant crates).mutexes := rfl
  apply Fallible.Justified.bind (Proper.unit_lift _)
  intro pastProgram programId _ _
  apply Fallible.Justified.bind (Proper.decoded _)
  intro pastPayer payer _ decoded
  have ofPayer := keypairField_key decoded
  apply Fallible.Justified.bind (Proper.unit_lift _)
  intro pastWallet wallet _ _
  apply Fallible.Justified.bind (marketField_proper granted _ _)
  intro pastState state _ _
  apply Fallible.Justified.bind (Proper.unit_lift _)
  intro pastOrders orders _ _
  apply Fallible.Justified.bind (Proper.unit_lift _)
  intro pastOrder order _ _
  have own : payer.pubkey ∈ ((Request.newOrder r).grant crates).signers := Or.inl ofPayer
  exact signedTx_proper (SerumClient.placeOrder_proper granted ofPayer own _ _ _ _ _)

theorem cancelOrder_proper (r : CancelOrderRequest) :
    Proper crates ((Request.cancelOrder r).grant crates) past
      (fun later signed => Delivers crates later signed.tx ∧ SimulatedIn later signed.tx)
      (cancelOrder crates r) := by
  have granted : .dexRpc ∈ ((Request.cancelOrder r).grant crates).mutexes := rfl
  apply Fallible.Justified.bind (Proper.unit_lift _)
  intro pastProgram programId _ _
  apply Fallible.Justified.bind (Proper.decoded _)
  intro pastOwner owner _ decoded
  have ofOwner := keypairField_key decoded
  apply Fallible.Justified.bind (marketField_proper granted _ _)
  intro pastState state _ _
  apply Fallible.Justified.bind (Proper.unit_lift _)
  intro pastOrders orders _ _
  have own : owner.pubkey ∈ ((Request.cancelOrder r).grant crates).signers := Or.inl ofOwner
  exact signedTx_proper (SerumClient.cancelOrderByClientOrderId_proper granted ofOwner own _ _ _ _)

theorem settleFunds_proper (r : SettleFundsRequest) :
    Proper crates ((Request.settleFunds r).grant crates) past
      (fun later signed => Delivers crates later signed.tx ∧ SimulatedIn later signed.tx)
      (settleFunds crates r) := by
  have granted : .dexRpc ∈ ((Request.settleFunds r).grant crates).mutexes := rfl
  apply Fallible.Justified.bind (Proper.decoded _)
  intro pastPayer payer _ decoded
  have ofPayer := keypairField_key decoded
  apply Fallible.Justified.bind (Proper.unit_lift _)
  intro pastProgram programId _ _
  apply Fallible.Justified.bind (marketField_proper granted _ _)
  intro pastState state _ _
  apply Fallible.Justified.bind (Proper.unit_lift _)
  intro pastOrder order _ _
  apply Fallible.Justified.bind (Proper.unit_lift _)
  intro pastCoin coinWallet _ _
  apply Fallible.Justified.bind (Proper.unit_lift _)
  intro pastPc pcWallet _ _
  apply Fallible.Justified.bind (Proper.decoded _)
  intro pastSigner signer _ signerDecoded
  have own : payer.pubkey ∈ ((Request.settleFunds r).grant crates).signers := Or.inl ofPayer
  have cosigner : ∀ key ∈ signer,
      key.pubkey ∈ ((Request.settleFunds r).grant crates).signers := by
    intro key isKey
    exact Or.inr (optionalKeypair_key signerDecoded key isKey)
  exact signedTx_proper (SerumClient.settleFunds_proper granted ofPayer own _ _ cosigner _ _ _)

theorem closeOpenOrders_proper (r : OpenOrderRequest) :
    Proper crates ((Request.closeOpenOrders r).grant crates) past
      (fun later signed => Delivers crates later signed.tx ∧ SimulatedIn later signed.tx)
      (closeOpenOrders crates r) := by
  have granted : .dexRpc ∈ ((Request.closeOpenOrders r).grant crates).mutexes := rfl
  apply Fallible.Justified.bind (Proper.unit_lift _)
  intro pastProgram programId _ _
  apply Fallible.Justified.bind (Proper.decoded _)
  intro pastOwner owner _ decoded
  have ofOwner := keypairField_key decoded
  apply Fallible.Justified.bind (marketField_proper granted _ _)
  intro pastState state _ _
  apply Fallible.Justified.bind (Proper.unit_lift _)
  intro pastOrders orders _ _
  have own : owner.pubkey ∈ ((Request.closeOpenOrders r).grant crates).signers := Or.inl ofOwner
  exact signedTx_proper (SerumClient.closeOpenOrders_proper granted ofOwner own _ _ _)

theorem matchOrders_proper (r : CrankRequest) :
    Proper crates ((Request.matchOrders r).grant crates) past
      (fun later signed => Delivers crates later signed.tx ∧ SimulatedIn later signed.tx)
      (matchOrders crates r) := by
  have granted : .dexRpc ∈ ((Request.matchOrders r).grant crates).mutexes := rfl
  apply Fallible.Justified.bind (Proper.unit_lift _)
  intro pastProgram programId _ _
  apply Fallible.Justified.bind (Proper.decoded _)
  intro pastPayer payer _ decoded
  have ofPayer := keypairField_key decoded
  apply Fallible.Justified.bind (marketField_proper granted _ _)
  intro pastState state _ _
  apply Fallible.Justified.bind (Proper.unit_lift _)
  intro pastCoin coinWallet _ _
  apply Fallible.Justified.bind (Proper.unit_lift _)
  intro pastPc pcWallet _ _
  have own : payer.pubkey ∈ ((Request.matchOrders r).grant crates).signers := Or.inl ofPayer
  exact signedTx_proper (SerumClient.matchOrders_proper granted ofPayer own _ _ _ _)

theorem spawned_proper {grant : Grant} (granted : .dexRuntime ∈ grant.mutexes)
    (side : MonitoredSide) (target : Pubkey) :
    Proper crates grant past
      (fun later _ => (⟨.spawnMonitor side target, ()⟩ : ServiceEvent) ∈ later)
      (locked .dexRuntime (spawnMonitor side target) : Svc Status Unit) := by
  apply Proper.locked granted
  intro answer
  apply (Fallible.Justified.perform (I := service.toInterface) fun _ => trivial).mono
  intro later spawned _ isEvent dropped
  exact List.mem_cons_of_mem _ isEvent

theorem monitorQueue_proper (r : MonitorQueueRequest) :
    Proper crates ((Request.monitorQueue r).grant crates) past
      (fun later _ => Response.Backed crates (.monitorQueue r) later .stream)
      (monitorQueue crates r) := by
  have grantedRpc : .dexRpc ∈ ((Request.monitorQueue r).grant crates).mutexes := Or.inl rfl
  have grantedRuntime : .dexRuntime ∈ ((Request.monitorQueue r).grant crates).mutexes :=
    Or.inr rfl
  apply Fallible.Justified.bind (Proper.decoded _)
  intro pastProgram programId _ isProgram
  apply Fallible.Justified.bind (marketField_proper grantedRpc _ _)
  intro pastState state _ holds
  obtain ⟨source, isSource, resolves⟩ := holds
  have isIntent : (Request.monitorQueue r).intent crates =
      some (.trade programId source .monitor) := by
    simp [Request.intent, readTrade, readProgramId_of_field isProgram, isSource]
  apply Fallible.Justified.bind (spawned_proper grantedRuntime .bids state.bids)
  intro pastBids _ grownBids bidsSpawned
  apply (spawned_proper grantedRuntime .asks state.asks).mono
  intro later _ grown asksSpawned
  exact ⟨programId, source, state, isIntent, .grow grown (.grow grownBids resolves),
    grown bidsSpawned, asksSpawned⟩

end DexHandlers

end Handlers

end RustHelper
