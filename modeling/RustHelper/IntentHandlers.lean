import RustHelper.IntentBuilders
import RustHelper.ServiceResponses

/-!
# What is signed for a request is what it asks for

A handler reads the fields of its request one after the other, and does nothing but
look the market up before it has read them all.  So a request that cannot be read
leaves no trace, and what is signed for the others serves what they ask for, as does
what they are answered with.
-/

namespace RustHelper

open Effect

/-- The account that the task of a side follows. -/
def MarketPubkeys.followed (keys : MarketPubkeys) : MonitoredSide → Pubkey
  | .bids => keys.bids
  | .asks => keys.asks

/-- Only the market is looked up before the request is read as a whole, and then
only what it asks for is signed or followed. -/
def Obeys (crates : Crates) (request : Request) (past : List ServiceEvent)
    (event : ServiceEvent) : Prop :=
  match event.op with
  | .lock _ => True
  | .unlock _ => True
  | .rpc (.getAccountData address) =>
      request.marketAddress = some address ∨ ∃ intent, request.intent crates = some intent
  | .sign instructions _ _ =>
      ∃ intent, request.intent crates = some intent ∧ intent.Calls crates past instructions
  | .spawnMonitor side target => ∃ programId market keys,
      request.intent crates = some (.trade programId market .monitor) ∧
        market.Resolves crates past programId keys ∧ target = keys.followed side
  | _ => ∃ intent, request.intent crates = some intent

section Rules

variable {crates : Crates} {request : Request} {past : List ServiceEvent} {intent : Intent}

theorem onlySigning_of_intent (isIntent : request.intent crates = some intent) :
    OnlySigning (Obeys crates request) := by
  intro past op answer unsigned unspawned
  cases op with
  | lock mutex => exact trivial
  | unlock mutex => exact trivial
  | sign instructions payer signers => exact absurd rfl (unsigned _ _ _)
  | spawnMonitor side target => exact absurd rfl (unspawned _ _)
  | rpc call =>
      cases call with
      | getAccountData address => exact .inr ⟨intent, isIntent⟩
      | _ => exact ⟨intent, isIntent⟩
  | _ => exact ⟨intent, isIntent⟩

theorem serving_of_intent (isIntent : request.intent crates = some intent) :
    Serving (Obeys crates request) (fun past => Intent.Calls crates past intent) where
  only := onlySigning_of_intent isIntent
  signs _ _ calls _ _ _ := ⟨intent, isIntent, calls⟩
  grow _ _ _ grown calls := calls.grow grown

/-- A handler that is answered has read its request, and the response gives what the
request asks for. -/
abbrev Obedient {ε α : Type} (crates : Crates) (request : Request) (past : List ServiceEvent)
    (response : α → Response) (program : Svc ε α) : Prop :=
  Fallible.Justified (Obeys crates request) past
    (fun later value => ∃ intent, request.intent crates = some intent ∧
      Fulfils crates later intent (response value)) program

theorem decodes {ε α : Type} (outcome : Outcome ε α) :
    Fallible.Justified (Obeys crates request) past (fun _ value => outcome = .ok value)
      (Fallible.lift outcome : Svc ε α) := .lift fun _ isOk => isOk

/-- The end of a handler that hands a transaction over. -/
theorem Obedient.signedTx {build : Svc AnyError (List UInt8)} {message : String}
    {programId : Pubkey} {market : MarketSource} {act : MarketAct}
    (isIntent : request.intent crates = some (.trade programId market act))
    (follows : Serving (Obeys crates request)
        (fun past => Intent.Calls crates past (.trade programId market act)) →
      Fallible.Justified (Obeys crates request) past
        (HandsOver crates fun past => Intent.Calls crates past (.trade programId market act))
        build) :
    Obedient crates request past .signedTx (do
      let signedTx ← Fallible.mapErr (fun _ => Status.internal message) build
      pure (⟨signedTx⟩ : DexHandlers.SignedTx)) := by
  apply Fallible.Justified.bind (.mapErr (follows (serving_of_intent isIntent)))
  intro later bytes _ hands
  obtain ⟨tx, encoded, signed, calls⟩ := hands
  exact .pure ⟨_, isIntent, .signedTx encoded signed calls⟩

theorem getKeysForMarket_obeys {programId market : Pubkey}
    (named : request.marketAddress = some market) :
    Fallible.Justified (Obeys crates request) past
      (fun later keys => SerumClient.ReadFrom crates later programId market keys)
      (SerumClient.getKeysForMarket crates .dexRpc programId market) := by
  apply Fallible.Justified.withGuard (L := service) (fun _ => trivial) fun _ _ => trivial
  intro answer
  apply Fallible.Justified.bind
    (Fallible.Justified.perform (I := service.toInterface) fun _ => Or.inl named)
  intro asked reply _ isEvent
  split
  · rename_i accountData
    apply Fallible.Justified.lift
    intro keys decoded dropped
    exact ⟨accountData, List.mem_cons_of_mem _ isEvent, decoded⟩
  · exact .throw _

/-- The market is the one that the request names. -/
theorem marketField_obeys {programId : Pubkey} {market : Option PbMarketState}
    (named : (readMarket market).bind MarketSource.address = request.marketAddress) :
    Fallible.Justified (Obeys crates request) past
      (fun later keys => ∃ source, readMarket market = some source ∧
        source.Resolves crates later programId keys)
      (DexHandlers.marketField crates programId market) := by
  rcases market with _ | ⟨_ | id | keys⟩
  · exact .throw _
  · exact .throw _
  · apply Fallible.Justified.mapErr
    apply Fallible.Justified.bind (decodes _)
    intro read key _ isKey
    have isSource := readMarket_of_id isKey
    rw [isSource] at named
    apply Fallible.Justified.mapErr
    apply (getKeysForMarket_obeys named.symm).mono
    intro later keys _ readFrom
    exact ⟨.account key, isSource, readFrom⟩
  · apply Fallible.Justified.mapErr
    apply Fallible.Justified.lift
    intro given isGiven
    exact ⟨.keys given, readMarket_of_state isGiven, rfl⟩

end Rules

section Handlers

variable {crates : Crates} {past : List ServiceEvent}

namespace Broadcast

theorem readBatch_of_deserialize {txList : List (List UInt8)} {sigList : List SendResult}
    (decoded : deserializeBatch crates txList = .ok sigList) :
    ∃ batch, readBatch crates txList = some batch := by
  induction txList generalizing sigList with
  | nil => exact ⟨[], rfl⟩
  | cons serializedTx txList ih =>
      simp only [deserializeBatch] at decoded
      split at decoded
      · cases decoded
      · rename_i tx reads
        obtain ⟨rest, isRest, -⟩ := Outcome.bind_eq_ok_iff.mp decoded
        obtain ⟨batch, isBatch⟩ := ih isRest
        have isHead : (crates.deserialize serializedTx).toOption = some tx := by
          rw [reads]
          rfl
        refine ⟨tx :: batch, ?_⟩
        rw [readBatch] at isBatch ⊢
        simp [List.mapM_cons, isBatch, isHead]

/-- The entries are read one by one. -/
theorem readBatch_entries {txList : List (List UInt8)} {batch : List Transaction}
    (isBatch : readBatch crates txList = some batch) :
    batch.length = txList.length ∧ ∀ (entry : Nat) (wire : List UInt8) (tx : Transaction),
      txList[entry]? = some wire → crates.deserialize wire = .ok tx → batch[entry]? = some tx := by
  induction txList generalizing batch with
  | nil =>
      cases isBatch
      exact ⟨rfl, fun _ _ _ isEntry => nomatch isEntry⟩
  | cons first txList ih =>
      simp only [readBatch, List.mapM_cons, Option.pure_def, Option.bind_eq_bind,
        Option.bind_eq_some_iff, Option.some.injEq] at isBatch
      obtain ⟨head, isHead, rest, isRest, same⟩ := isBatch
      subst same
      obtain ⟨length, entries⟩ := ih isRest
      refine ⟨congrArg (· + 1) length, ?_⟩
      intro entry wire tx isEntry reads
      cases entry with
      | zero =>
          cases isEntry
          rw [reads] at isHead
          exact isHead.symm
      | succ entry => exact entries entry wire tx isEntry reads

theorem answersBatch_of_given {txList : List (List UInt8)} {batch : List Transaction}
    {signatures : List (List UInt8)} (isBatch : readBatch crates txList = some batch)
    (given : Given crates txList past signatures) : AnswersBatch past batch signatures := by
  obtain ⟨length, entries⟩ := readBatch_entries isBatch
  refine ⟨given.length_eq.trans length.symm, ?_⟩
  intro entry bytes isEntry nonempty
  obtain ⟨wire, tx, signature, isWire, reads, rest⟩ := given.accepted entry bytes isEntry nonempty
  exact ⟨tx, signature, entries entry wire tx isWire reads, rest⟩

theorem sendTx_obeys (passes : Nat) (txList : List (List UInt8)) :
    Obedient crates (.sendTx txList) past .batch (sendTx crates passes txList) := by
  have reads : Fallible.Justified (Obeys crates (.sendTx txList)) past
      (fun _ _ => ∃ batch, readBatch crates txList = some batch) (sendTx crates passes txList) := by
    apply Fallible.Justified.bind (decodes _)
    intro start sigList _ decoded
    obtain ⟨batch, isBatch⟩ := readBatch_of_deserialize decoded
    have isIntent : (Request.sendTx txList).intent crates = some (.batch batch) := by
      simp [Request.intent, isBatch]
    apply (sendLoop_follows (onlySigning_of_intent isIntent) passes sigList 0).mono
    exact fun _ _ _ _ => ⟨batch, isBatch⟩
  apply (reads.and (sendTx_proper passes txList)).mono
  rintro later reply _ ⟨⟨batch, isBatch⟩, given⟩
  exact ⟨.batch batch, by simp [Request.intent, isBatch], .batch
    (answersBatch_of_given isBatch given)⟩

theorem runGenesis_obeys (r : Genesis) :
    Obedient crates (.runGenesis r) past (fun _ => .empty) (runGenesis crates r) := by
  apply Fallible.Justified.bind (decodes _)
  intro start arguments _ decoded
  obtain ⟨payer, mint, owner, decimals⟩ := arguments
  have isIntent : (Request.runGenesis r).intent crates =
      some (.genesis payer mint owner decimals) := by
    obtain ⟨payerRead, isPayer, decoded⟩ := Outcome.bind_eq_ok_iff.mp decoded
    obtain ⟨mintRead, isMint, decoded⟩ := Outcome.bind_eq_ok_iff.mp decoded
    obtain ⟨ownerRead, isOwner, decoded⟩ := Outcome.bind_eq_ok_iff.mp decoded
    split at decoded
    · rename_i single isSingle
      cases decoded
      simp [Request.intent, readKeypair_of_copied isPayer, readKeypair_of_copied isMint,
        readPubkey_of_field isOwner, isSingle]
    · cases decoded
  apply Fallible.Justified.bind (.mapErr (Rpcnb.createAndInitMint_follows
    (serving_of_intent isIntent) fun _ _ _ _ funded built => .genesis funded built))
  intro later _ _ served
  obtain ⟨tx, confirmed, calls⟩ := served
  exact .pure ⟨_, isIntent, .genesis confirmed calls⟩

theorem copied_same {ε : Type} {warrant : List ServiceEvent → ServiceEvent → Prop}
    (laws : crates.KeypairLaws) (key : Keypair) :
    Fallible.Justified warrant past (fun _ copy => copy = key)
      (Util.copied crates key : Svc ε Keypair) := by
  unfold Util.copied
  rw [laws.from_to]
  exact .pure rfl

theorem runInitializeTokenAccount_obeys (laws : crates.KeypairLaws) (r : InitializeTokenAccount) :
    Obedient crates (.runInitializeTokenAccount r) past .keypair
      (runInitializeTokenAccount crates r) := by
  apply Fallible.Justified.bind (decodes _)
  intro pastMint mint _ isMint
  apply Fallible.Justified.bind (decodes _)
  intro pastOwner owner _ isOwner
  have isIntent : (Request.runInitializeTokenAccount r).intent crates =
      some (.tokenAccount owner mint owner.pubkey) := by
    simp [Request.intent, readPubkey_of_field isMint, readKeypair_of_copied isOwner]
  apply Fallible.Justified.bind (copied_same laws owner)
  intro pastCopy owner1 _ same
  subst same
  apply Fallible.Justified.bind (.mapErr (Util.initializeTokenAccount_follows
    (serving_of_intent isIntent) fun _ _ _ _ setsUp => .tokenAccount setsUp))
  intro later key _ has
  apply Fallible.Justified.lift
  intro wire encoded
  refine ⟨_, isIntent, .tokenAccount has ?_⟩
  cases reversed : reverseKeypair crates key <;> rw [reversed] at encoded <;> cases encoded
  rfl

theorem runCreateAccount_obeys (r : CreateAccount) :
    Obedient crates (.runCreateAccount r) past .keypair (runCreateAccount crates r) := by
  apply Fallible.Justified.bind (decodes _)
  intro pastMint mint _ isMint
  apply Fallible.Justified.bind (decodes _)
  intro pastOwner owner _ isOwner
  apply Fallible.Justified.bind (decodes _)
  intro pastPayer payer _ isPayer
  have isIntent : (Request.runCreateAccount r).intent crates =
      some (.tokenAccount payer mint owner) := by
    simp [Request.intent, readPubkey_of_field isMint, readPubkey_of_field isOwner,
      readKeypair_of_copied isPayer]
  apply Fallible.Justified.bind (.mapErr (Util.createAccount_follows (serving_of_intent isIntent)
    fun _ _ _ _ setsUp => .tokenAccount setsUp))
  intro later key _ has
  exact .lift fun wire encoded => ⟨_, isIntent, .tokenAccount has encoded⟩

theorem runMint_obeys (r : Mint) :
    Obedient crates (.runMint r) past (fun _ => .empty) (runMint crates r) := by
  apply Fallible.Justified.bind (decodes _)
  intro pastPayer payer _ isPayer
  apply Fallible.Justified.bind (decodes _)
  intro pastSigner signer _ isSigner
  apply Fallible.Justified.bind (decodes _)
  intro pastMint mint _ isMint
  apply Fallible.Justified.bind (decodes _)
  intro pastRecipient recipient _ isRecipient
  split
  · exact .throw _
  · rename_i isQuantity
    have isIntent : (Request.runMint r).intent crates =
        some (.mint payer signer mint recipient r.quantity) := by
      simp [Request.intent, readKeypair_of_copied isPayer, readKeypair_of_copied isSigner,
        readPubkey_of_field isMint, readPubkey_of_field isRecipient, isQuantity]
    apply Fallible.Justified.mapErr
    apply (Util.mintToExistingAccount_follows (serving_of_intent isIntent)
      fun _ _ _ built => .mint built).mono
    rintro later _ _ ⟨tx, confirmed, calls⟩
    exact ⟨_, isIntent, .mint confirmed calls⟩

end Broadcast

namespace DexHandlers

theorem getMarketPubkeys_obeys (r : MarketRequest) :
    Obedient crates (.getMarketPubkeys r) past .marketPubkeys (getMarketPubkeys crates r) := by
  apply Fallible.Justified.bind (decodes _)
  intro pastProgram programId _ isProgram
  apply Fallible.Justified.bind (decodes _)
  intro pastMarket market _ isMarket
  have reads := readPubkey_of_field isMarket
  have isIntent : (Request.getMarketPubkeys r).intent crates =
      some (.marketKeys programId market) := by
    simp [Request.intent, readProgramId_of_field isProgram, reads]
  have named : (Request.getMarketPubkeys r).marketAddress = some market := reads
  apply Fallible.Justified.bind (.mapErr (getKeysForMarket_obeys named))
  intro later keys _ read
  exact .pure ⟨_, isIntent, .marketKeys read⟩

theorem listMarket_obeys (r : ListMarketRequest) :
    Obedient crates (.listMarket r) past .listing (listMarket crates r) := by
  apply Fallible.Justified.bind (decodes _)
  intro pastPayer payer _ isPayer
  apply Fallible.Justified.bind (decodes _)
  intro pastProgram programId _ isProgram
  apply Fallible.Justified.bind (decodes _)
  intro pastCoin coinMint _ isCoin
  apply Fallible.Justified.bind (decodes _)
  intro pastPc pcMint _ isPc
  have isIntent : (Request.listMarket r).intent crates =
      some (.list programId payer coinMint pcMint r.coinLotSize r.pcLotSize) := by
    simp [Request.intent, readKeypair_of_field isPayer, readProgramId_of_field isProgram,
      readPubkey_of_field isCoin, readPubkey_of_field isPc]
  apply Fallible.Justified.bind (.mapErr
    (SerumClient.listMarket_follows (serving_of_intent isIntent) ?_ ?_))
  · rintro later ⟨bytes, keys⟩ _ ⟨tx, accounts, coinVault, pcVault, encoded, signed, same, lists⟩
    subst same
    exact .pure ⟨_, isIntent, .listing encoded signed lists⟩
  · intro later instructions mint market key nonce vaultSigner _ isMint generated least setsUp
    exact .vault isMint generated least setsUp
  · exact fun _ _ _ _ _ _ lists => .list lists

theorem consumeEvents_intent {r : CrankRequest} {programId coinWallet pcWallet : Pubkey}
    {payer : Keypair} {source : MarketSource}
    (isProgram : programIdField r.dexProgramId = .ok programId)
    (isPayer : keypairField crates r.payer "bad payer" = .ok payer)
    (isSource : readMarket r.market = some source)
    (isCoin : pubkeyField r.coinWallet (.internal "bad coin_mint") = .ok coinWallet)
    (isPc : pubkeyField r.pcWallet (.internal "bad pc_mint") = .ok pcWallet) :
    (Request.consumeEvents r).intent crates =
      some (.trade programId source (.consume payer coinWallet pcWallet)) := by
  simp [Request.intent, readTrade, readProgramId_of_field isProgram, isSource,
    readKeypair_of_field isPayer, readPubkey_of_field isCoin, readPubkey_of_field isPc]

theorem consumeEvents_obeys (r : CrankRequest) :
    Obedient crates (.consumeEvents r) past .signedTx (consumeEvents crates r) := by
  apply Fallible.Justified.bind (decodes _)
  intro pastProgram programId _ isProgram
  apply Fallible.Justified.bind (decodes _)
  intro pastPayer payer _ isPayer
  apply Fallible.Justified.bind (marketField_obeys rfl)
  intro pastState keys _ holds
  obtain ⟨source, isSource, resolves⟩ := holds
  apply Fallible.Justified.bind (decodes _)
  intro pastCoin coinWallet grownCoin isCoin
  apply Fallible.Justified.bind (decodes _)
  intro pastPc pcWallet grownPc isPc
  have isIntent := consumeEvents_intent isProgram isPayer isSource isCoin isPc
  refine Obedient.signedTx isIntent fun serving => ?_
  apply SerumClient.consumeEvents_follows serving
  intro later eventQData instruction grown shown cranks
  exact .trade (resolves.grow fun _ isEvent => grown (grownPc (grownCoin isEvent)))
    (.consume shown cranks)

theorem initOpenOrder_obeys (r : OpenOrderRequest) :
    Obedient crates (.initOpenOrder r) past .signedTx (initOpenOrder crates r) := by
  apply Fallible.Justified.bind (decodes _)
  intro pastProgram programId _ isProgram
  apply Fallible.Justified.bind (decodes _)
  intro pastOwner owner _ isOwner
  apply Fallible.Justified.bind (marketField_obeys rfl)
  intro pastState keys _ holds
  obtain ⟨source, isSource, resolves⟩ := holds
  apply Fallible.Justified.bind (decodes _)
  intro pastOrders orders grownOrders isOrders
  have isIntent : (Request.initOpenOrder r).intent crates =
      some (.trade programId source (.openOrders owner orders)) := by
    simp [Request.intent, readTrade, readProgramId_of_field isProgram, isSource,
      readKeypair_of_field isOwner, readOptional_of_pubkey isOrders]
  refine Obedient.signedTx isIntent fun serving => ?_
  apply SerumClient.initOpenOrders_follows serving
  intro later account creates instruction grown opens built
  exact .trade (resolves.grow fun _ isEvent => grown (grownOrders isEvent))
    (.openOrders opens built)

theorem newOrder_obeys (r : PbOrder) :
    Obedient crates (.newOrder r) past .signedTx (newOrder crates r) := by
  apply Fallible.Justified.bind (decodes _)
  intro pastProgram programId _ isProgram
  apply Fallible.Justified.bind (decodes _)
  intro pastPayer payer _ isPayer
  apply Fallible.Justified.bind (decodes _)
  intro pastWallet wallet _ isWallet
  apply Fallible.Justified.bind (marketField_obeys rfl)
  intro pastState keys _ holds
  obtain ⟨source, isSource, resolves⟩ := holds
  apply Fallible.Justified.bind (decodes _)
  intro pastOrders orders grownOrders isOrders
  apply Fallible.Justified.bind (decodes _)
  intro pastOrder newOrder grownOrder converted
  obtain ⟨order, isOrder, expresses⟩ := readOrder_of_converted converted
  have isIntent : (Request.newOrder r).intent crates =
      some (.trade programId source (.order payer wallet orders order)) := by
    simp [Request.intent, readTrade, readProgramId_of_field isProgram, isSource,
      readKeypair_of_field isPayer, readPubkey_of_field isWallet, readOptional_of_pubkey isOrders,
      isOrder]
  refine Obedient.signedTx isIntent fun serving => ?_
  apply SerumClient.placeOrder_follows serving
  intro later account creates grown opens
  exact .trade (resolves.grow fun _ isEvent => grown (grownOrder (grownOrders isEvent)))
    (.order opens expresses)

theorem cancelOrder_obeys (r : CancelOrderRequest) :
    Obedient crates (.cancelOrder r) past .signedTx (cancelOrder crates r) := by
  apply Fallible.Justified.bind (decodes _)
  intro pastProgram programId _ isProgram
  apply Fallible.Justified.bind (decodes _)
  intro pastOwner owner _ isOwner
  apply Fallible.Justified.bind (marketField_obeys rfl)
  intro pastState keys _ holds
  obtain ⟨source, isSource, resolves⟩ := holds
  apply Fallible.Justified.bind (decodes _)
  intro pastOrders orders grownOrders isOrders
  have isIntent : (Request.cancelOrder r).intent crates =
      some (.trade programId source (.cancel owner orders r.id)) := by
    simp [Request.intent, readTrade, readProgramId_of_field isProgram, isSource,
      readKeypair_of_field isOwner, readPubkey_of_orders isOrders]
  refine Obedient.signedTx isIntent fun serving => ?_
  apply SerumClient.cancelOrderByClientOrderId_follows serving
  intro later instruction grown built
  exact .trade (resolves.grow fun _ isEvent => grown (grownOrders isEvent)) (.cancel built)

theorem settleFunds_obeys (r : SettleFundsRequest) :
    Obedient crates (.settleFunds r) past .signedTx (settleFunds crates r) := by
  apply Fallible.Justified.bind (decodes _)
  intro pastPayer payer _ isPayer
  apply Fallible.Justified.bind (decodes _)
  intro pastProgram programId _ isProgram
  apply Fallible.Justified.bind (marketField_obeys rfl)
  intro pastState keys _ holds
  obtain ⟨source, isSource, resolves⟩ := holds
  apply Fallible.Justified.bind (decodes _)
  intro pastOrder orders grownOrders isOrders
  apply Fallible.Justified.bind (decodes _)
  intro pastCoin coinWallet grownCoin isCoin
  apply Fallible.Justified.bind (decodes _)
  intro pastPc pcWallet grownPc isPc
  apply Fallible.Justified.bind (decodes _)
  intro pastSigner signer grownSigner isSigner
  have isIntent : (Request.settleFunds r).intent crates =
      some (.trade programId source (.settle payer signer orders coinWallet pcWallet)) := by
    simp [Request.intent, readTrade, readProgramId_of_field isProgram, isSource,
      readKeypair_of_field isPayer, readPubkey_of_field isOrders, readPubkey_of_field isCoin,
      readPubkey_of_field isPc, readOptional_of_keypair isSigner]
  refine Obedient.signedTx isIntent fun serving => ?_
  refine SerumClient.simulated_follows serving _ ?_ fun _ tx => SerumClient.serialized_follows tx
  exact .trade (resolves.grow fun _ isEvent =>
    grownSigner (grownPc (grownCoin (grownOrders isEvent)))) .settle

theorem closeOpenOrders_obeys (r : OpenOrderRequest) :
    Obedient crates (.closeOpenOrders r) past .signedTx (closeOpenOrders crates r) := by
  apply Fallible.Justified.bind (decodes _)
  intro pastProgram programId _ isProgram
  apply Fallible.Justified.bind (decodes _)
  intro pastOwner owner _ isOwner
  apply Fallible.Justified.bind (marketField_obeys rfl)
  intro pastState keys _ holds
  obtain ⟨source, isSource, resolves⟩ := holds
  apply Fallible.Justified.bind (decodes _)
  intro pastOrders orders grownOrders isOrders
  have isIntent : (Request.closeOpenOrders r).intent crates =
      some (.trade programId source (.close owner orders)) := by
    simp [Request.intent, readTrade, readProgramId_of_field isProgram, isSource,
      readKeypair_of_field isOwner, readPubkey_of_orders isOrders]
  refine Obedient.signedTx isIntent fun serving => ?_
  apply SerumClient.closeOpenOrders_follows serving
  intro later instruction grown built
  exact .trade (resolves.grow fun _ isEvent => grown (grownOrders isEvent)) (.close built)

theorem matchOrders_obeys (r : CrankRequest) :
    Obedient crates (.matchOrders r) past .signedTx (matchOrders crates r) := by
  apply Fallible.Justified.bind (decodes _)
  intro pastProgram programId _ isProgram
  apply Fallible.Justified.bind (decodes _)
  intro pastPayer payer _ isPayer
  apply Fallible.Justified.bind (marketField_obeys rfl)
  intro pastState keys _ holds
  obtain ⟨source, isSource, resolves⟩ := holds
  apply Fallible.Justified.bind (decodes _)
  intro pastCoin coinWallet grownCoin isCoin
  apply Fallible.Justified.bind (decodes _)
  intro pastPc pcWallet grownPc isPc
  have isIntent : (Request.matchOrders r).intent crates =
      some (.trade programId source (.matching payer coinWallet pcWallet)) := by
    simp [Request.intent, readTrade, readProgramId_of_field isProgram, isSource,
      readKeypair_of_field isPayer, readPubkey_of_field isCoin, readPubkey_of_field isPc]
  refine Obedient.signedTx isIntent fun serving => ?_
  refine SerumClient.simulated_follows serving _ ?_ fun _ tx => SerumClient.serialized_follows tx
  exact .trade (resolves.grow fun _ isEvent => grownPc (grownCoin isEvent)) .matching

theorem spawned_obeys {request : Request} {side : MonitoredSide} {target : Pubkey}
    (follows : ∀ later, past ⊆ later →
      Obeys crates request later ⟨ServiceOp.spawnMonitor side target, ()⟩) :
    Fallible.Justified (Obeys crates request) past
      (fun later _ => (⟨.spawnMonitor side target, ()⟩ : ServiceEvent) ∈ later)
      (locked .dexRuntime (spawnMonitor side target) : Svc Status Unit) := by
  apply Fallible.Justified.withGuard (L := service) (fun _ => trivial) fun _ _ => trivial
  intro answer
  apply (Fallible.Justified.perform (I := service.toInterface)
    fun _ => follows _ (List.subset_cons_self _ _)).mono
  intro later spawned _ isEvent dropped
  exact List.mem_cons_of_mem _ isEvent

theorem monitorQueue_obeys (r : MonitorQueueRequest) :
    Obedient crates (.monitorQueue r) past (fun _ => .stream) (monitorQueue crates r) := by
  apply Fallible.Justified.bind (decodes _)
  intro pastProgram programId _ isProgram
  apply Fallible.Justified.bind (marketField_obeys rfl)
  intro pastState keys _ holds
  obtain ⟨source, isSource, resolves⟩ := holds
  have isIntent : (Request.monitorQueue r).intent crates =
      some (.trade programId source .monitor) := by
    simp [Request.intent, readTrade, readProgramId_of_field isProgram, isSource]
  have follows (later : List ServiceEvent) (grown : pastState ⊆ later) (side : MonitoredSide) :
      Obeys crates (.monitorQueue r) later
        ⟨ServiceOp.spawnMonitor side (keys.followed side), ()⟩ :=
    ⟨programId, source, keys, isIntent, resolves.grow grown, rfl⟩
  apply Fallible.Justified.bind (spawned_obeys fun later grown => follows later grown .bids)
  intro pastBids _ grownBids followsBids
  apply (spawned_obeys fun later grown =>
    follows later (List.Subset.trans grownBids grown) .asks).mono
  intro later _ grown followsAsks
  exact ⟨_, isIntent, .stream (resolves.grow (List.Subset.trans grownBids grown))
    (grown followsBids) followsAsks⟩

end DexHandlers

/-- Every handler reads its request, does only what it asks for, and answers it so. -/
theorem Request.respond_obeys (laws : crates.KeypairLaws) (passes : Nat) (request : Request) :
    Obedient crates request past id (request.respond crates passes) := by
  have answers : ∀ {α : Type} {response : α → Response} {handler : Svc Status α},
      Obedient crates request past response handler →
        Obedient crates request past id (answered response handler) :=
    fun obeys => .bind obeys fun _ _ _ isIntent => .pure isIntent
  cases request with
  | sendTx tx => exact answers (Broadcast.sendTx_obeys passes tx)
  | runGenesis r => exact answers (Broadcast.runGenesis_obeys r)
  | runInitializeTokenAccount r =>
      exact answers (Broadcast.runInitializeTokenAccount_obeys laws r)
  | runCreateAccount r => exact answers (Broadcast.runCreateAccount_obeys r)
  | runMint r => exact answers (Broadcast.runMint_obeys r)
  | getMarketPubkeys r => exact answers (DexHandlers.getMarketPubkeys_obeys r)
  | listMarket r => exact answers (DexHandlers.listMarket_obeys r)
  | consumeEvents r => exact answers (DexHandlers.consumeEvents_obeys r)
  | initOpenOrder r => exact answers (DexHandlers.initOpenOrder_obeys r)
  | newOrder r => exact answers (DexHandlers.newOrder_obeys r)
  | cancelOrder r => exact answers (DexHandlers.cancelOrder_obeys r)
  | settleFunds r => exact answers (DexHandlers.settleFunds_obeys r)
  | closeOpenOrders r => exact answers (DexHandlers.closeOpenOrders_obeys r)
  | matchOrders r => exact answers (DexHandlers.matchOrders_obeys r)
  | monitorQueue r => exact answers (DexHandlers.monitorQueue_obeys r)

end Handlers

end RustHelper
