import RustHelper.RequestProvenance

/-!
# The transactions that a request asks for

What a request asks for determines the instructions that a transaction made for it
may consist of, together with what the cluster has shown before.
-/

namespace RustHelper

open Effect

section Meaning

variable (crates : Crates) (past : List ServiceEvent)

/-- The instruction creates the account of a key pair generated before, with the
rent that the cluster asks for its size. -/
def CreatesAccount (payer : Pubkey) (key : Keypair) (space : Nat) (owner : Pubkey)
    (instruction : Instruction) : Prop :=
  (⟨.generateKeypair, key⟩ : ServiceEvent) ∈ past ∧ ∃ lamports,
    (⟨.rpc (.getMinimumBalanceForRentExemption space), .ok lamports⟩ : ServiceEvent) ∈ past ∧
      instruction = crates.createAccount payer key.pubkey lamports (UInt64.ofNat space) owner

/-- The token account of the key pair is created and set up for its mint and owner. -/
def SetsUpTokenAccount (payer mint owner : Pubkey) (key : Keypair)
    (instructions : List Instruction) : Prop :=
  ∃ create setUp,
    CreatesAccount crates past payer key crates.tokenAccountLen crates.splToken create ∧
      crates.initializeAccount crates.splToken key.pubkey mint owner = .ok setUp ∧
      instructions = [create, setUp]

/-- A confirmed transaction has set the token account up. -/
def HasTokenAccount (payer mint owner : Pubkey) (key : Keypair) : Prop :=
  ∃ tx, ConfirmedIn past tx ∧ SetsUpTokenAccount crates past payer mint owner key tx.instructions

/-- The open-orders account that is given, or a new one and its creation. -/
def OpensOrders (programId payer : Pubkey) (orders : Option Pubkey) (account : Pubkey)
    (creates : List Instruction) : Prop :=
  match orders with
  | some given => account = given ∧ creates = []
  | none => ∃ key create,
      CreatesAccount crates past payer key (crates.openOrdersSize + 12) programId create ∧
        account = key.pubkey ∧ creates = [create]

/-- The sizes of a market's accounts: the market, its two queues and its two books. -/
def listingSizes : List Nat :=
  [376, 640, 1 <<< 20, 1 <<< 16, 1 <<< 16].map (· + 12)

/-- The keys of a market, from the key pairs of its accounts and of its vaults. -/
def SerumClient.ListingKeys.withVaults (accounts : SerumClient.ListingKeys)
    (coinVault pcVault : Keypair) : MarketPubkeys where
  market := accounts.marketKey.pubkey
  reqQ := accounts.reqQKey.pubkey
  eventQ := accounts.eventQKey.pubkey
  bids := accounts.bidsKey.pubkey
  asks := accounts.asksKey.pubkey
  coinVault := coinVault.pubkey
  pcVault := pcVault.pubkey
  vaultSignerKey := accounts.vaultSignerPk

/-- The accounts of a new market are created and the market is set up in them, with these
keys; its vaults are token accounts of the two mints, owned by the vault signer that the
market's key determines. -/
structure ListsMarket (programId payer coinMint pcMint : Pubkey) (coinLotSize pcLotSize : UInt64)
    (accounts : SerumClient.ListingKeys) (coinVault pcVault : Keypair)
    (instructions : List Instruction) : Prop where
  least : SerumClient.LeastNonce crates accounts.marketKey.pubkey programId
    accounts.vaultSignerNonce accounts.vaultSignerPk
  coin : HasTokenAccount crates past payer coinMint accounts.vaultSignerPk coinVault
  pc : HasTokenAccount crates past payer pcMint accounts.vaultSignerPk pcVault
  setUp : ∃ creates setUp,
    List.Forall₂ (fun (account : Keypair × Nat) create =>
        CreatesAccount crates past payer account.1 account.2 programId create)
      (accounts.keypairs.zip listingSizes) creates ∧
    crates.initializeMarket accounts.marketKey.pubkey programId coinMint pcMint coinVault.pubkey
      pcVault.pubkey none none none accounts.bidsKey.pubkey accounts.asksKey.pubkey
      accounts.reqQKey.pubkey accounts.eventQKey.pubkey coinLotSize pcLotSize
      accounts.vaultSignerNonce 100 = .ok setUp ∧
    instructions = creates ++ [setUp]

/-- The owners of the live events in a queue account, whose words are a header and the
events of a ring. -/
def LiveOwners (data : Buffer) (owners : List Words4) : Prop :=
  ∃ words header events, ∃ nonempty : 0 < events.length,
    SerumClient.HoldsWords crates data words ∧
      crates.transmuteOnePedantic 32 (ByteBlocks.bytesOf (words.take 4)) = .ok header ∧
      crates.transmuteMany 88 (ByteBlocks.bytesOf (words.drop 4)) = .ok events ∧
      (crates.eventQueueHead header).toNat ≤ events.length ∧
      (crates.eventQueueCount header).toNat ≤ events.length ∧
      owners = (Ring.contents events nonempty (crates.eventQueueHead header).toNat
        (crates.eventQueueCount header).toNat).map crates.eventOwner

/-- The crank of a queue lists the smallest owners of live events, at most 32, then the
market's accounts and the wallets, with as many events as accounts. -/
def Cranks (programId : Pubkey) (keys : MarketPubkeys) (coinWallet pcWallet : Pubkey)
    (eventQData : Buffer) (instruction : Instruction) : Prop :=
  ∃ owners selected limit accounts,
    LiveOwners crates eventQData owners ∧ owners ≠ [] ∧
      SerumClient.ExactSelection owners selected ∧
      accounts.map AccountMeta.pubkey =
        selected.map Words4.toPubkey ++ [keys.market, keys.eventQ, coinWallet, pcWallet] ∧
      (∀ account ∈ accounts, account.isWritable = true ∧ account.isSigner = false) ∧
      UInt16.toNat limit = accounts.length ∧
      instruction = ⟨programId, accounts, crates.pack (.consumeEvents limit)⟩

/-- The instructions that an act on a market with these keys consists of. -/
inductive MarketAct.Calls (programId : Pubkey) (keys : MarketPubkeys) :
    MarketAct → List Instruction → Prop
  | consume {payer : Keypair} {coinWallet pcWallet : Pubkey} {eventQData : Buffer}
      {instruction : Instruction}
      (shown : (⟨.rpc (.getAccountData keys.eventQ), .ok eventQData⟩ : ServiceEvent) ∈ past)
      (cranks : Cranks crates programId keys coinWallet pcWallet eventQData instruction) :
      Calls programId keys (.consume payer coinWallet pcWallet) [instruction]
  | openOrders {owner : Keypair} {orders : Option Pubkey} {account : Pubkey}
      {creates : List Instruction} {instruction : Instruction}
      (opens : OpensOrders crates past programId owner.pubkey orders account creates)
      (built : crates.initOpenOrdersIx programId account owner.pubkey keys.market none =
        .ok instruction) :
      Calls programId keys (.openOrders owner orders) (creates ++ [instruction])
  | order {payer : Keypair} {wallet : Pubkey} {orders : Option Pubkey}
      {order : PbNewOrderInstructionV3} {newOrder : NewOrderInstructionV3} {account : Pubkey}
      {creates : List Instruction}
      (opens : OpensOrders crates past programId payer.pubkey orders account creates)
      (expresses : Expresses order newOrder) :
      Calls programId keys (.order payer wallet orders order)
        (creates ++ [SerumClient.orderInstruction crates programId payer wallet keys newOrder
          account])
  | cancel {owner : Keypair} {orders : Pubkey} {id : UInt64} {instruction : Instruction}
      (built : crates.cancelOrderByClientOrderIdIx programId keys.market keys.bids keys.asks
        orders owner.pubkey keys.eventQ id = .ok instruction) :
      Calls programId keys (.cancel owner orders id) [instruction]
  -- the owner of the open orders signs: the second key pair, if one is given
  | settle {payer : Keypair} {signer : Option Keypair} {orders coinWallet pcWallet : Pubkey} :
      Calls programId keys (.settle payer signer orders coinWallet pcWallet)
        [{ programId := programId
           data := crates.pack .settleFunds
           accounts :=
             [ .new keys.market false,
               .new orders false,
               .newReadonly (signer.getD payer).pubkey true,
               .new keys.coinVault false,
               .new keys.pcVault false,
               .new coinWallet false,
               .new pcWallet false,
               .newReadonly keys.vaultSignerKey false,
               .newReadonly crates.splToken false ] }]
  | close {owner : Keypair} {orders : Pubkey} {instruction : Instruction}
      (built : crates.closeOpenOrdersIx programId orders owner.pubkey owner.pubkey keys.market =
        .ok instruction) :
      Calls programId keys (.close owner orders) [instruction]
  | matching {payer : Keypair} {coinWallet pcWallet : Pubkey} :
      Calls programId keys (.matching payer coinWallet pcWallet)
        [{ programId := programId
           data := crates.pack (.matchOrders 2)
           accounts := [keys.market, keys.reqQ, keys.eventQ, keys.bids, keys.asks, coinWallet,
             pcWallet].map (AccountMeta.new · false) }]

/-- The transactions that serve what is asked for, by their instructions. -/
inductive Intent.Calls : Intent → List Instruction → Prop
  | genesis {payer mint : Keypair} {owner : Pubkey} {decimals : UInt8} {lamports : UInt64}
      {instruction : Instruction}
      (funded : (⟨.rpc (.getMinimumBalanceForRentExemption crates.mintLen), .ok lamports⟩ :
        ServiceEvent) ∈ past)
      (built : crates.initializeMint crates.splToken mint.pubkey owner none decimals =
        .ok instruction) :
      Calls (.genesis payer mint owner decimals)
        [crates.createAccount payer.pubkey mint.pubkey lamports (UInt64.ofNat crates.mintLen)
          crates.splToken, instruction]
  | tokenAccount {payer key : Keypair} {mint owner : Pubkey} {instructions : List Instruction}
      (setsUp : SetsUpTokenAccount crates past payer.pubkey mint owner key instructions) :
      Calls (.tokenAccount payer mint owner) instructions
  | mint {payer signer : Keypair} {mint recipient : Pubkey} {quantity : UInt64}
      {instruction : Instruction}
      (built : crates.mintTo crates.splToken mint recipient signer.pubkey [] quantity =
        .ok instruction) :
      Calls (.mint payer signer mint recipient quantity) [instruction]
  -- a vault of the market, owned by the signer that the market's key determines
  | vault {programId : Pubkey} {payer market key : Keypair} {coinMint pcMint mint : Pubkey}
      {coinLotSize pcLotSize nonce : UInt64} {vaultSigner : Pubkey}
      {instructions : List Instruction} (isMint : mint = coinMint ∨ mint = pcMint)
      (generated : (⟨.generateKeypair, market⟩ : ServiceEvent) ∈ past)
      (least : SerumClient.LeastNonce crates market.pubkey programId nonce vaultSigner)
      (setsUp : SetsUpTokenAccount crates past payer.pubkey mint vaultSigner key instructions) :
      Calls (.list programId payer coinMint pcMint coinLotSize pcLotSize) instructions
  | list {programId : Pubkey} {payer : Keypair} {coinMint pcMint : Pubkey}
      {coinLotSize pcLotSize : UInt64} {accounts : SerumClient.ListingKeys}
      {coinVault pcVault : Keypair} {instructions : List Instruction}
      (lists : ListsMarket crates past programId payer.pubkey coinMint pcMint coinLotSize
        pcLotSize accounts coinVault pcVault instructions) :
      Calls (.list programId payer coinMint pcMint coinLotSize pcLotSize) instructions
  | trade {programId : Pubkey} {market : MarketSource} {keys : MarketPubkeys} {act : MarketAct}
      {instructions : List Instruction}
      (resolves : market.Resolves crates past programId keys)
      (calls : act.Calls crates past programId keys instructions) :
      Calls (.trade programId market act) instructions

/-- There is an answer for every entry of a batch, and a signature that is returned is the
entry's own, under which the cluster accepted it. -/
structure AnswersBatch (txList : List Transaction) (signatures : List (List UInt8)) : Prop where
  length_eq : signatures.length = txList.length
  accepted : ∀ entry bytes, signatures[entry]? = some bytes → bytes ≠ [] →
    ∃ tx signature, txList[entry]? = some tx ∧ tx.firstSignature = some signature ∧
      AcceptedIn past entry tx signature ∧ signature.bytes = bytes

/-- The response gives what is asked for, by what was done before. -/
inductive Fulfils : Intent → Response → Prop
  | batch {txList : List Transaction} {reply : Broadcast.SendTxReply}
      (answers : AnswersBatch past txList reply.signatures) :
      Fulfils (.batch txList) (.batch reply)
  | genesis {payer mint : Keypair} {owner : Pubkey} {decimals : UInt8} {tx : Transaction}
      (confirmed : ConfirmedIn past tx)
      (calls : (Intent.genesis payer mint owner decimals).Calls crates past tx.instructions) :
      Fulfils (.genesis payer mint owner decimals) .empty
  | mint {payer signer : Keypair} {mint recipient : Pubkey} {quantity : UInt64} {tx : Transaction}
      (confirmed : ConfirmedIn past tx)
      (calls : (Intent.mint payer signer mint recipient quantity).Calls crates past
        tx.instructions) :
      Fulfils (.mint payer signer mint recipient quantity) .empty
  | tokenAccount {payer key : Keypair} {mint owner : Pubkey} {wire : PbKeypair}
      (has : HasTokenAccount crates past payer.pubkey mint owner key)
      (encoded : reverseKeypair crates key = .ok wire) :
      Fulfils (.tokenAccount payer mint owner) (.keypair wire)
  | marketKeys {programId market : Pubkey} {keys : MarketPubkeys}
      (read : SerumClient.ReadFrom crates past programId market keys) :
      Fulfils (.marketKeys programId market) (.marketPubkeys (convertMarketPubkeys keys))
  | listing {programId : Pubkey} {payer : Keypair} {coinMint pcMint : Pubkey}
      {coinLotSize pcLotSize : UInt64} {bytes : List UInt8} {tx : Transaction}
      {accounts : SerumClient.ListingKeys} {coinVault pcVault : Keypair}
      (encoded : crates.serialize tx = .ok bytes) (signed : SignedIn past tx)
      (lists : ListsMarket crates past programId payer.pubkey coinMint pcMint coinLotSize
        pcLotSize accounts coinVault pcVault tx.instructions) :
      Fulfils (.list programId payer coinMint pcMint coinLotSize pcLotSize)
        (.listing ⟨some (convertMarketPubkeys (accounts.withVaults coinVault pcVault)),
          some ⟨bytes⟩⟩)
  | signedTx {programId : Pubkey} {market : MarketSource} {act : MarketAct} {tx : Transaction}
      {bytes : List UInt8} (encoded : crates.serialize tx = .ok bytes) (signed : SignedIn past tx)
      (calls : (Intent.trade programId market act).Calls crates past tx.instructions) :
      Fulfils (.trade programId market act) (.signedTx ⟨bytes⟩)
  | stream {programId : Pubkey} {market : MarketSource} {keys : MarketPubkeys}
      (resolves : market.Resolves crates past programId keys)
      (followsBids : (⟨.spawnMonitor .bids keys.bids, ()⟩ : ServiceEvent) ∈ past)
      (followsAsks : (⟨.spawnMonitor .asks keys.asks, ()⟩ : ServiceEvent) ∈ past) :
      Fulfils (.trade programId market .monitor) .stream

end Meaning

section Growing

variable {crates : Crates} {past later : List ServiceEvent} (grown : past ⊆ later)

include grown

theorem CreatesAccount.grow {payer owner : Pubkey} {key : Keypair} {space : Nat}
    {instruction : Instruction}
    (creates : CreatesAccount crates past payer key space owner instruction) :
    CreatesAccount crates later payer key space owner instruction := by
  obtain ⟨generated, lamports, isEvent, same⟩ := creates
  exact ⟨grown generated, lamports, grown isEvent, same⟩

theorem SetsUpTokenAccount.grow {payer mint owner : Pubkey} {key : Keypair}
    {instructions : List Instruction}
    (setsUp : SetsUpTokenAccount crates past payer mint owner key instructions) :
    SetsUpTokenAccount crates later payer mint owner key instructions := by
  obtain ⟨create, setUp, creates, rest⟩ := setsUp
  exact ⟨create, setUp, creates.grow grown, rest⟩

theorem HasTokenAccount.grow {payer mint owner : Pubkey} {key : Keypair}
    (has : HasTokenAccount crates past payer mint owner key) :
    HasTokenAccount crates later payer mint owner key := by
  obtain ⟨tx, confirmed, setsUp⟩ := has
  exact ⟨tx, confirmed.grow grown, setsUp.grow grown⟩

theorem OpensOrders.grow {programId payer account : Pubkey} {orders : Option Pubkey}
    {creates : List Instruction}
    (opens : OpensOrders crates past programId payer orders account creates) :
    OpensOrders crates later programId payer orders account creates := by
  cases orders with
  | some given => exact opens
  | none =>
      obtain ⟨key, create, created, rest⟩ := opens
      exact ⟨key, create, created.grow grown, rest⟩

theorem ListsMarket.grow {programId payer coinMint pcMint : Pubkey}
    {coinLotSize pcLotSize : UInt64} {accounts : SerumClient.ListingKeys}
    {coinVault pcVault : Keypair} {instructions : List Instruction}
    (lists : ListsMarket crates past programId payer coinMint pcMint coinLotSize pcLotSize accounts
      coinVault pcVault instructions) :
    ListsMarket crates later programId payer coinMint pcMint coinLotSize pcLotSize accounts
      coinVault pcVault instructions where
  least := lists.least
  coin := lists.coin.grow grown
  pc := lists.pc.grow grown
  setUp := by
    obtain ⟨creates, setUp, created, rest⟩ := lists.setUp
    exact ⟨creates, setUp, created.imp fun _ _ creates => creates.grow grown, rest⟩

theorem MarketAct.Calls.grow {programId : Pubkey} {keys : MarketPubkeys} {act : MarketAct}
    {instructions : List Instruction}
    (calls : act.Calls crates past programId keys instructions) :
    act.Calls crates later programId keys instructions := by
  cases calls with
  | consume shown cranks => exact .consume (grown shown) cranks
  | openOrders opens built => exact .openOrders (opens.grow grown) built
  | order opens expresses => exact .order (opens.grow grown) expresses
  | cancel built => exact .cancel built
  | settle => exact .settle
  | close built => exact .close built
  | matching => exact .matching

theorem Intent.Calls.grow {intent : Intent} {instructions : List Instruction}
    (calls : intent.Calls crates past instructions) :
    intent.Calls crates later instructions := by
  cases calls with
  | genesis funded built => exact .genesis (grown funded) built
  | tokenAccount setsUp => exact .tokenAccount (setsUp.grow grown)
  | mint built => exact .mint built
  | vault isMint generated least setsUp =>
      exact .vault isMint (grown generated) least (setsUp.grow grown)
  | list lists => exact .list (lists.grow grown)
  | trade resolves calls => exact .trade (.grow grown resolves) (calls.grow grown)

theorem AnswersBatch.grow {txList : List Transaction} {signatures : List (List UInt8)}
    (answers : AnswersBatch past txList signatures) :
    AnswersBatch later txList signatures := by
  refine ⟨answers.length_eq, ?_⟩
  intro entry bytes isEntry nonempty
  obtain ⟨tx, signature, isTx, isOwn, isEvent, isBytes⟩ := answers.accepted entry bytes isEntry
    nonempty
  exact ⟨tx, signature, isTx, isOwn, grown isEvent, isBytes⟩

theorem Fulfils.grow {intent : Intent} {response : Response}
    (fulfils : Fulfils crates past intent response) : Fulfils crates later intent response := by
  cases fulfils with
  | batch answers => exact .batch (answers.grow grown)
  | genesis confirmed calls => exact .genesis (confirmed.grow grown) (calls.grow grown)
  | mint confirmed calls => exact .mint (confirmed.grow grown) (calls.grow grown)
  | tokenAccount has encoded => exact .tokenAccount (has.grow grown) encoded
  | marketKeys read => exact .marketKeys (read.grow grown)
  | listing encoded signed lists =>
      exact .listing encoded (signed.grow grown) (lists.grow grown)
  | signedTx encoded signed calls =>
      exact .signedTx encoded (signed.grow grown) (calls.grow grown)
  | stream resolves followsBids followsAsks =>
      exact .stream (.grow grown resolves) (grown followsBids) (grown followsAsks)

end Growing

/-- What the service makes of a queue account is its crank. -/
theorem cranks_of_decoded {crates : Crates} {programId coinWallet pcWallet : Pubkey}
    {keys : MarketPubkeys} {eventQData : Buffer} {instruction : Instruction}
    (decoded : SerumClient.decodeCrankInstruction crates programId keys coinWallet pcWallet
      eventQData = .ok (some instruction)) :
    Cranks crates programId keys coinWallet pcWallet eventQData instruction := by
  obtain ⟨cow, removed, decoded⟩ := Outcome.bind_eq_ok_iff.mp decoded
  obtain ⟨⟨header, first, second⟩, parsed, decoded⟩ := Outcome.bind_eq_ok_iff.mp decoded
  obtain ⟨events, isHeader, areEvents, headInRange, countInRange, isFirst, isSecond⟩ :=
    parseQueue_eq_ok parsed
  rw [Outcome.ok.injEq, SerumClient.crankInstruction_eq] at decoded
  split_ifs at decoded with empty
  have nonempty : 0 < events.length := by
    apply List.length_pos_of_ne_nil
    intro none
    rw [isFirst, isSecond, none] at empty
    exact empty (Ring.segments_nil _ _)
  have contents := Ring.segments_eq_contents nonempty headInRange countInRange
  rw [← isFirst, ← isSecond] at contents
  have selection := SerumClient.exactSelection_ordersAccounts
    ((first ++ second).map crates.eventOwner)
  have holds :=
    (SerumClient.removeDexAccountPadding_eq_ok_iff eventQData cow.words).mp ⟨cow, removed, rfl⟩
  refine ⟨_, _, _, _, ⟨cow.words, header, events, nonempty, holds, isHeader, areEvents, headInRange,
    countInRange, congrArg _ contents⟩, fun none => empty (List.map_eq_nil_iff.mp none),
    selection, ?_, SerumClient.crankAccounts_writable,
    SerumClient.toNat_limit selection keys coinWallet pcWallet, ?_⟩
  · simp [SerumClient.crankAccounts, AccountMeta.new, Function.comp_def]
  · exact (Option.some.inj decoded).symm

end RustHelper
