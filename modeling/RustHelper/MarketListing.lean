import RustHelper.DecodingSafety
import RustHelper.EventCrank
import RustHelper.OpenOrdersSlot

/-!
# A listed market is read back with the keys it was listed with

Listing a market calls `initialize_market` with generated accounts, two vaults
and the signer that owns them.  The keys that are handed back are the arguments
of that call, role by role, and the nonce is the least one that has a signer.
So a program that stores the arguments under their names is read back with
exactly these keys.
-/

namespace RustHelper.SerumClient

open Effect

section Nonce

variable {crates : Crates} {market programId : Pubkey}

/-- The least nonce below 100 that has a vault signer, and the signer. -/
structure LeastNonce (crates : Crates) (market programId : Pubkey) (nonce : UInt64)
    (vaultSignerKey : Pubkey) : Prop where
  small : nonce.toNat < 100
  derived : crates.genVaultSignerKey nonce market programId = .ok vaultSignerKey
  least : ∀ i : UInt64, i < nonce → ∃ error,
    crates.genVaultSignerKey i market programId = .error error

/-- The search visits the nonces from `start` on in order. -/
theorem findVaultSigner_eq_ok {remaining : Nat} {start nonce : UInt64} {vaultSignerKey : Pubkey}
    (found : findVaultSigner crates market programId remaining start = .ok (nonce, vaultSignerKey))
    (noOverflow : start.toNat + remaining < 2 ^ 64) :
    nonce.toNat < start.toNat + remaining ∧
      crates.genVaultSignerKey nonce market programId = .ok vaultSignerKey ∧
      ∀ i : UInt64, start ≤ i → i < nonce → ∃ error,
        crates.genVaultSignerKey i market programId = .error error := by
  induction remaining generalizing start with
  | zero => cases found
  | succ remaining ih =>
      unfold findVaultSigner at found
      cases derived : crates.genVaultSignerKey start market programId with
      | ok key =>
          rw [derived] at found
          cases found
          refine ⟨by omega, derived, fun i notBelow below => ?_⟩
          exact absurd below (UInt64.not_lt.mpr notBelow)
      | error error =>
          rw [derived] at found
          have next : (start + 1).toNat = start.toNat + 1 := by
            rw [UInt64.toNat_add]
            exact Nat.mod_eq_of_lt (by simpa using by omega)
          rcases ih found (by omega) with ⟨small, isDerived, least⟩
          have bounded : nonce.toNat < start.toNat + (remaining + 1) := by omega
          refine ⟨bounded, isDerived, fun i notBelow below => ?_⟩
          by_cases isStart : i = start
          · exact ⟨error, isStart ▸ derived⟩
          · have different : i.toNat ≠ start.toNat := fun same => isStart (UInt64.toNat_inj.mp same)
            have afterStart : start + 1 ≤ i := by
              rw [UInt64.le_iff_toNat_le] at notBelow ⊢
              omega
            exact least i afterStart below

theorem leastNonce_of_found {found : UInt64 × Pubkey}
    (isFound : findVaultSigner crates market programId 100 0 = .ok found) :
    LeastNonce crates market programId found.1 found.2 := by
  obtain ⟨small, derived, least⟩ := findVaultSigner_eq_ok isFound (by decide)
  exact ⟨by simpa using small, derived, fun i => least i (by simp)⟩

end Nonce

section Vaults

variable {crates : Crates} {rClient : ServiceMutex}

/-- The cluster confirmed a transaction of these instructions. -/
def Confirms (events : List ServiceEvent) (instructions : List Instruction) : Prop :=
  ∃ (tx : Transaction) (signature : Signature), tx.instructions = instructions ∧
    (⟨ServiceOp.rpc (.sendAndConfirmTransaction tx .confirmed { skipPreflight := true }),
      .ok signature⟩ : ServiceEvent) ∈ events

/-- A token account of the mint was created, and initialized for the owner. -/
def CreatesVault (crates : Crates) (events : List ServiceEvent)
    (payer vault mint owner : Pubkey) : Prop :=
  ∃ lamports initAccount,
    crates.initializeAccount crates.splToken vault mint owner = .ok initAccount ∧
    Confirms events
      [crates.createAccount payer vault lamports (UInt64.ofNat crates.tokenAccountLen)
        crates.splToken, initAccount]

theorem CreatesVault.mono {events more : List ServiceEvent} {payer vault mint owner : Pubkey}
    (creates : CreatesVault crates events payer vault mint owner) (included : events ⊆ more) :
    CreatesVault crates more payer vault mint owner := by
  obtain ⟨lamports, initAccount, built, tx, signature, instructions, isEvent⟩ := creates
  exact ⟨lamports, initAccount, built, tx, signature, instructions, included isEvent⟩

theorem newSignedWithPayer_returns {instructions : List Instruction} {payer : Option Pubkey}
    {signers : List Keypair} {recentHash : Hash} :
    (newSignedWithPayer instructions payer signers recentHash :
      Svc AnyError Transaction).Returns fun tx _ => tx.instructions = instructions := by
  apply newSignedWithPayer_after.toReturns.mono
  rintro tx _ ⟨⟨sameInstructions, _⟩, _⟩
  exact sameInstructions

theorem tryForeign_returns {α : Type} (result : Except ForeignError α) :
    (tryForeign result).Returns fun value _ => result = .ok value :=
  (tryForeign_after result).toReturns.mono fun _ _ holds => holds.1

theorem sendTxn_returns (tx : Transaction) :
    (Rpcnb.sendTxn rClient tx false).Returns fun signature trace =>
      (⟨ServiceOp.rpc (.sendAndConfirmTransaction tx .confirmed { skipPreflight := true }),
        .ok signature⟩ : ServiceEvent) ∈ trace := by
  apply Fallible.Returns.withGuard
  rintro (error | signature)
  · exact nofun
  · rintro _ ⟨⟩ taken given
    exact List.mem_cons_of_mem _ (List.mem_cons_self ..)

theorem createTokenAccountInstructions_returns (splAccount mint owner : Pubkey)
    (payer : Keypair) :
    (Rpcnb.createTokenAccountInstructions crates rClient splAccount mint owner payer).Returns
      fun instructions _ => ∃ lamports initAccount,
        crates.initializeAccount crates.splToken splAccount mint owner = .ok initAccount ∧
        instructions = [crates.createAccount payer.pubkey splAccount lamports
          (UInt64.ofNat crates.tokenAccountLen) crates.splToken, initAccount] := by
  apply Fallible.Returns.withGuard
  apply (Fallible.Returns.anything _).bind
  intro lamports _ _
  apply (tryForeign_returns _).bind
  intro initAccount _ built
  apply Fallible.Returns.pure
  exact fun _ _ => ⟨lamports, initAccount, built, rfl⟩

theorem createTokenAccount_returns (mint owner : Pubkey) (payer : Keypair) :
    (Rpcnb.createTokenAccount crates rClient mint owner payer).Returns fun vault trace =>
      CreatesVault crates trace payer.pubkey vault.pubkey mint owner := by
  apply (Fallible.Returns.anything _).bind
  intro splAccount first _
  apply (createTokenAccountInstructions_returns splAccount.pubkey mint owner payer).bind
  intro instructions second assembled
  rcases assembled with ⟨lamports, initAccount, built, rfl⟩
  apply (Fallible.Returns.anything _).bind
  intro recentHash third _
  apply newSignedWithPayer_returns.bind
  intro tx fourth sameInstructions
  apply (sendTxn_returns tx).bind
  intro signature fifth isEvent
  apply Fallible.Returns.pure
  refine ⟨lamports, initAccount, built, tx, signature, sameInstructions, ?_⟩
  simp only [List.mem_append]
  simp [isEvent]

end Vaults

/-- The arguments of `initialize_market` by name, without the authorities. -/
structure MarketArguments where
  market : Pubkey
  programId : Pubkey
  coinMint : Pubkey
  pcMint : Pubkey
  coinVault : Pubkey
  pcVault : Pubkey
  bids : Pubkey
  asks : Pubkey
  reqQ : Pubkey
  eventQ : Pubkey
  coinLotSize : UInt64
  pcLotSize : UInt64
  vaultSignerNonce : UInt64
  pcDustThreshold : UInt64

/-- The call of `initialize_market`, its arguments in their positions. -/
def MarketArguments.instruction (crates : Crates) (arguments : MarketArguments) :
    Except ForeignError Instruction :=
  crates.initializeMarket arguments.market arguments.programId arguments.coinMint
    arguments.pcMint arguments.coinVault arguments.pcVault none none none arguments.bids
    arguments.asks arguments.reqQ arguments.eventQ arguments.coinLotSize arguments.pcLotSize
    arguments.vaultSignerNonce arguments.pcDustThreshold

/-- What the DEX program does with the arguments: it keeps them under their names. -/
structure StoresArguments (state : MarketState) (arguments : MarketArguments) : Prop where
  market : state.ownAddress.toPubkey = arguments.market
  vaultSignerNonce : state.vaultSignerNonce = arguments.vaultSignerNonce
  reqQ : state.reqQ.toPubkey = arguments.reqQ
  eventQ : state.eventQ.toPubkey = arguments.eventQ
  bids : state.bids.toPubkey = arguments.bids
  asks : state.asks.toPubkey = arguments.asks
  coinVault : state.coinVault.toPubkey = arguments.coinVault
  pcVault : state.pcVault.toPubkey = arguments.pcVault

/-- The keys of a market in the roles of the arguments. -/
structure SameRoles (keys : MarketPubkeys) (arguments : MarketArguments) : Prop where
  market : keys.market = arguments.market
  reqQ : keys.reqQ = arguments.reqQ
  eventQ : keys.eventQ = arguments.eventQ
  bids : keys.bids = arguments.bids
  asks : keys.asks = arguments.asks
  coinVault : keys.coinVault = arguments.coinVault
  pcVault : keys.pcVault = arguments.pcVault

section Reading

variable {crates : Crates} {keys : MarketPubkeys} {arguments : MarketArguments}
  {state : MarketState}

theorem marketKeysOf_stored (roles : SameRoles keys arguments)
    (stored : StoresArguments state arguments) :
    marketKeysOf keys.market state keys.vaultSignerKey = keys := by
  unfold marketKeysOf
  rw [stored.reqQ, stored.eventQ, stored.bids, stored.asks, stored.coinVault, stored.pcVault,
    ← roles.reqQ, ← roles.eventQ, ← roles.bids, ← roles.asks, ← roles.coinVault, ← roles.pcVault]

/-- A market that stores the arguments is read back with the keys in their roles. -/
theorem getKeysForMarket_stored (roles : SameRoles keys arguments)
    (derived : crates.genVaultSignerKey arguments.vaultSignerNonce keys.market
      arguments.programId = .ok keys.vaultSignerKey)
    (stored : StoresArguments state arguments) {data : Buffer}
    (stores : StoresMarket crates data state) {rClient : ServiceMutex} {world : ServiceWorld}
    (answered : clusterReply world 1 (.getAccountData keys.market) = .ok data) :
    (getKeysForMarket crates rClient arguments.programId keys.market).outcome world 0 =
      .ok keys := by
  rw [getKeysForMarket_outcome, answered]
  change decodeMarketKeys crates arguments.programId keys.market data = _
  have own : state.ownAddress.toPubkey = keys.market := stored.market.trans roles.market.symm
  have ownBytes : ByteBlocks.bytesOf state.ownAddress.toList = keys.market.bytes :=
    congrArg (fun key : Pubkey => key.bytes) own
  rw [← stored.vaultSignerNonce] at derived
  apply (decodeMarketKeys_eq_ok_iff data keys).mpr
  exact ⟨state, keys.vaultSignerKey, stores, derived, ownBytes,
    (marketKeysOf_stored roles stored).symm⟩

end Reading

section Listing

variable {crates : Crates} {rClient : ServiceMutex}

/-- One instruction for each account, which creates it for the program. -/
def CreatesAccounts (crates : Crates) (programId payer : Pubkey)
    (accounts : List (Pubkey × Nat)) (instructions : List Instruction) : Prop :=
  List.Forall₂ (fun account instruction => ∃ lamports,
      instruction = crates.createAccount payer account.1 lamports
        (UInt64.ofNat (account.2 + 12)) programId)
    accounts instructions

theorem createDexAccount_returns (programId payer : Pubkey) (unpaddedLen : Nat) :
    (createDexAccount crates rClient programId payer unpaddedLen).Returns fun made _ =>
      ∃ lamports, made.2 = crates.createAccount payer made.1.pubkey lamports
        (UInt64.ofNat (unpaddedLen + 12)) programId := by
  apply Fallible.Ensures.mono (createDexAccount_spec programId payer unpaddedLen)
  intro outcome trace spec made returned
  rcases spec with ⟨key, _, ended⟩
  subst returned
  rcases ended with ⟨rfl, _, lamports, isCreate⟩
  exact ⟨lamports, isCreate⟩

/-- The accounts of a listing, with their sizes. -/
def ListingKeys.accounts (keys : ListingKeys) : List (Pubkey × Nat) :=
  [(keys.marketKey.pubkey, 376), (keys.reqQKey.pubkey, 640), (keys.eventQKey.pubkey, 1 <<< 20),
    (keys.bidsKey.pubkey, 1 <<< 16), (keys.asksKey.pubkey, 1 <<< 16)]

theorem genListingParams_returns (programId payer : Pubkey) :
    (genListingParams crates rClient programId payer).Returns fun listing _ =>
      LeastNonce crates listing.1.marketKey.pubkey programId listing.1.vaultSignerNonce
        listing.1.vaultSignerPk ∧
      CreatesAccounts crates programId payer listing.1.accounts listing.2 := by
  apply (createDexAccount_returns programId payer 376).bind
  intro createMarket first market
  apply (createDexAccount_returns programId payer 640).bind
  intro createReqQ second reqQ
  apply (createDexAccount_returns programId payer (1 <<< 20)).bind
  intro createEventQ third eventQ
  apply (createDexAccount_returns programId payer (1 <<< 16)).bind
  intro createBids fourth bids
  apply (createDexAccount_returns programId payer (1 <<< 16)).bind
  intro createAsks fifth asks
  have searching : (Fallible.lift (findVaultSigner crates createMarket.1.pubkey programId 100 0) :
      Svc AnyError (UInt64 × Pubkey)).Returns fun found _ =>
        LeastNonce crates createMarket.1.pubkey programId found.1 found.2 :=
    Fallible.Returns.lift fun _ isFound => leastNonce_of_found isFound
  apply searching.bind
  intro vaultSigner sixth least
  apply Fallible.Returns.pure
  exact ⟨least, .cons market (.cons reqQ (.cons eventQ (.cons bids (.cons asks .nil))))⟩

/-- What a returned listing has done, for the arguments that it passed to
`initialize_market`. -/
structure Listed (crates : Crates) (programId payer coinMint pcMint : Pubkey)
    (coinLotSize pcLotSize : UInt64) (wire : List UInt8) (keys : MarketPubkeys)
    (events : List ServiceEvent) (arguments : MarketArguments) : Prop where
  roles : SameRoles keys arguments
  sameProgram : arguments.programId = programId
  sameCoinMint : arguments.coinMint = coinMint
  samePcMint : arguments.pcMint = pcMint
  sameCoinLot : arguments.coinLotSize = coinLotSize
  samePcLot : arguments.pcLotSize = pcLotSize
  least : LeastNonce crates keys.market programId arguments.vaultSignerNonce keys.vaultSignerKey
  coinVault : CreatesVault crates events payer keys.coinVault coinMint keys.vaultSignerKey
  pcVault : CreatesVault crates events payer keys.pcVault pcMint keys.vaultSignerKey
  encoded : ∃ (tx : Transaction) (creates : List Instruction) (initMarket : Instruction),
    arguments.instruction crates = .ok initMarket ∧
    CreatesAccounts crates programId payer
      [(keys.market, 376), (keys.reqQ, 640), (keys.eventQ, 1 <<< 20), (keys.bids, 1 <<< 16),
        (keys.asks, 1 <<< 16)] creates ∧
    tx.instructions = creates ++ [initMarket] ∧ crates.serialize tx = .ok wire

theorem listMarket_listed (programId : Pubkey) (payer : Keypair) (coinMint pcMint : Pubkey)
    (coinLotSize pcLotSize : UInt64) :
    (listMarket crates rClient programId payer coinMint pcMint coinLotSize pcLotSize).Returns
      fun returned trace => ∃ arguments, Listed crates programId payer.pubkey coinMint pcMint
        coinLotSize pcLotSize returned.1 returned.2 trace arguments := by
  apply (genListingParams_returns programId payer.pubkey).bind
  intro listing first generated
  rcases listing with ⟨keys, creates⟩
  rcases generated with ⟨least, accounts⟩
  apply (createTokenAccount_returns coinMint keys.vaultSignerPk payer).bind
  intro coinVault second isCoinVault
  apply (createTokenAccount_returns pcMint keys.vaultSignerPk payer).bind
  intro pcVault third isPcVault
  apply (tryForeign_returns _).bind
  intro initMarket fourth built
  apply (Fallible.Returns.anything _).bind
  intro recentHash fifth _
  apply newSignedWithPayer_returns.bind
  intro tx sixth instructions
  apply (tryForeign_returns _).bind
  intro signedTx seventh encoded
  apply Fallible.Returns.pure
  refine ⟨⟨keys.marketKey.pubkey, programId, coinMint, pcMint, coinVault.pubkey, pcVault.pubkey,
    keys.bidsKey.pubkey, keys.asksKey.pubkey, keys.reqQKey.pubkey, keys.eventQKey.pubkey,
    coinLotSize, pcLotSize, keys.vaultSignerNonce, 100⟩, ?_⟩
  constructor
  case roles => exact ⟨rfl, rfl, rfl, rfl, rfl, rfl, rfl⟩
  case sameProgram => rfl
  case sameCoinMint => rfl
  case samePcMint => rfl
  case sameCoinLot => rfl
  case samePcLot => rfl
  case least => exact least
  case coinVault =>
    apply isCoinVault.mono
    intro event isEvent
    simp [isEvent]
  case pcVault =>
    apply isPcVault.mono
    intro event isEvent
    simp [isEvent]
  case encoded => exact ⟨tx, creates, initMarket, built, accounts, instructions, encoded⟩

end Listing

/-- Whenever a market is listed, the keys are the arguments of its
`initialize_market` call in their roles, with the least nonce that has a vault
signer, and both vaults belong to that signer.  A program that stores the
arguments under their names, in either layout, is read back with these keys. -/
theorem listMarket_readBack (crates : Crates) (rClient : ServiceMutex) (programId : Pubkey)
    (payer : Keypair) (coinMint pcMint : Pubkey) (coinLotSize pcLotSize : UInt64)
    (world : ServiceWorld) (wire : List UInt8) (keys : MarketPubkeys)
    (returned : (listMarket crates rClient programId payer coinMint pcMint coinLotSize
      pcLotSize).outcome world 0 = .ok (wire, keys)) :
    ∃ arguments,
      Listed crates programId payer.pubkey coinMint pcMint coinLotSize pcLotSize wire keys
        ((listMarket crates rClient programId payer coinMint pcMint coinLotSize
          pcLotSize).events world 0) arguments ∧
      ∀ (data : Buffer) (state : MarketState) (later : ServiceWorld),
        StoresMarket crates data state → StoresArguments state arguments →
        clusterReply later 1 (.getAccountData keys.market) = .ok data →
        (getKeysForMarket crates rClient programId keys.market).outcome later 0 = .ok keys := by
  rcases (listMarket_listed programId payer coinMint pcMint coinLotSize pcLotSize).sound
    returned with ⟨arguments, listed⟩
  use arguments, listed
  intro data state later stores stored answered
  have derived := listed.least.derived
  rw [← listed.sameProgram] at derived ⊢
  exact getKeysForMarket_stored listed.roles derived stored stores answered

section SecondNonce

open Reference ByteBlocks

/-- The documented crates, except that nonce 0 has no vault signer and the wire
form is that of blank signatures. -/
def secondNonceCrates : Crates :=
  { referenceCrates with
    genVaultSignerKey := fun nonce market _ =>
      if nonce = 1 then .ok market else .error ⟨"InvalidSeeds"⟩
    serialize := fun tx =>
      let signatures := tx.signers.dedup.length
      .ok (UInt8.ofNat signatures :: List.replicate (64 * signatures) 0) }

/-- The key pair that is generated as the operation numbered `clock`. -/
def keypairAt (clock : Nat) : Keypair :=
  ⟨keypair.secret, ⟨⟨List.replicate 32 (UInt8.ofNat clock), List.length_replicate⟩⟩⟩

/-- An environment that confirms every transaction. -/
def confirmingWorld : ServiceWorld := fun clock =>
  Replies.answer
    { rpc := fun
        | .getMinimumBalanceForRentExemption _ => .ok 1
        | .getLatestBlockhash => .ok ⟨keypair.secret⟩
        | .sendAndConfirmTransaction _ _ _ => .ok ⟨⟨List.replicate 64 0, rfl⟩⟩
        | _ => .error ⟨"unavailable"⟩
      transmits := false
      elapsed := 0
      keypair := keypairAt clock
      random := 0
      signature := Reference.signature }

def listedKeys : MarketPubkeys where
  market := (keypairAt 0).pubkey
  reqQ := (keypairAt 4).pubkey
  eventQ := (keypairAt 8).pubkey
  bids := (keypairAt 12).pubkey
  asks := (keypairAt 16).pubkey
  coinVault := (keypairAt 20).pubkey
  pcVault := (keypairAt 31).pubkey
  vaultSignerKey := (keypairAt 0).pubkey

/-- A plain market with these keys, as the program lays it out. -/
def listedMarket : List UInt8 :=
  le64 3 ++ listedKeys.market.bytes ++ le64 1 ++ splToken.bytes ++ splToken.bytes ++
    listedKeys.coinVault.bytes ++ List.replicate 16 0 ++ listedKeys.pcVault.bytes ++
    List.replicate 24 0 ++ listedKeys.reqQ.bytes ++ listedKeys.eventQ.bytes ++
    listedKeys.bids.bytes ++ listedKeys.asks.bytes ++ le64 1 ++ le64 1 ++ List.replicate 16 0

/-- The account data around it start at an address that is not aligned. -/
def listedAccount : Buffer := ⟨padded listedMarket, 3⟩

theorem listedAccount_stores :
    StoresMarket secondNonceCrates listedAccount (marketState listedMarket) := by
  have holds : HoldsWords secondNonceCrates listedAccount (wordsOf listedMarket) :=
    ⟨listedMarket, rfl, by decide +kernel⟩
  have hasFlags : secondNonceCrates.accountFlags listedAccount.bytes = .ok ⟨false⟩ := by
    decide +kernel
  exact .plain holds hasFlags rfl (by decide +kernel) (by decide +kernel)

/-- The first nonce is refused: the market is listed with the second one, and read back. -/
theorem listMarket_readBack_second_nonce :
    let key := splToken
    let listing := listMarket secondNonceCrates .dexRpc key keypair key key 1 1
    (∃ wire, listing.outcome confirmingWorld 0 = .ok (wire, listedKeys)) ∧
      (getKeysForMarket secondNonceCrates .dexRpc key listedKeys.market).outcome
        (accountWorld listedAccount) 0 = .ok listedKeys := by
  intro key listing
  have returned : ∃ wire, listing.outcome confirmingWorld 0 = .ok (wire, listedKeys) := ⟨_, rfl⟩
  refine ⟨returned, ?_⟩
  obtain ⟨wire, returned⟩ := returned
  obtain ⟨arguments, listed, readBack⟩ := listMarket_readBack secondNonceCrates .dexRpc key keypair
    key key 1 1 confirmingWorld wire listedKeys returned
  apply readBack listedAccount (marketState listedMarket) (accountWorld listedAccount)
    listedAccount_stores ?_ rfl
  have nonce : arguments.vaultSignerNonce = 1 := by
    by_contra other
    have derived := listed.least.derived
    simp [secondNonceCrates, other] at derived
  constructor
  case vaultSignerNonce => rw [nonce]; decide +kernel
  case market => rw [← listed.roles.market]; decide +kernel
  case reqQ => rw [← listed.roles.reqQ]; decide +kernel
  case eventQ => rw [← listed.roles.eventQ]; decide +kernel
  case bids => rw [← listed.roles.bids]; decide +kernel
  case asks => rw [← listed.roles.asks]; decide +kernel
  case coinVault => rw [← listed.roles.coinVault]; decide +kernel
  case pcVault => rw [← listed.roles.pcVault]; decide +kernel

end SecondNonce

end RustHelper.SerumClient
