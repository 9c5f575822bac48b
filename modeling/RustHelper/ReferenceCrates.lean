import RustHelper.Crates

/-!
# The crates on examples

An instance of `Crates` that follows the layouts and account lists of the crates,
and satisfies the assumptions made about them.  Two functions are only partly
followed: a transaction is serialized and read back when it has no instruction and
no account but its payer's, and the derivation of vault signers stands for a hash.
-/

namespace RustHelper

open ByteBlocks

namespace Reference

def wordAt (bytes : List UInt8) (offset : Nat) : UInt64 :=
  UInt64.ofNat (ofLittleEndian ((bytes.drop offset).take 8))

def addressAt (bytes : List UInt8) (offset : Nat) : Words4 :=
  ⟨wordAt bytes offset, wordAt bytes (offset + 8), wordAt bytes (offset + 16),
    wordAt bytes (offset + 24)⟩

def le64 (word : UInt64) : List UInt8 := littleEndian 8 word.toNat

theorem wordAt_append (front back : List UInt8) {offset : Nat} (word : UInt64)
    (starts : front.length = offset) : wordAt (front ++ (le64 word ++ back)) offset = word := by
  have fits : word.toNat < 256 ^ 8 := by simpa using word.toNat_lt
  have taken : (le64 word ++ back).take 8 = le64 word := List.take_left' (by simp [le64])
  rw [wordAt, List.drop_left' starts, taken, le64, ofLittleEndian_littleEndian fits,
    UInt64.ofNat_toNat]

def queueHeader (head count : UInt64) : Block 32 where
  bytes := le64 0 ++ le64 head ++ le64 count ++ le64 0
  length_eq := by simp [le64]

def eventOf (owner : Words4) : Block 88 where
  bytes := List.replicate 48 0 ++ bytesOf owner.toList ++ List.replicate 8 0
  length_eq := by simp [Words4.toList]

theorem wordAt_queueHeader_head (head count : UInt64) :
    wordAt (queueHeader head count).bytes 8 = head := by
  simp only [queueHeader, List.append_assoc]
  exact wordAt_append _ _ head (by simp [le64])

theorem wordAt_queueHeader_count (head count : UInt64) :
    wordAt (queueHeader head count).bytes 16 = count := by
  simp only [queueHeader]
  rw [List.append_assoc]
  exact wordAt_append _ _ count (by simp [le64])

theorem addressAt_eventOf (owner : Words4) : addressAt (eventOf owner).bytes 48 = owner := by
  obtain ⟨w0, w1, w2, w3⟩ := owner
  have laid : (eventOf ⟨w0, w1, w2, w3⟩).bytes =
      List.replicate 48 0 ++ (le64 w0 ++ (le64 w1 ++ (le64 w2 ++ (le64 w3 ++
        List.replicate 8 0)))) := by
    simp [eventOf, Words4.toList, bytesOf, wordBlock, le64]
  have first : wordAt _ 48 = w0 := wordAt_append (List.replicate 48 0)
    (le64 w1 ++ (le64 w2 ++ (le64 w3 ++ List.replicate 8 0))) w0 (by simp)
  have second : wordAt _ 56 = w1 := wordAt_append (List.replicate 48 0 ++ le64 w0)
    (le64 w2 ++ (le64 w3 ++ List.replicate 8 0)) w1 (by simp [le64])
  have third : wordAt _ 64 = w2 := wordAt_append (List.replicate 48 0 ++ le64 w0 ++ le64 w1)
    (le64 w3 ++ List.replicate 8 0) w2 (by simp [le64])
  have fourth : wordAt _ 72 = w3 := wordAt_append
    (List.replicate 48 0 ++ le64 w0 ++ le64 w1 ++ le64 w2) (List.replicate 8 0) w3
    (by simp [le64])
  simp only [List.append_assoc] at first second third fourth
  simp only [addressAt, laid, first, second, third, fourth]

def splToken : Pubkey :=
  ⟨⟨[6, 221, 246, 225, 215, 101, 161, 147, 217, 203, 225, 70, 206, 235, 121, 172,
    28, 180, 133, 237, 95, 91, 55, 145, 58, 140, 245, 133, 126, 255, 0, 169], rfl⟩⟩

def rentSysvar : Pubkey :=
  ⟨⟨[6, 167, 213, 23, 25, 44, 92, 81, 33, 140, 201, 76, 61, 74, 241, 127,
    88, 218, 238, 8, 155, 161, 253, 68, 227, 219, 217, 138, 0, 0, 0, 0], rfl⟩⟩

/-- A key pair; the public key is the base point of the curve. -/
def keypair : Keypair :=
  ⟨⟨List.replicate 32 7, rfl⟩, ⟨⟨88 :: List.replicate 31 102, rfl⟩⟩⟩

def systemProgram : Pubkey := ⟨⟨List.replicate 32 0, rfl⟩⟩

section Transmute

/-- The alignment is tested before the length. -/
def transmuteManyPedantic (data : Buffer) : Except TransmuteError (List UInt64) :=
  if data.address % 8 ≠ 0 then .error (.unaligned data.bytes)
  else if data.bytes = [] ∨ data.bytes.length % 8 ≠ 0 then .error .guard
  else .ok (wordsOf data.bytes)

def transmuteCopy : TransmuteError → Except TransmuteError (List UInt64)
  | .guard => .error .guard
  | .unaligned source => .ok (wordsOf source)

def transmuteOnePedantic (size : Nat) (bytes : List UInt8) :
    Except TransmuteError (Block size) :=
  if exact : bytes.length = size then .ok ⟨bytes, exact⟩ else .error .guard

def transmuteMany (size : Nat) (bytes : List UInt8) :
    Except TransmuteError (List (Block size)) :=
  if bytes.length < size then .error .guard else .ok (wholeBlocks size bytes)

end Transmute

section Market

def marketState (bytes : List UInt8) : MarketState where
  accountFlags := wordAt bytes 0
  ownAddress := addressAt bytes 8
  vaultSignerNonce := wordAt bytes 40
  coinVault := addressAt bytes 112
  pcVault := addressAt bytes 160
  reqQ := addressAt bytes 216
  eventQ := addressAt bytes 248
  bids := addressAt bytes 280
  asks := addressAt bytes 312

def transmuteMarketState (bytes : List UInt8) : Except TransmuteError MarketState :=
  if bytes.length = 376 then .ok (marketState bytes) else .error .guard

def transmuteMarketStateV2 (bytes : List UInt8) : Except TransmuteError MarketStateV2 :=
  if bytes.length = 1464 then .ok ⟨marketState bytes⟩ else .error .guard

/-- Bit 9 of the flags marks a permissioned market; eleven bits are in use. -/
def accountFlags (bytes : List UInt8) : Except ForeignError AccountFlags :=
  let flags := wordAt bytes 5
  if bytes.length < 13 ∨ 2048 ≤ flags.toNat then .error ⟨"InvalidMarketFlags"⟩
  else .ok ⟨flags.toNat.testBit 9⟩

/-- An initialized market, which may be disabled if that is allowed. -/
def checkFlags (state : MarketState) (allowDisabled : Bool) : Except ForeignError Unit :=
  if state.accountFlags = 3 ∨ allowDisabled ∧ state.accountFlags = 131 then .ok ()
  else .error ⟨"InvalidMarketFlags"⟩

/-- The same for a permissioned market, whose crank may need an authority. -/
def checkFlagsV2 (state : MarketStateV2) (allowDisabled : Bool) : Except ForeignError Unit :=
  let flags := state.inner.accountFlags &&& 1023
  if flags = 515 ∨ allowDisabled ∧ flags = 643 then .ok ()
  else .error ⟨"InvalidMarketFlags"⟩

def vaultSignerKey (nonce : UInt64) (market _program : Pubkey) : Except ForeignError Pubkey :=
  if nonce = 0 then .ok market else .error ⟨"InvalidSeeds"⟩

end Market

section Instructions

/-- `MarketInstruction::pack`: a version, a 4-byte tag and the arguments. -/
def pack : MarketInstruction → List UInt8
  | .matchOrders limit => [0, 2, 0, 0, 0] ++ littleEndian 2 limit.toNat
  | .consumeEvents limit => [0, 3, 0, 0, 0] ++ littleEndian 2 limit.toNat
  | .settleFunds => [0, 5, 0, 0, 0]
  | .newOrderV3 order =>
      ([0, 10, 0, 0, 0] : List UInt8) ++
      (match order.side with | .bid => [0, 0, 0, 0] | .ask => [1, 0, 0, 0]) ++
      le64 order.limitPrice ++ le64 order.maxCoinQty ++ le64 order.maxNativePcQtyIncludingFees ++
      (match order.selfTradeBehavior with
        | .decrementTake => [0, 0, 0, 0]
        | .cancelProvide => [1, 0, 0, 0]
        | .abortTransaction => [2, 0, 0, 0]) ++
      (match order.orderType with
        | .limit => [0, 0, 0, 0]
        | .immediateOrCancel => [1, 0, 0, 0]
        | .postOnly => [2, 0, 0, 0]) ++
      le64 order.clientOrderId ++ littleEndian 2 order.limit.toNat

def createAccount (source target : Pubkey) (lamports space : UInt64) (owner : Pubkey) :
    Instruction :=
  ⟨systemProgram, [.new source true, .new target true],
    [0, 0, 0, 0] ++ le64 lamports ++ le64 space ++ owner.bytes⟩

def systemTransfer (source target : Pubkey) (lamports : UInt64) : Instruction :=
  ⟨systemProgram, [.new source true, .new target false], [2, 0, 0, 0] ++ le64 lamports⟩

def initializeAccount (program account mint owner : Pubkey) : Instruction :=
  ⟨program, [.new account false, .newReadonly mint false, .newReadonly owner false,
    .newReadonly rentSysvar false], [1]⟩

def initializeMint (program mint authority : Pubkey) (freeze : Option Pubkey)
    (decimals : UInt8) : Instruction :=
  ⟨program, [.new mint false, .newReadonly rentSysvar false],
    [0, decimals] ++ authority.bytes ++
      (match freeze with | some key => 1 :: key.bytes | none => [0])⟩

def mintTo (program mint account owner : Pubkey) (signers : List Pubkey) (amount : UInt64) :
    Instruction :=
  ⟨program, [.new mint false, .new account false, .newReadonly owner signers.isEmpty] ++
    signers.map (AccountMeta.newReadonly · true), 7 :: le64 amount⟩

def tokenTransfer (program source target authority : Pubkey) (signers : List Pubkey)
    (amount : UInt64) : Instruction :=
  ⟨program, [.new source false, .new target false, .newReadonly authority signers.isEmpty] ++
    signers.map (AccountMeta.newReadonly · true), 3 :: le64 amount⟩

def cancelOrderByClientOrderIdIx (program market bids asks orders owner eventQ : Pubkey)
    (clientOrderId : UInt64) : Instruction :=
  ⟨program, [.newReadonly market false, .new bids false, .new asks false, .new orders false,
    .newReadonly owner true, .new eventQ false], [0, 12, 0, 0, 0] ++ le64 clientOrderId⟩

def closeOpenOrdersIx (program orders owner destination market : Pubkey) : Instruction :=
  ⟨program, [.new orders false, .newReadonly owner true, .new destination false,
    .newReadonly market false], [0, 14, 0, 0, 0]⟩

def initOpenOrdersIx (program orders owner market : Pubkey) (authority : Option Pubkey) :
    Instruction :=
  ⟨program, [.new orders false, .newReadonly owner true, .newReadonly market false,
    .newReadonly rentSysvar false] ++ authority.toList.map (AccountMeta.newReadonly · true),
    [0, 15, 0, 0, 0]⟩

def initializeMarket (market program coinMint pcMint coinVault pcVault : Pubkey)
    (authority prune consume : Option Pubkey) (bids asks reqQ eventQ : Pubkey)
    (coinLotSize pcLotSize nonce dust : UInt64) : Instruction :=
  ⟨program, [.new market false, .new reqQ false, .new eventQ false, .new bids false,
    .new asks false, .new coinVault false, .new pcVault false, .newReadonly coinMint false,
    .newReadonly pcMint false, .newReadonly rentSysvar false] ++
      (authority.toList ++ prune.toList ++ consume.toList).map (AccountMeta.newReadonly · false),
    [0, 0, 0, 0, 0] ++ le64 coinLotSize ++ le64 pcLotSize ++ [0, 0] ++ le64 nonce ++ le64 dust⟩

end Instructions

section Wire

def slice (bytes : List UInt8) (start size : Nat) (enough : start + size ≤ bytes.length) :
    Block size where
  bytes := (bytes.drop start).take size
  length_eq := by
    rw [List.length_take, List.length_drop]
    omega

/-- The empty transaction: no signature, an empty header, no account, a block
hash, no instruction. -/
def emptyTransaction (hash : Hash) : Transaction := ⟨[], none, [], hash, none⟩

/-- Nothing but a payer, who has signed. -/
def signedTransaction (signature : Signature) (payer : Pubkey) (hash : Hash) : Transaction :=
  ⟨[], some payer, [payer], hash, some signature⟩

/-- The numbers of signatures, of the three kinds of accounts, of accounts and of
instructions take a byte each. -/
def serialize : Transaction → Except ForeignError (List UInt8)
  | ⟨[], none, [], hash, none⟩ => .ok ([0, 0, 0, 0, 0] ++ hash.bytes ++ [0])
  | ⟨[], some payer, [signer], hash, some signature⟩ =>
      if signer = payer then
        .ok ([1] ++ signature.bytes ++ [1, 0, 0, 1] ++ payer.bytes ++ hash.bytes ++ [0])
      else .error ⟨"not followed"⟩
  | _ => .error ⟨"not followed"⟩

def deserialize (bytes : List UInt8) : Except ForeignError Transaction :=
  if empty : bytes.length = 38 ∧ bytes.take 5 = [0, 0, 0, 0, 0] ∧ bytes.drop 37 = [0] then
    .ok (emptyTransaction ⟨slice bytes 5 32 (by omega)⟩)
  else if signed : bytes.length = 134 ∧ bytes.take 1 = [1] ∧
      (bytes.drop 65).take 4 = [1, 0, 0, 1] ∧ bytes.drop 133 = [0] then
    .ok (signedTransaction ⟨slice bytes 1 64 (by omega)⟩ ⟨slice bytes 69 32 (by omega)⟩
      ⟨slice bytes 101 32 (by omega)⟩)
  else .error ⟨"not followed"⟩

def zeroHash : Hash := ⟨⟨List.replicate 32 0, rfl⟩⟩

/-- The wire form of the empty transaction with a block hash of zeros. -/
def emptyWire : List UInt8 := List.replicate 38 0

def signature : Signature := ⟨⟨List.replicate 64 7, rfl⟩⟩

/-- The wire form of a signed transaction with a block hash of zeros. -/
def signedWire : List UInt8 :=
  [1] ++ signature.bytes ++ [1, 0, 0, 1] ++ keypair.pubkey.bytes ++ List.replicate 33 0

def keypairToBytes (key : Keypair) : List UInt8 := key.secret.bytes ++ key.pubkey.bytes

def keypairFromBytes (bytes : List UInt8) : Except ForeignError Keypair :=
  if exact : bytes.length = 64 then
    .ok ⟨⟨bytes.take 32, by rw [List.length_take]; omega⟩,
      ⟨⟨bytes.drop 32, by rw [List.length_drop]; omega⟩⟩⟩
  else .error ⟨"signature error"⟩

end Wire

end Reference

open Reference in
/-- The crates, as far as they are followed. -/
def referenceCrates : Crates where
  splToken := splToken
  rentSysvar := rentSysvar
  tokenAccountLen := 165
  mintLen := 82
  openOrdersSize := 3216
  maxProcessingAge := 150
  transmuteManyPedantic := transmuteManyPedantic
  transmuteCopy := transmuteCopy
  transmuteOnePedantic := transmuteOnePedantic
  transmuteMany := transmuteMany
  transmuteMarketState := transmuteMarketState
  transmuteMarketStateV2 := transmuteMarketStateV2
  accountFlags := accountFlags
  checkFlags := checkFlags
  checkFlagsV2 := checkFlagsV2
  eventQueueHead header := wordAt header.bytes 8
  eventQueueCount header := wordAt header.bytes 16
  requestQueueHead header := wordAt header.bytes 8
  requestQueueCount header := wordAt header.bytes 16
  eventOwner event := addressAt event.bytes 48
  genVaultSignerKey := vaultSignerKey
  pack := pack
  cancelOrderByClientOrderIdIx program market bids asks orders owner eventQ id :=
    .ok (cancelOrderByClientOrderIdIx program market bids asks orders owner eventQ id)
  closeOpenOrdersIx program orders owner destination market :=
    .ok (closeOpenOrdersIx program orders owner destination market)
  initOpenOrdersIx program orders owner market authority :=
    .ok (initOpenOrdersIx program orders owner market authority)
  initializeMarket market program coinMint pcMint coinVault pcVault authority prune consume
      bids asks reqQ eventQ coinLotSize pcLotSize nonce dust :=
    .ok (initializeMarket market program coinMint pcMint coinVault pcVault authority prune consume
      bids asks reqQ eventQ coinLotSize pcLotSize nonce dust)
  createAccount := createAccount
  systemTransfer := systemTransfer
  initializeAccount program account mint owner := .ok (initializeAccount program account mint owner)
  initializeMint program mint authority freeze decimals :=
    .ok (initializeMint program mint authority freeze decimals)
  mintTo program mint account owner signers amount :=
    .ok (mintTo program mint account owner signers amount)
  tokenTransfer program source target authority signers amount :=
    .ok (tokenTransfer program source target authority signers amount)
  serialize := serialize
  deserialize := deserialize
  keypairToBytes := keypairToBytes
  keypairFromBytes := keypairFromBytes

@[simp] theorem eventQueueHead_reference (head count : UInt64) :
    referenceCrates.eventQueueHead (Reference.queueHeader head count) = head :=
  Reference.wordAt_queueHeader_head head count

@[simp] theorem eventQueueCount_reference (head count : UInt64) :
    referenceCrates.eventQueueCount (Reference.queueHeader head count) = count :=
  Reference.wordAt_queueHeader_count head count

@[simp] theorem eventOwner_reference (owner : Words4) :
    referenceCrates.eventOwner (Reference.eventOf owner) = owner :=
  Reference.addressAt_eventOf owner

theorem referenceCrates_transmuteLaws : referenceCrates.TransmuteLaws where
  pedantic_aligned data nonempty whole aligned := by
    change Reference.transmuteManyPedantic data = _
    simp [Reference.transmuteManyPedantic, nonempty, whole, aligned]
  pedantic_unaligned _ _ _ misaligned := if_pos misaligned
  copy_unaligned _ := rfl
  one_exact size block := dif_pos block.length_eq
  many_whole _ _ _ enough := if_neg (by omega)
  many_short _ _ short := if_pos short

theorem referenceCrates_guardLaws : referenceCrates.GuardLaws where
  pedantic_guard data aligned refused := by
    change Reference.transmuteManyPedantic data = _
    rw [Reference.transmuteManyPedantic, if_neg (not_not.mpr aligned), if_pos refused]
  pedantic_misaligned _ misaligned := if_pos misaligned
  copy_guard := ⟨.guard, rfl⟩

private theorem signerKeys_eq_singleton {instruction : Instruction} {signer : Pubkey}
    (marked : Crates.signerKeys instruction = [signer]) (key : Pubkey) :
    key ∈ Crates.signerKeys instruction ↔ key = signer := by
  rw [marked, List.mem_singleton]

theorem referenceCrates_signerLaws : referenceCrates.SignerLaws where
  createAccount funder account _ _ _ key := by
    change key ∈ [funder, account] ↔ _
    simp
  systemTransfer _ _ _ := signerKeys_eq_singleton rfl
  initializeAccount _ _ _ _ _ built := by
    cases built
    rfl
  initializeMint _ _ _ _ _ _ built := by
    cases built
    rfl
  mintTo _ _ _ _ _ _ built := by
    cases built
    exact signerKeys_eq_singleton rfl
  tokenTransfer _ _ _ _ _ _ built := by
    cases built
    exact signerKeys_eq_singleton rfl
  cancelOrder _ _ _ _ _ _ _ _ _ built := by
    cases built
    exact signerKeys_eq_singleton rfl
  closeOpenOrders _ _ _ _ _ _ built := by
    cases built
    exact signerKeys_eq_singleton rfl
  initOpenOrders _ _ _ _ _ built := by
    cases built
    exact signerKeys_eq_singleton rfl
  initializeMarket _ _ _ _ _ _ _ _ _ _ _ _ _ _ _ built := by
    cases built
    rfl

theorem referenceCrates_keypairLaws : referenceCrates.KeypairLaws where
  length_toBytes key := by simp [referenceCrates, Reference.keypairToBytes]
  from_to key := by
    simp [referenceCrates, Reference.keypairToBytes, Reference.keypairFromBytes]
  to_from bytes key read := by
    change Reference.keypairFromBytes bytes = _ at read
    unfold Reference.keypairFromBytes at read
    split at read
    · cases read
      exact List.take_append_drop 32 bytes
    · cases read

end RustHelper
