import RustHelper.WarrantedEvents
import RustHelper.ServiceResponses

/-!
# What the service may do for a request

A request entitles the service to certain keys, mutexes and calls.  What it signs,
simulates and sends has to be warranted by that and by what happened before: a
transaction is signed for a block hash that the cluster gave, by keys of the
request or by new keys whose accounts the transaction opens; only a transaction
signed before is simulated or sent.
-/

namespace RustHelper

open Effect

/-- What a request entitles the service to. -/
structure Grant where
  payer : Set Pubkey
  signers : Set Pubkey
  mutexes : Set ServiceMutex
  submits : Prop
  batch : List (List UInt8)

section Past

variable (crates : Crates) (past : List ServiceEvent)

/-- The transaction was signed, for a block hash that the cluster gave. -/
def SignedIn (tx : Transaction) : Prop :=
  (∃ signature, (⟨.sign tx.instructions tx.payer tx.signers, signature⟩ : ServiceEvent) ∈ past ∧
      tx.firstSignature = some signature) ∧
    (⟨.rpc .getLatestBlockhash, .ok tx.recentBlockhash⟩ : ServiceEvent) ∈ past

/-- The transaction is the one that was asked to be signed, for whatever block hash. -/
def Transaction.IsSigned (instructions : List Instruction) (payer : Option Pubkey)
    (signers : List Pubkey) (tx : Transaction) : Prop :=
  ∃ recentBlockhash signature,
    tx = .signed instructions payer signers recentBlockhash signature

def GeneratedIn (key : Pubkey) : Prop :=
  ∃ keypair : Keypair, (⟨.generateKeypair, keypair⟩ : ServiceEvent) ∈ past ∧ keypair.pubkey = key

/-- The instruction sets up the account under its owning program. -/
inductive Initialises (owner account : Pubkey) : Instruction → Prop
  | tokenAccount {mint authority : Pubkey} {instruction : Instruction}
      (isToken : owner = crates.splToken)
      (built : crates.initializeAccount owner account mint authority = .ok instruction) :
      Initialises owner account instruction
  | mint {authority : Pubkey} {decimals : UInt8} {instruction : Instruction}
      (isToken : owner = crates.splToken)
      (built : crates.initializeMint owner account authority none decimals = .ok instruction) :
      Initialises owner account instruction
  | openOrders {authority market : Pubkey} {instruction : Instruction}
      (built : crates.initOpenOrdersIx owner account authority market none = .ok instruction) :
      Initialises owner account instruction
  -- the DEX sets up the open-orders account of an order that is its first
  | order {order : NewOrderInstructionV3} {accounts : List AccountMeta}
      (second : accounts[1]? = some (.new account false)) :
      Initialises owner account ⟨owner, accounts, crates.pack (.newOrderV3 order)⟩
  | market {market coinMint pcMint coinVault pcVault bids asks reqQ eventQ : Pubkey}
      {coinLotSize pcLotSize nonce dust : UInt64} {instruction : Instruction}
      (named : account ∈ [market, reqQ, eventQ, bids, asks])
      (built : crates.initializeMarket market owner coinMint pcMint coinVault pcVault none none
        none bids asks reqQ eventQ coinLotSize pcLotSize nonce dust = .ok instruction) :
      Initialises owner account instruction

/-- The instructions create the account of a key that was generated, with the rent
that the cluster asks for its size. -/
structure Prepares (instructions : List Instruction) (payer key : Pubkey) (owner : Pubkey) :
    Prop where
  generated : GeneratedIn past key
  created : ∃ lamports space,
    (⟨.rpc (.getMinimumBalanceForRentExemption space), .ok lamports⟩ : ServiceEvent) ∈ past ∧
      crates.createAccount payer key lamports (UInt64.ofNat space) owner ∈ instructions

/-- They also set the account up. -/
def OpensAccount (instructions : List Instruction) (payer key : Pubkey) : Prop :=
  ∃ owner, Prepares crates past instructions payer key owner ∧
    ∃ instruction ∈ instructions, Initialises crates owner key instruction

/-- What may be asked of the environment after the given past. -/
def WarrantedOp (grant : Grant) : ServiceOp → Prop
  | .lock mutex => mutex ∈ grant.mutexes
  | .unlock mutex => mutex ∈ grant.mutexes
  | .rpc (.simulateTransaction encoded _ _) =>
      ∃ tx, crates.serialize tx = .ok encoded ∧ SignedIn past tx
  | .rpc (.sendAndConfirmTransaction tx _ _) => grant.submits ∧ SignedIn past tx
  | .rpc (.sendTransactionWithConfig entry tx _) =>
      ∃ index bytes, entry = some index ∧ grant.batch[index]? = some bytes ∧
        crates.deserialize bytes = .ok tx
  | .rpc (.confirmTransactionWithCommitment entry signature _) =>
      ∃ tx config, (⟨.rpc (.sendTransactionWithConfig entry tx config), .ok signature⟩ :
        ServiceEvent) ∈ past
  | .sendWireTransaction entry wire => grant.batch[entry]? = some wire
  | .sign instructions payer signers =>
      ∃ key ∈ grant.payer, payer = some key ∧
        ∀ signer ∈ signers,
          signer ∈ grant.signers ∨ OpensAccount crates past instructions key signer
  | _ => True

/-- The bytes are those of a transaction that was signed. -/
def Delivers (bytes : List UInt8) : Prop :=
  ∃ tx, crates.serialize tx = .ok bytes ∧ SignedIn past tx

/-- The node answered a request to simulate the bytes, by an object that has no `err`
itself.  That says nothing of how the simulation went. -/
def SimulatedIn (bytes : List UInt8) : Prop :=
  ∃ commitment reply, (⟨.rpc (.simulateTransaction bytes true commitment), .ok reply⟩ :
    ServiceEvent) ∈ past ∧ reply.err = none

/-- The transaction was signed and the cluster confirmed it. -/
def ConfirmedIn (tx : Transaction) : Prop :=
  SignedIn past tx ∧ ∃ signature,
    (⟨.rpc (.sendAndConfirmTransaction tx .confirmed { skipPreflight := true }), .ok signature⟩ :
      ServiceEvent) ∈ past

end Past

def ServiceWarrant (crates : Crates) (grant : Grant) (past : List ServiceEvent)
    (event : ServiceEvent) : Prop := WarrantedOp crates past grant event.op

section Growing

variable {crates : Crates} {past later : List ServiceEvent} (grown : past ⊆ later)

include grown

theorem SignedIn.grow {tx : Transaction} (signed : SignedIn past tx) : SignedIn later tx := by
  obtain ⟨⟨signature, isEvent, isFirst⟩, answered⟩ := signed
  exact ⟨⟨signature, grown isEvent, isFirst⟩, grown answered⟩

theorem GeneratedIn.grow {key : Pubkey} (generated : GeneratedIn past key) :
    GeneratedIn later key := by
  obtain ⟨keypair, isEvent, isKey⟩ := generated
  exact ⟨keypair, grown isEvent, isKey⟩

theorem Prepares.grow {instructions : List Instruction} {payer key owner : Pubkey}
    (prepares : Prepares crates past instructions payer key owner) :
    Prepares crates later instructions payer key owner := by
  obtain ⟨lamports, space, funded, created⟩ := prepares.created
  exact ⟨prepares.generated.grow grown, lamports, space, grown funded, created⟩

theorem OpensAccount.grow {instructions : List Instruction} {payer key : Pubkey}
    (opens : OpensAccount crates past instructions payer key) :
    OpensAccount crates later instructions payer key := by
  obtain ⟨owner, prepares, initialised⟩ := opens
  exact ⟨owner, prepares.grow grown, initialised⟩

theorem Delivers.grow {bytes : List UInt8} (delivers : Delivers crates past bytes) :
    Delivers crates later bytes := by
  obtain ⟨tx, serializes, signed⟩ := delivers
  exact ⟨tx, serializes, signed.grow grown⟩

theorem SimulatedIn.grow {bytes : List UInt8} (simulated : SimulatedIn past bytes) :
    SimulatedIn later bytes := by
  obtain ⟨commitment, reply, isEvent, succeeded⟩ := simulated
  exact ⟨commitment, reply, grown isEvent, succeeded⟩

theorem ConfirmedIn.grow {tx : Transaction} (confirmed : ConfirmedIn past tx) :
    ConfirmedIn later tx := by
  obtain ⟨signed, signature, isEvent⟩ := confirmed
  exact ⟨signed.grow grown, signature, grown isEvent⟩

end Growing

theorem Prepares.more {crates : Crates} {past : List ServiceEvent}
    {instructions more : List Instruction} {payer key owner : Pubkey}
    (prepares : Prepares crates past instructions payer key owner)
    (among : instructions ⊆ more) : Prepares crates past more payer key owner := by
  obtain ⟨lamports, space, funded, created⟩ := prepares.created
  exact ⟨prepares.generated, lamports, space, funded, among created⟩

section Rules

variable {ε α β : Type} {crates : Crates} {grant : Grant} {past : List ServiceEvent}
  {returns : List ServiceEvent → α → Prop}

/-- Whatever the answers, the program only does what is warranted after the past, and
what it returns is as described. -/
abbrev Proper (crates : Crates) (grant : Grant) (past : List ServiceEvent)
    (returns : List ServiceEvent → α → Prop) (program : Svc ε α) : Prop :=
  Fallible.Justified (ServiceWarrant crates grant) past returns program

namespace Proper

/-- Nothing is said of the value. -/
def Anything (_ : List ServiceEvent) (_ : α) : Prop := True

theorem unit_lift (outcome : Outcome ε α) :
    Proper crates grant past Anything (Fallible.lift outcome : Svc ε α) :=
  .lift fun _ _ => trivial

theorem decoded (outcome : Outcome ε α) :
    Proper crates grant past (fun _ value => outcome = .ok value)
      (Fallible.lift outcome : Svc ε α) := .lift fun _ isOk => isOk

theorem forget {program : Svc ε α} (proper : Proper crates grant past returns program) :
    Proper crates grant past Anything program :=
  proper.mono fun _ _ _ _ => trivial

theorem rpc (call : RpcCall) (warranted : WarrantedOp crates past grant (.rpc call)) :
    Proper crates grant past (fun later reply => (⟨.rpc call, reply⟩ : ServiceEvent) ∈ later)
      (RustHelper.rpc call : Svc ε _) :=
  Fallible.Justified.perform (I := service.toInterface) fun _ => warranted

theorem rpcTry (call : RpcCall) (warranted : WarrantedOp crates past grant (.rpc call)) :
    Proper crates grant past (fun later reply => (⟨.rpc call, .ok reply⟩ : ServiceEvent) ∈ later)
      (RustHelper.rpcTry call) := by
  apply Fallible.Justified.bind (rpc call warranted)
  intro later reply _ isEvent
  apply Fallible.Justified.lift
  intro value isOk
  have same : reply = .ok value := Outcome.ofExcept_eq_ok_iff.mp isOk
  rwa [same] at isEvent

theorem generateKeypair :
    Proper crates grant past
      (fun later key => (⟨.generateKeypair, key⟩ : ServiceEvent) ∈ later)
      (RustHelper.generateKeypair : Svc ε _) :=
  Fallible.Justified.perform (I := service.toInterface) fun _ => trivial

theorem sendTransactionWithConfig (entry : Option Nat) (tx : Transaction)
    (config : RpcSendTransactionConfig)
    (warranted : WarrantedOp crates past grant
      (.rpc (.sendTransactionWithConfig entry tx config))) :
    Proper crates grant past
      (fun later result => ∀ signature, result = .ok signature →
        tx.firstSignature = some signature ∧
          (⟨.rpc (.sendTransactionWithConfig entry tx config), .ok signature⟩ : ServiceEvent) ∈
            later)
      (RustHelper.sendTransactionWithConfig entry tx config : Svc ε _) := by
  apply Fallible.Justified.bind (rpc _ warranted)
  intro later reply _ isEvent
  apply Fallible.Justified.lift
  rintro _ returned signature rfl
  obtain ⟨isOwn, accepted⟩ := sentSignature_eq_ok_iff.mp (Outcome.kept_eq_ok_ok_iff.mp returned)
  exact ⟨isOwn, accepted ▸ isEvent⟩

theorem tryForeign (result : Except ForeignError α) :
    Proper crates grant past (fun _ value => result = .ok value) (RustHelper.tryForeign result) :=
  .lift fun _ isOk => Outcome.ofExcept_eq_ok_iff.mp isOk

theorem locked {mutex : ServiceMutex} {body : Svc ε α} (granted : mutex ∈ grant.mutexes)
    (inside : ∀ answer, Proper crates grant (⟨ServiceOp.lock mutex, answer⟩ :: past)
      (fun later value => ∀ answer, returns (⟨ServiceOp.unlock mutex, answer⟩ :: later) value)
      body) :
    Proper crates grant past returns (RustHelper.locked mutex body) :=
  Fallible.Justified.withGuard (L := service) (fun _ => granted) (fun _ _ => granted) inside

theorem locked_rpcTry {mutex : ServiceMutex} (call : RpcCall) (granted : mutex ∈ grant.mutexes)
    (warranted : ∀ later, past ⊆ later → WarrantedOp crates later grant (.rpc call)) :
    Proper crates grant past (fun later reply => (⟨.rpc call, .ok reply⟩ : ServiceEvent) ∈ later)
      (RustHelper.locked mutex (RustHelper.rpcTry call)) := by
  apply locked granted
  intro answer
  apply (rpcTry call (warranted _ (List.subset_cons_self _ _))).mono
  intro later reply _ isEvent answer
  exact List.mem_cons_of_mem _ isEvent

/-- Signing by entitled keys and by keys whose accounts are opened. -/
theorem newSignedWithPayer {instructions : List Instruction} {payer : Pubkey}
    {signers : List Keypair} {recentBlockhash : Hash} (isPayer : payer ∈ grant.payer)
    (entitled : ∀ signer ∈ signers, signer.pubkey ∈ grant.signers ∨
      OpensAccount crates past instructions payer signer.pubkey)
    (answered : (⟨.rpc .getLatestBlockhash, .ok recentBlockhash⟩ : ServiceEvent) ∈ past) :
    Proper crates grant past
      (fun later tx => SignedIn later tx ∧
        tx.IsSigned instructions (some payer) (signers.map Keypair.pubkey))
      (RustHelper.newSignedWithPayer instructions (some payer) signers recentBlockhash :
        Svc ε _) := by
  have granted : WarrantedOp crates past grant
      (.sign instructions (some payer) (signers.map Keypair.pubkey)) :=
    ⟨payer, isPayer, rfl, List.forall_mem_map.mpr entitled⟩
  apply Fallible.Justified.bind
    (Fallible.Justified.perform (I := service.toInterface) fun _ => granted)
  intro later answer grown isEvent
  split
  · exact .pure ⟨⟨⟨answer, isEvent, rfl⟩, grown answered⟩, _, _, rfl⟩
  · exact .lift nofun

end Proper

end Rules

end RustHelper
