import RustHelper.FatalEvents
import RustHelper.DecodingSafety
import RustHelper.ExactSigning
import RustHelper.RequestIntents

/-!
# The answers that the service cannot cope with

Five things make the task of a request panic: a market account or an event queue that
does not decode, a market key without a vault signer, a signed transaction that cannot
be serialized for its simulation, and a batch entry without signatures that the node
accepts.  Each is known from an event and the events before it.
-/

namespace RustHelper

open Effect
open SerumClient (MarketInPlace QueueInRange generatedKeys)

namespace Request

def Lists : Request → Prop
  | .listMarket _ => True
  | _ => False

end Request

/-- The market that is to be traded on is looked up unless its keys are given. -/
theorem Request.marketAddress_of_intent {crates : Crates} {request : Request}
    {programId : Pubkey} {market : MarketSource} {act : MarketAct}
    (isIntent : request.intent crates = some (.trade programId market act)) :
    request.marketAddress = market.address := by
  have trades : ∀ {dexProgramId : Option PbProgramId} {field : Option PbMarketState}
      {asked : Option MarketAct},
      readTrade dexProgramId field asked = some (.trade programId market act) →
        (readMarket field).bind MarketSource.address = market.address := by
    intro dexProgramId field asked isTrade
    simp only [readTrade, Option.bind_eq_bind, Option.bind_eq_some_iff] at isTrade
    obtain ⟨_, -, source, isSource, _, -, same⟩ := isTrade
    cases same
    rw [isSource]
    rfl
  cases request with
  | consumeEvents r => exact trades isIntent
  | initOpenOrder r => exact trades isIntent
  | newOrder r => exact trades isIntent
  | cancelOrder r => exact trades isIntent
  | settleFunds r => exact trades isIntent
  | closeOpenOrders r => exact trades isIntent
  | matchOrders r => exact trades isIntent
  | monitorQueue r => exact trades isIntent
  | runGenesis r =>
      simp only [Request.intent, Option.bind_eq_bind, Option.bind_eq_some_iff] at isIntent
      obtain ⟨_, -, _, -, _, -, ends⟩ := isIntent
      split at ends
      · cases ends
      · cases ends
  | _ => simp [Request.intent, Option.bind_eq_some_iff] at isIntent

def LooksUp (event : ServiceEvent) : Prop := ∃ address, event.op = .rpc (.getAccountData address)

section Fatal

variable (crates : Crates) (request : Request) (past : List ServiceEvent)

/-- The first account that is looked up is the market, and it is not in place. -/
def BrokenMarket (address : Pubkey) (data : Buffer) : Prop :=
  ∃ programId, request.dexProgram = some programId ∧ request.marketAddress = some address ∧
    (∀ event ∈ past, ¬ LooksUp event) ∧ ¬ MarketInPlace crates programId address data

/-- The event queue that is to be cranked is out of range. -/
def BrokenQueue (address : Pubkey) (data : Buffer) : Prop :=
  ∃ programId market payer coinWallet pcWallet keys,
    request.intent crates = some (.trade programId market (.consume payer coinWallet pcWallet)) ∧
      market.Resolves crates past programId keys ∧ address = keys.eventQ ∧
      ¬ QueueInRange crates data

/-- The key pairs of a new market's five accounts are generated, and none of the
first hundred nonces gives a vault signer for the first of them. -/
def NoVaultSigner : Prop :=
  request.Lists ∧ (generatedKeys past).length = 5 ∧
    ∃ programId market, request.dexProgram = some programId ∧
      (generatedKeys past).getLast? = some market ∧
      ∀ nonce < 100, ∀ vaultSigner,
        crates.genVaultSignerKey nonce market.pubkey programId ≠ .ok vaultSigner

/-- The transaction, which is to be simulated, cannot be serialized. -/
def Unserializable (instructions : List Instruction) (payer : Option Pubkey)
    (signers : List Pubkey) (signature : Signature) : Prop :=
  request.Simulates ∧ ∃ recentBlockhash earlier error,
    past = ⟨.unlock .dexRpc, ()⟩ :: ⟨.rpc .getLatestBlockhash, .ok recentBlockhash⟩ :: earlier ∧
      crates.serialize (.signed instructions payer signers recentBlockhash signature) =
        .error error

/-- What a request is shown, or has done, when its task is going to panic. -/
def Fatal : ServiceEvent → Prop
  | ⟨ServiceOp.rpc (.getAccountData address), .ok data⟩ =>
      BrokenMarket crates request past address data ∨ BrokenQueue crates request past address data
  | ⟨ServiceOp.rpc (.getMinimumBalanceForRentExemption _), .ok _⟩ =>
      NoVaultSigner crates request past
  | ⟨ServiceOp.sign instructions payer signers, signature⟩ =>
      Unserializable crates request past instructions payer signers signature
  -- the client looks for the first signature of what the node has accepted
  | ⟨ServiceOp.rpc (.sendTransactionWithConfig _ tx _), .ok _⟩ => tx.firstSignature = none
  | _ => False

end Fatal

/-- Operations whose answers are never fatal. -/
def Routine : ServiceOp → Prop
  | .rpc (.getAccountData _) | .rpc (.getMinimumBalanceForRentExemption _) => False
  | .rpc (.sendTransactionWithConfig _ _ _) => False
  | .sign _ _ _ => False
  | _ => True

variable {crates : Crates} {request : Request} {past : List ServiceEvent} {ε α : Type}
  {kind : String → Prop} {rClient : ServiceMutex} {returns : List ServiceEvent → α → Prop}

theorem not_fatal_of_routine (op : ServiceOp) (routine : Routine op) (answer : op.Answer) :
    ¬ Fatal crates request past ⟨op, answer⟩ := by
  cases op with
  | rpc call =>
      cases call with
      | getAccountData address => exact routine.elim
      | getMinimumBalanceForRentExemption space => exact routine.elim
      | sendTransactionWithConfig entry tx config => exact routine.elim
      | _ => exact id
  | sign instructions payer signers => exact routine.elim
  | _ => exact id

/-- The program panics with a message of the kind exactly when something is fatal
for the request. -/
abbrev Faults (crates : Crates) (request : Request) (kind : String → Prop)
    (past : List ServiceEvent) (returns : List ServiceEvent → α → Prop) (program : Svc ε α) :
    Prop :=
  Fallible.Blames kind (Fatal crates request) past returns program

namespace Faults

theorem perform (op : ServiceOp) (routine : Routine op) :
    Faults crates request kind past (fun later answer => later = ⟨op, answer⟩ :: past)
      (Fallible.perform (I := service.toInterface) op : Svc ε _) :=
  Fallible.Blames.perform (not_fatal_of_routine op routine)

theorem locked {body : Svc ε α} (inside : ∀ answer,
      Faults crates request kind (⟨ServiceOp.lock rClient, answer⟩ :: past)
        (fun later value => ∀ answer, returns (⟨ServiceOp.unlock rClient, answer⟩ :: later) value)
        body) : Faults crates request kind past returns (RustHelper.locked rClient body) :=
  Fallible.Blames.withGuard (L := service) (not_fatal_of_routine (.lock rClient) trivial)
    (fun _ => not_fatal_of_routine (.unlock rClient) trivial) inside

theorem rpcTry {call : RpcCall}
    (spared : ∀ answer, ¬ Fatal crates request past ⟨.rpc call, answer⟩) :
    Faults crates request kind past (fun later reply => later = ⟨.rpc call, .ok reply⟩ :: past)
      (RustHelper.rpcTry call) := by
  apply Fallible.Blames.bind (Fallible.Blames.perform (I := service.toInterface) spared)
  intro later reply _ isLater
  cases reply with
  | ok value =>
      apply Fallible.Blames.pure
      exact isLater
  | error e => exact .throw _

theorem locked_rpcTry {call : RpcCall}
    (spared : ∀ answer, ¬ Fatal crates request (⟨.lock rClient, ()⟩ :: past) ⟨.rpc call, answer⟩) :
    Faults crates request kind past (fun later reply =>
        later = ⟨.unlock rClient, ()⟩ :: ⟨.rpc call, .ok reply⟩ :: ⟨.lock rClient, ()⟩ :: past)
      (RustHelper.locked rClient (RustHelper.rpcTry call)) := by
  apply locked
  intro _
  apply (rpcTry spared).mono
  intro later reply _ isLater answer
  rw [isLater]
  rfl

theorem getLatestBlockhash :
    Faults crates request kind past (fun later recentBlockhash =>
        later = ⟨.unlock rClient, ()⟩ :: ⟨.rpc .getLatestBlockhash, .ok recentBlockhash⟩ ::
          ⟨.lock rClient, ()⟩ :: past)
      (Rpcnb.getLatestBlockhash rClient) :=
  locked_rpcTry (not_fatal_of_routine (.rpc .getLatestBlockhash) trivial)

theorem tryForeign (result : Except ForeignError α) :
    Faults crates request kind past (fun later value => later = past ∧ result = .ok value)
      (RustHelper.tryForeign result) := by
  cases result with
  | ok value => exact .pure ⟨rfl, rfl⟩
  | error e => exact .throw _

/-- Only a failure to sign remains, of which the kind excludes the messages. -/
theorem newSignedWithPayer {instructions : List Instruction} {payer : Option Pubkey}
    {signers : List Keypair} {recentBlockhash : Hash} (unsimulated : ¬ request.Simulates) :
    Faults crates request (¬ IsSignFailure ·) past
      (fun later _ => ∃ signature, later =
        ⟨.sign instructions payer (signers.map Keypair.pubkey), signature⟩ :: past)
      (RustHelper.newSignedWithPayer instructions payer signers recentBlockhash : Svc ε _) := by
  apply Fallible.Blames.bind (Fallible.Blames.perform (I := service.toInterface)
    fun _ fatal => unsimulated fatal.1)
  intro later signature _ isLater
  split
  · exact .pure ⟨signature, isLater⟩
  · exact .lift (fun differs => differs (isSignFailure_iff.mpr ⟨_, rfl⟩)) nofun

/-- The client panics when the node accepts a transaction without signatures. -/
theorem sendTransactionWithConfig (entry : Option Nat) (tx : Transaction)
    (config : RpcSendTransactionConfig) :
    Faults crates request (fun _ => True) past Proper.Anything
      (RustHelper.sendTransactionWithConfig entry tx config : Svc ε _) := by
  apply Fallible.Blames.checked fun reply => (sentSignature tx reply).kept
  · exact fun _ => rfl
  · intro reply
    apply Outcome.panicsWith_true.trans
    apply (Outcome.panics_kept.trans sentSignature_panics_iff).trans
    cases reply with
    | error e => exact iff_of_false (fun panics => nomatch panics.2) id
    | ok signature => exact ⟨fun panics => panics.1, fun unsigned => ⟨unsigned, _, rfl⟩⟩
  · exact fun _ _ _ => trivial

theorem generateKeypair :
    Faults crates request kind past (fun later key => later = ⟨.generateKeypair, key⟩ :: past)
      (RustHelper.generateKeypair : Svc ε _) := perform .generateKeypair trivial

end Faults

theorem Signs.never {program : Svc ε α} (signs : Signs True (fun _ => True) program) :
    program.Ensures fun outcome _ => ¬ outcome.PanicsWith IsSignFailure := by
  apply Fallible.Ensures.mono signs
  intro outcome _ ends
  cases outcome with
  | ok value => exact id
  | err error => exact id
  | panic message => exact ends.1 trivial

/-- What does not fail to sign panics with another message. -/
theorem Ends.panicsWith {holds : α → Prop} {outcome : Outcome ε α}
    (ends : Ends True holds outcome) :
    outcome.PanicsWith (¬ IsSignFailure ·) ↔ outcome.Panics := by
  cases outcome with
  | ok value => rfl
  | err error => rfl
  | panic message => exact iff_of_true (ends trivial) trivial

/-- Only the rent for the last account of a market may be fatal. -/
theorem not_fatal_rent {space : Nat} (other : request.Lists → (generatedKeys past).length ≠ 5)
    (answer : ServiceOp.Answer (.rpc (.getMinimumBalanceForRentExemption space))) :
    ¬ Fatal crates request past ⟨.rpc (.getMinimumBalanceForRentExemption space), answer⟩ := by
  cases answer with
  | error e => exact id
  | ok lamports => exact fun fatal => other fatal.1 fatal.2.1

namespace Rpcnb

theorem getMinimumBalanceForRentExemption_faults {len : Nat}
    (other : request.Lists → (generatedKeys past).length ≠ 5) :
    Faults crates request kind past (fun later lamports =>
        later = ⟨.unlock rClient, ()⟩ ::
          ⟨.rpc (.getMinimumBalanceForRentExemption len), .ok lamports⟩ ::
          ⟨.lock rClient, ()⟩ :: past)
      (getMinimumBalanceForRentExemption rClient len) := by
  have locked : request.Lists →
      (generatedKeys (⟨ServiceOp.lock rClient, ()⟩ :: past : List ServiceEvent)).length ≠ 5 := other
  exact Faults.locked_rpcTry fun answer => not_fatal_rent locked answer

end Rpcnb

end RustHelper
