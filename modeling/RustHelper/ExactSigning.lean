import RustHelper.NewOrder
import RustHelper.ReferenceCrates
import RustHelper.SerumClient

/-!
# Transactions are signed by exactly the keys that have to

Each builder assembles its instructions and its signers separately.  Whatever
the cluster answers, both agree in every transaction that is signed, and so no
builder panics while signing.
-/

namespace RustHelper

open Effect

/-- One of the messages that a failure to sign panics with. -/
def IsSignFailure (message : String) : Prop :=
  message = signFailure .notEnoughSigners ∨ message = signFailure .keypairPubkeyMismatch

instance instDecidableIsSignFailure (message : String) : Decidable (IsSignFailure message) :=
  inferInstanceAs (Decidable (_ ∨ _))

theorem isSignFailure_iff {message : String} :
    IsSignFailure message ↔ ∃ error, message = signFailure error := by
  constructor
  · rintro (missing | unneeded)
    · exact ⟨_, missing⟩
    · exact ⟨_, unneeded⟩
  · rintro ⟨_ | _, same⟩
    · exact .inl same
    · exact .inr same

section Rules

variable {ε α β : Type} {fits : Prop} {returns : α → Prop}

/-- How a function may end: with a value as stated, or without failing to sign
if the signers fit. -/
def Ends (fits : Prop) (returns : α → Prop) : Outcome ε α → Prop
  | .ok value => returns value
  | .err _ => True
  | .panic message => fits → ¬ IsSignFailure message

/-- If the operation is a signature, the signers are exact just in case they fit. -/
def SignsIff (fits : Prop) (event : ServiceEvent) : Prop :=
  ∀ instructions payer signers, event.op = ServiceOp.sign instructions payer signers →
    (ExactSigners instructions payer signers ↔ fits)

namespace Ends

theorem bind {middle : α → Prop} {final : β → Prop} {outcome : Outcome ε α}
    {next : α → Outcome ε β} (first : Ends fits middle outcome)
    (rest : ∀ value, middle value → Ends fits final (next value)) :
    Ends fits final (outcome >>= next) := by
  cases outcome with
  | ok value => exact rest value first
  | err error => trivial
  | panic message => exact first

theorem mono {stronger : α → Prop} {outcome : Outcome ε α} (ends : Ends fits stronger outcome)
    (weaken : ∀ value, stronger value → returns value) : Ends fits returns outcome := by
  cases outcome with
  | ok value => exact weaken value ends
  | err error => trivial
  | panic message => exact ends

theorem ofExcept {δ : Type} (translate : δ → ε) (result : Except δ α) :
    Ends fits (fun value => result = .ok value) (Outcome.ofExcept translate result) := by
  cases result with
  | ok value => exact rfl
  | error e => trivial

theorem sliceTo (data : List β) (stop : Nat) :
    Ends fits (fun _ => True) (CheckedSlices.sliceTo data stop : Outcome ε (List β)) := by
  unfold CheckedSlices.sliceTo
  split_ifs
  · trivial
  · exact fun _ => by decide

theorem sliceFrom (data : List β) (start : Nat) :
    Ends fits (fun _ => True) (CheckedSlices.sliceFrom data start : Outcome ε (List β)) := by
  unfold CheckedSlices.sliceFrom
  split_ifs
  · trivial
  · exact fun _ => by decide

theorem splitAt (data : List β) (mid : Nat) :
    Ends fits (fun _ => True) (CheckedSlices.splitAt data mid : Outcome ε (List β × List β)) := by
  unfold CheckedSlices.splitAt
  split_ifs
  · trivial
  · exact fun _ => by decide

theorem subtract (first second : Nat) :
    Ends fits (fun _ => True) (CheckedSlices.subtract first second : Outcome ε Nat) := by
  unfold CheckedSlices.subtract
  split_ifs
  · trivial
  · exact fun _ => by decide

end Ends

/-- Whatever the answers, the signers of every transaction that is signed are
exact just in case they fit. -/
def Signs (fits : Prop) (returns : α → Prop) (program : Svc ε α) : Prop :=
  Prog.Confined (SignsIff fits) (Ends fits returns) program

namespace Signs

theorem lift {outcome : Outcome ε α} (ends : Ends fits returns outcome) :
    Signs fits returns (Fallible.lift outcome) := .done ends

theorem pure {value : α} (holds : returns value) :
    Signs fits returns (Pure.pure value : Svc ε α) := .done holds

theorem throw (error : ε) : Signs fits returns (Fallible.throw error : Svc ε α) := .done trivial

theorem bind {middle : α → Prop} {final : β → Prop} {program : Svc ε α} {next : α → Svc ε β}
    (first : Signs fits middle program)
    (rest : ∀ value, middle value → Signs fits final (next value)) :
    Signs fits final (program >>= next) := by
  apply Prog.Confined.bind first
  intro outcome ends
  cases outcome with
  | ok value => exact rest value ends
  | err error => exact .done trivial
  | panic message => exact .done ends

theorem mono {stronger : α → Prop} {program : Svc ε α} (spec : Signs fits stronger program)
    (weaken : ∀ value, stronger value → returns value) : Signs fits returns program :=
  Prog.Ensures.mono spec fun _ _ ends => ⟨ends.1.mono weaken, ends.2⟩

theorem perform {op : service.Op}
    (other : ∀ instructions payer signers, op ≠ ServiceOp.sign instructions payer signers) :
    Signs fits (fun _ => True) (Fallible.perform op : Svc ε _) :=
  .call (fun _ _ _ _ isSign => absurd isSign (other _ _ _)) fun _ => .done trivial

theorem locked {mutex : ServiceMutex} {body : Svc ε α} (inside : Signs fits returns body) :
    Signs fits returns (RustHelper.locked mutex body) := by
  refine .call (fun _ _ _ _ isSign => nomatch isSign) fun _ => ?_
  apply Prog.Confined.bind inside
  intro outcome ends
  exact .call (fun _ _ _ _ isSign => nomatch isSign) fun _ => .done ends

theorem rpc (call : RpcCall) : Signs fits (fun _ => True) (RustHelper.rpc call : Svc ε _) :=
  perform nofun

theorem rpcTry (call : RpcCall) : Signs fits (fun _ => True) (RustHelper.rpcTry call) :=
  .bind (rpc call) fun _ _ => .lift ((Ends.ofExcept _ _).mono fun _ _ => trivial)

theorem sendTransactionWithConfig (entry : Option Nat) (tx : Transaction)
    (config : RpcSendTransactionConfig) :
    Signs fits (fun _ => True)
      (RustHelper.sendTransactionWithConfig entry tx config : Svc ε _) := by
  apply Signs.bind (rpc _)
  intro reply _
  apply lift
  cases ended : sentSignature tx reply with
  | ok signature => trivial
  | err e => trivial
  | panic message => exact fun _ => sentSignature_panic ended ▸ by decide

theorem tryForeign (result : Except ForeignError α) :
    Signs fits (fun value => result = .ok value) (RustHelper.tryForeign result) :=
  .lift (.ofExcept _ _)

theorem generateKeypair : Signs fits (fun _ => True) (RustHelper.generateKeypair : Svc ε _) :=
  perform nofun

theorem randomU64 : Signs fits (fun _ => True) (RustHelper.randomU64 : Svc ε _) :=
  perform nofun

theorem newSignedWithPayer {instructions : List Instruction} {payer : Option Pubkey}
    {signers : List Keypair} {recentBlockhash : Hash}
    (fit : ExactSigners instructions payer (signers.map Keypair.pubkey) ↔ fits) :
    Signs fits (fun _ => True)
      (RustHelper.newSignedWithPayer instructions payer signers recentBlockhash : Svc ε _) := by
  have signed : Signs fits (fun _ => True) (Fallible.perform
      (.sign instructions payer (signers.map Keypair.pubkey) : service.Op) : Svc ε _) := by
    refine .call ?_ fun _ => .done trivial
    rintro _ _ _ _ ⟨⟩
    exact fit
  apply Signs.bind signed
  intro _ _
  split_ifs with exactly
  · exact .pure trivial
  · exact .lift fun really => absurd (fit.mpr really) exactly

end Signs

/-- The same for a function with an in/out argument. -/
def SignsInOut {σ : Type} (fits : Prop) (returns : α → Prop)
    (program : InOut service.toInterface σ ε α) : Prop :=
  ∀ slot, Prog.Confined (SignsIff fits) (fun ended => Ends fits returns ended.1) (program slot)

namespace SignsInOut

variable {σ : Type}

theorem pure {value : α} (holds : returns value) :
    SignsInOut fits returns (Pure.pure value : InOut service.toInterface σ ε α) :=
  fun _ => .done holds

theorem read :
    SignsInOut fits (fun _ => True) (InOut.read : InOut service.toInterface σ ε σ) :=
  fun _ => .done trivial

theorem assign (value : σ) :
    SignsInOut fits (fun _ => True) (InOut.assign value : InOut service.toInterface σ ε Unit) :=
  fun _ => .done trivial

theorem lift {program : Svc ε α} (spec : Signs fits returns program) :
    SignsInOut fits returns (InOut.lift program : InOut service.toInterface σ ε α) :=
  fun _ => Prog.Confined.bind spec fun _ ends => .done ends

theorem bind {middle : α → Prop} {final : β → Prop}
    {program : InOut service.toInterface σ ε α} {next : α → InOut service.toInterface σ ε β}
    (first : SignsInOut fits middle program)
    (rest : ∀ value, middle value → SignsInOut fits final (next value)) :
    SignsInOut fits final (program >>= next) := by
  intro slot
  apply Prog.Confined.bind (first slot)
  rintro ⟨value | error | message, left⟩ ends
  · exact rest value ends left
  · exact .done trivial
  · exact .done ends

theorem call {program : InOut service.toInterface σ ε α} (spec : SignsInOut fits returns program)
    (slot : σ) : Signs fits returns (program.call slot) :=
  Prog.Confined.bind (spec slot) fun _ ends => .done ends

end SignsInOut

end Rules

section Keys

variable {crates : Crates} {instructions : List Instruction} {payer : Pubkey}
  {signers : List Pubkey}

@[simp] theorem mem_requiredSigners {key : Pubkey} :
    key ∈ requiredSigners instructions (some payer) ↔
      key = payer ∨ ∃ instruction ∈ instructions, key ∈ Crates.signerKeys instruction := by
  simp [requiredSigners]

/-- An instruction that only the fee payer has to sign asks for no other signer. -/
theorem ExactSigners.append (exactly : ExactSigners instructions (some payer) signers)
    {instruction : Instruction}
    (owned : ∀ key ∈ Crates.signerKeys instruction, key = payer) :
    ExactSigners (instructions ++ [instruction]) (some payer) signers := by
  intro key
  rw [exactly key]
  simp only [mem_requiredSigners, List.mem_append, List.mem_singleton, or_and_right, exists_or,
    exists_eq_left]
  constructor
  · rintro (isPayer | needed)
    · exact .inl isPayer
    · exact .inr (.inl needed)
  · rintro (isPayer | needed | marked)
    · exact .inl isPayer
    · exact .inr needed
    · exact .inl (owned key marked)

/-- The fee payer signs alone exactly when nobody else has to sign. -/
theorem exactSigners_payer_iff :
    ExactSigners instructions (some payer) [payer] ↔
      ∀ instruction ∈ instructions, ∀ key ∈ Crates.signerKeys instruction, key = payer := by
  constructor
  · intro exactly instruction among key marked
    have signs := (exactly key).mpr (mem_requiredSigners.mpr (.inr ⟨instruction, among, marked⟩))
    exact List.mem_singleton.mp signs
  · intro owned key
    rw [mem_requiredSigners, List.mem_singleton]
    constructor
    · exact .inl
    · rintro (isPayer | ⟨instruction, among, marked⟩)
      · exact isPayer
      · exact owned instruction among key marked

theorem exactSigners_payer {instruction : Instruction}
    (owned : ∀ key ∈ Crates.signerKeys instruction, key = payer) :
    ExactSigners [instruction] (some payer) [payer] :=
  exactSigners_payer_iff.mpr (List.forall_mem_singleton.mpr owned)

/-- The accounts that are marked as signers are the payer's. -/
def OnlyPayerMarked (payer : Pubkey) (accountMetas : List AccountMeta) : Prop :=
  ∀ accountMeta ∈ accountMetas, accountMeta.isSigner → accountMeta.pubkey = payer

theorem forall_signerKeys_iff (instruction : Instruction) :
    (∀ key ∈ Crates.signerKeys instruction, key = payer) ↔
      OnlyPayerMarked payer instruction.accounts := by
  simp only [Crates.signerKeys, List.forall_mem_map, List.mem_filter, OnlyPayerMarked, and_imp]

end Keys

section Builders

variable {crates : Crates} {rClient : ServiceMutex}

namespace Rpcnb

theorem getMinimumBalanceForRentExemption_signs {fits : Prop} (len : Nat) :
    Signs fits (fun _ => True) (getMinimumBalanceForRentExemption rClient len) :=
  .locked (.rpcTry _)

theorem getLatestBlockhash_signs {fits : Prop} :
    Signs fits (fun _ => True) (getLatestBlockhash rClient) :=
  .locked (.rpcTry _)

theorem sendTxn_signs {fits : Prop} (txn : Transaction) (simulate : Bool) :
    Signs fits (fun _ => True) (sendTxn rClient txn simulate) :=
  .locked (.rpcTry _)

section Signed

variable {α : Type} {instructions : List Instruction} {payer : Option Pubkey}
  {signers : List Keypair} {next : Transaction → Svc AnyError α}

/-- What every builder does with its instructions and signers: a transaction is
signed for the latest block hash. -/
theorem signed_signs {fits : Prop}
    (fit : ExactSigners instructions payer (signers.map Keypair.pubkey) ↔ fits)
    (rest : ∀ txn, Signs fits (fun _ => True) (next txn)) :
    Signs fits (fun _ => True) (do
      let recentHash ← getLatestBlockhash rClient
      let txn ← newSignedWithPayer instructions payer signers recentHash
      next txn) := by
  apply Signs.bind getLatestBlockhash_signs
  intro recentHash _
  apply Signs.bind (.newSignedWithPayer fit)
  intro txn _
  exact rest txn

theorem signed_exactly
    (exactly : ExactSigners instructions payer (signers.map Keypair.pubkey))
    (rest : ∀ txn, Signs True (fun _ => True) (next txn)) :
    Signs True (fun _ => True) (do
      let recentHash ← getLatestBlockhash rClient
      let txn ← newSignedWithPayer instructions payer signers recentHash
      next txn) :=
  signed_signs (iff_of_true exactly trivial) rest

end Signed

theorem simulateTransaction_signs {fits : Prop} (transaction : Transaction) (sigVerify : Bool)
    (cfg : CommitmentLevel) :
    Signs fits (fun _ => True)
      (simulateTransaction crates rClient transaction sigVerify cfg) := by
  unfold simulateTransaction
  split
  · exact .lift fun _ => by decide
  · exact .locked (.bind (.rpcTry _) fun _ _ => .pure trivial)

theorem createAccountRentExempt_signs (laws : crates.SignerLaws) (payer : Keypair)
    (dataSize : Nat) (owner : Pubkey) :
    Signs True (fun _ => True)
      (createAccountRentExempt crates rClient payer dataSize owner) := by
  apply Signs.bind .generateKeypair
  intro account _
  apply Signs.locked
  apply Signs.bind (.rpcTry _)
  intro lamports _
  apply signed_exactly
  · intro key
    simp [laws.createAccount]
  · intro txn
    exact .bind (sendTxn_signs _ _) fun _ _ => .pure trivial

theorem createTokenAccountInstructions_signs (laws : crates.SignerLaws)
    (splAccount mintPubkey ownerPubkey : Pubkey) (payer : Keypair) :
    Signs True (fun instructions =>
        ExactSigners instructions (some payer.pubkey) [payer.pubkey, splAccount])
      (createTokenAccountInstructions crates rClient splAccount mintPubkey ownerPubkey payer) := by
  apply Signs.locked
  apply Signs.bind (.rpcTry _)
  intro lamports _
  apply Signs.bind (.tryForeign _)
  intro initAccountInstr built
  apply Signs.pure
  intro key
  simp [laws.createAccount, laws.initializeAccount _ _ _ _ _ built]

theorem createTokenAccount_signs (laws : crates.SignerLaws) (mintPubkey ownerPubkey : Pubkey)
    (payer : Keypair) :
    Signs True (fun _ => True)
      (createTokenAccount crates rClient mintPubkey ownerPubkey payer) := by
  apply Signs.bind .generateKeypair
  intro splAccount _
  apply Signs.bind (createTokenAccountInstructions_signs laws _ _ _ _)
  intro instructions exactly
  apply signed_exactly exactly
  intro txn
  exact .bind (sendTxn_signs _ _) fun _ _ => .pure trivial

theorem createAndInitMint_signs (laws : crates.SignerLaws) (payerKeypair mintKeypair : Keypair)
    (ownerPubkey : Pubkey) (decimals : UInt8) :
    Signs True (fun _ => True)
      (createAndInitMint crates rClient payerKeypair mintKeypair ownerPubkey decimals) := by
  apply Signs.locked
  apply Signs.bind (.rpcTry _)
  intro lamports _
  apply Signs.bind (.tryForeign _)
  intro initializeMintInstruction built
  apply signed_exactly
  · intro key
    simp [laws.createAccount, laws.initializeMint _ _ _ _ _ _ built]
  · exact fun txn => sendTxn_signs _ _

theorem newMint_signs (laws : crates.SignerLaws) (payerKeypair : Keypair) (ownerPubkey : Pubkey)
    (decimals : UInt8) :
    Signs True (fun _ => True) (newMint crates rClient payerKeypair ownerPubkey decimals) := by
  apply Signs.bind .generateKeypair
  intro mint _
  exact .bind (createAndInitMint_signs laws _ _ _ _) fun s _ => .pure trivial

theorem mintToNewAccount_signs (laws : crates.SignerLaws) (payer mintingKey : Keypair)
    (mint : Pubkey) (quantity : UInt64) :
    Signs True (fun _ => True)
      (mintToNewAccount crates rClient payer mintingKey mint quantity) := by
  apply Signs.bind .generateKeypair
  intro recipKeypair _
  apply Signs.bind (.locked (.rpcTry _))
  intro lamports _
  apply Signs.bind (.tryForeign _)
  intro initRecipInstr initialized
  apply Signs.bind (.tryForeign _)
  intro mintTokensInstr minted
  apply signed_exactly
  · intro key
    simp [laws.createAccount, laws.initializeAccount _ _ _ _ _ initialized,
      laws.mintTo _ _ _ _ _ _ minted]
    tauto
  · intro txn
    exact .bind (sendTxn_signs _ _) fun _ _ => .pure trivial

theorem transfer_signs (laws : crates.SignerLaws) (source destination : Pubkey)
    (amount : UInt64) (fromAuthority payer : Keypair) :
    Signs True (fun _ => True)
      (transfer crates rClient source destination amount fromAuthority payer) := by
  apply Signs.bind (.tryForeign _)
  intro instr built
  apply signed_exactly
  · intro key
    simp [laws.tokenTransfer _ _ _ _ _ _ built]
  · exact fun txn => sendTxn_signs _ _

end Rpcnb

namespace Util

theorem copied_signs {fits : Prop} {ε : Type} (laws : crates.KeypairLaws) (key : Keypair) :
    Signs fits (fun copy => copy = key) (copied crates key : Svc ε Keypair) := by
  unfold copied
  rw [laws.from_to]
  exact .pure rfl

theorem sendTxn_signs {fits : Prop} (txn : Transaction) (simulate : Bool) :
    Signs fits (fun _ => True) (sendTxn rClient txn simulate) := by
  apply Signs.bind (.locked (.rpcTry _))
  intro sig _
  apply Signs.locked
  apply Signs.bind (.rpcTry _)
  intro confirmed _
  split
  · exact .pure trivial
  · exact .throw _

theorem initializeTokenAccount_signs (laws : crates.SignerLaws) (keypairs : crates.KeypairLaws)
    (mint : Pubkey) (owner : Keypair) :
    Signs True (fun _ => True) (initializeTokenAccount crates rClient mint owner) := by
  apply Signs.bind .generateKeypair
  intro recipKeypair _
  apply Signs.bind (Rpcnb.getMinimumBalanceForRentExemption_signs _)
  intro lamports _
  apply Signs.bind (.tryForeign _)
  intro initRecipInstr built
  apply Signs.bind (copied_signs keypairs owner)
  intro o1 same
  apply Rpcnb.signed_exactly
  · intro key
    simp [same, laws.createAccount, laws.initializeAccount _ _ _ _ _ built]
  · intro txn
    exact .bind (sendTxn_signs _ _) fun _ _ => .pure trivial

theorem mintToExistingAccount_signs (laws : crates.SignerLaws) (keypairs : crates.KeypairLaws)
    (payer mintingKey : Keypair) (mint recipient : Pubkey) (quantity : UInt64) :
    Signs True (fun _ => True)
      (mintToExistingAccount crates rClient payer mintingKey mint recipient quantity) := by
  apply Signs.bind (copied_signs keypairs payer)
  intro payer1 samePayer
  apply Signs.bind (copied_signs keypairs mintingKey)
  intro mintingKey1 sameMinting
  apply Signs.bind (.tryForeign _)
  intro mintTokensInstr built
  apply Rpcnb.signed_exactly
  · intro key
    simp [samePayer, sameMinting, laws.mintTo _ _ _ _ _ _ built]
  · intro txn
    exact .bind (sendTxn_signs _ _) fun _ _ => .pure trivial

theorem createAccount_signs (laws : crates.SignerLaws) (mintPubkey ownerPubkey : Pubkey)
    (payer : Keypair) :
    Signs True (fun _ => True) (createAccount crates rClient mintPubkey ownerPubkey payer) := by
  apply Signs.bind .generateKeypair
  intro splAccount _
  apply Signs.bind (Rpcnb.getMinimumBalanceForRentExemption_signs _)
  intro lamports _
  apply Signs.bind (.tryForeign _)
  intro initAccountInstr built
  apply Rpcnb.signed_exactly
  · intro key
    simp [laws.createAccount, laws.initializeAccount _ _ _ _ _ built]
  · intro txn
    exact .bind (Rpcnb.sendTxn_signs _ _) fun _ _ => .pure trivial

end Util

namespace SerumClient

theorem failOnSimulationError_signs {fits : Prop} (err : Option ForeignError) :
    Signs fits (fun _ => True) (failOnSimulationError err) := by
  cases err with
  | none => exact .pure trivial
  | some e => exact .throw _

theorem serialized_signs {fits : Prop} (txn : Transaction) :
    Signs fits (fun _ => True) (serialized crates txn) := by
  unfold serialized
  split
  · exact .pure trivial
  · exact .throw _

/-- The common end of the builders that simulate what they have signed. -/
theorem signed_simulated_signs {α : Type} {instructions : List Instruction}
    {payer : Option Pubkey} {signers : List Keypair} {cfg : CommitmentLevel}
    {next : Transaction → Svc AnyError α}
    (exactly : ExactSigners instructions payer (signers.map Keypair.pubkey))
    (rest : ∀ txn, Signs True (fun _ => True) (next txn)) :
    Signs True (fun _ => True) (do
      let recentHash ← Rpcnb.getLatestBlockhash rClient
      let txn ← newSignedWithPayer instructions payer signers recentHash
      let result ← Rpcnb.simulateTransaction crates rClient txn true cfg
      failOnSimulationError result
      next txn) := by
  apply Rpcnb.signed_exactly exactly
  intro txn
  apply Signs.bind (Rpcnb.simulateTransaction_signs _ _ _)
  intro result _
  exact .bind (failOnSimulationError_signs _) fun _ _ => rest txn

theorem cancelOrderByClientOrderId_signs (laws : crates.SignerLaws) (programId : Pubkey)
    (owner : Keypair) (state : MarketPubkeys) (orders : Pubkey) (clientOrderId : UInt64) :
    Signs True (fun _ => True)
      (cancelOrderByClientOrderId crates rClient programId owner state orders clientOrderId) := by
  apply Signs.bind (.tryForeign _)
  intro ix built
  apply signed_simulated_signs
  · apply exactSigners_payer
    intro key marked
    exact (laws.cancelOrder _ _ _ _ _ _ _ _ _ built key).mp marked
  · exact fun txn => (Signs.tryForeign _).mono fun _ _ => trivial

theorem closeOpenOrders_signs (laws : crates.SignerLaws) (programId : Pubkey)
    (owner : Keypair) (state : MarketPubkeys) (orders : Pubkey) :
    Signs True (fun _ => True)
      (closeOpenOrders crates rClient programId owner state orders) := by
  apply Signs.bind (.tryForeign _)
  intro ix built
  apply signed_simulated_signs
  · apply exactSigners_payer
    intro key marked
    exact (laws.closeOpenOrders _ _ _ _ _ _ built key).mp marked
  · intro txn
    split
    · exact .pure trivial
    · exact .throw _

theorem settleFunds_signs (programId : Pubkey) (payer : Keypair) (state : MarketPubkeys)
    (signer : Option Keypair) (orders coinWallet pcWallet : Pubkey) :
    Signs True (fun _ => True)
      (settleFunds crates rClient programId payer state signer orders coinWallet pcWallet) := by
  apply signed_simulated_signs
  · intro key
    -- the instruction marks the signer that is given, or else the payer
    change key ∈ (payer :: signer.toList).map Keypair.pubkey ↔
      key ∈ [payer.pubkey, (signer.getD payer).pubkey]
    cases signer with
    | none => simp
    | some signer => simp
  · exact fun txn => serialized_signs txn

theorem matchOrders_signs (programId : Pubkey) (payer : Keypair) (state : MarketPubkeys)
    (coinWallet pcWallet : Pubkey) :
    Signs True (fun _ => True)
      (matchOrders crates rClient programId payer state coinWallet pcWallet) :=
  signed_simulated_signs (exactSigners_payer nofun) fun txn => serialized_signs txn

theorem createDexAccount_signs {fits : Prop} (laws : crates.SignerLaws)
    (programId payer : Pubkey) (unpaddedLen : Nat) :
    Signs fits (fun created => ∀ key, key ∈ Crates.signerKeys created.2 ↔
        key = payer ∨ key = created.1.pubkey)
      (createDexAccount crates rClient programId payer unpaddedLen) := by
  apply Signs.bind .generateKeypair
  intro key _
  exact .bind (Rpcnb.getMinimumBalanceForRentExemption_signs _) fun lamports _ =>
    .pure fun other => laws.createAccount _ _ _ _ _ other

/-- A new open-orders account adds its key to the signers, and an instruction
that asks for it; an account that is given adds neither. -/
theorem ordersOrNew_signs (laws : crates.SignerLaws) (programId payer : Pubkey) :
    SignsInOut True (fun opened => ExactSigners opened.2.2 (some payer)
        (opened.2.1.map Keypair.pubkey ++ [payer]))
      (ordersOrNew crates rClient programId payer) := by
  apply SignsInOut.bind .read
  intro orders _
  cases orders with
  | some pk => exact .pure (exactSigners_payer_iff.mpr nofun)
  | none =>
      apply SignsInOut.bind (.lift (createDexAccount_signs laws _ _ _))
      intro created marked
      apply SignsInOut.pure
      intro key
      simp [marked]
      tauto

theorem initOpenOrders_signs (laws : crates.SignerLaws) (programId : Pubkey) (owner : Keypair)
    (state : MarketPubkeys) (slot : Option Pubkey) :
    Signs True (fun _ => True)
      ((initOpenOrders crates rClient programId owner state).call slot) := by
  refine SignsInOut.call ?_ slot
  apply SignsInOut.bind (ordersOrNew_signs laws _ _)
  intro opened exactly
  apply SignsInOut.bind (.assign _)
  intro _ _
  apply SignsInOut.bind (.lift (.tryForeign _))
  intro instruction built
  apply SignsInOut.bind (.lift Rpcnb.getLatestBlockhash_signs)
  intro recentHash _
  refine .bind (.lift (.newSignedWithPayer (iff_of_true ?_ trivial))) fun txn _ =>
    .lift ((Signs.tryForeign _).mono fun _ _ => trivial)
  rw [List.map_append]
  exact exactly.append fun key marked =>
    (laws.initOpenOrders _ _ _ _ _ built key).mp marked

theorem placeOrder_signs (laws : crates.SignerLaws) (programId : Pubkey) (payer : Keypair)
    (wallet : Pubkey) (state : MarketPubkeys) (newOrder : NewOrderInstructionV3)
    (slot : Option Pubkey) :
    Signs True (fun _ => True)
      ((placeOrder crates rClient programId payer wallet state newOrder).call slot) := by
  refine SignsInOut.call ?_ slot
  apply SignsInOut.bind (ordersOrNew_signs laws _ _)
  intro opened exactly
  apply SignsInOut.bind (.assign _)
  intro _ _
  apply SignsInOut.bind (.lift Rpcnb.getLatestBlockhash_signs)
  intro recentHash _
  refine .bind (.lift (.newSignedWithPayer (iff_of_true ?_ trivial))) fun txn _ =>
    .lift (serialized_signs _)
  rw [List.map_append]
  apply exactly.append
  intro key marked
  change key ∈ [payer.pubkey] at marked
  exact List.mem_singleton.mp marked

theorem findVaultSigner_ends {fits : Prop} (market programId : Pubkey) (remaining : Nat)
    (i : UInt64) :
    Ends fits (fun _ => True) (findVaultSigner crates market programId remaining i) := by
  induction remaining generalizing i with
  | zero => exact fun _ => by decide
  | succ remaining ih =>
      unfold findVaultSigner
      split
      · trivial
      · exact ih _

theorem genListingParams_signs {fits : Prop} (laws : crates.SignerLaws)
    (programId payer : Pubkey) :
    Signs fits (fun listing => ExactSigners listing.2 (some payer)
        [payer, listing.1.marketKey.pubkey, listing.1.reqQKey.pubkey,
          listing.1.eventQKey.pubkey, listing.1.bidsKey.pubkey, listing.1.asksKey.pubkey])
      (genListingParams crates rClient programId payer) := by
  apply Signs.bind (createDexAccount_signs laws _ _ _)
  intro createMarket market
  apply Signs.bind (createDexAccount_signs laws _ _ _)
  intro createReqQ reqQ
  apply Signs.bind (createDexAccount_signs laws _ _ _)
  intro createEventQ eventQ
  apply Signs.bind (createDexAccount_signs laws _ _ _)
  intro createBids bids
  apply Signs.bind (createDexAccount_signs laws _ _ _)
  intro createAsks asks
  apply Signs.bind (.lift (findVaultSigner_ends _ _ _ _))
  intro vaultSigner _
  apply Signs.pure
  intro key
  simp [market, reqQ, eventQ, bids, asks]
  tauto

theorem listMarket_signs (laws : crates.SignerLaws) (programId : Pubkey) (payer : Keypair)
    (coinMint pcMint : Pubkey) (coinLotSize pcLotSize : UInt64) :
    Signs True (fun _ => True)
      (listMarket crates rClient programId payer coinMint pcMint coinLotSize pcLotSize) := by
  apply Signs.bind (genListingParams_signs laws _ _)
  intro listing exactly
  apply Signs.bind (Rpcnb.createTokenAccount_signs laws _ _ _)
  intro coinVault _
  apply Signs.bind (Rpcnb.createTokenAccount_signs laws _ _ _)
  intro pcVault _
  apply Signs.bind (.tryForeign _)
  intro initMarketInstruction built
  apply Rpcnb.signed_exactly
  · have unsigned := laws.initializeMarket _ _ _ _ _ _ _ _ _ _ _ _ _ _ _ built
    apply ExactSigners.append _ (by simp [unsigned])
    intro key
    -- the two queue keys sign twice
    rw [← exactly key]
    simp
    tauto
  · intro txn
    exact .bind (.tryForeign _) fun signedTx _ => .pure trivial

theorem removeDexAccountPadding_ends {fits : Prop} (data : Buffer) :
    Ends fits (fun _ => True) (removeDexAccountPadding crates data) := by
  apply Ends.bind (.sliceTo _ _)
  intro head _
  split
  · trivial
  split
  · trivial
  apply Ends.bind (.subtract _ _)
  intro tailStart _
  apply Ends.bind (.sliceFrom _ _)
  intro tail _
  split
  · trivial
  apply Ends.bind (.sliceTo _ _)
  intro upToTail _
  apply Ends.bind (.sliceFrom _ _)
  intro innerBytes _
  dsimp only
  split
  · trivial
  split
  · trivial
  · trivial

theorem parseEventQueue_ends {fits : Prop} (words : List UInt64) :
    Ends fits (fun _ => True) (parseEventQueue crates words) := by
  apply Ends.bind (.splitAt _ _)
  intro parts _
  apply Ends.bind (.ofExcept _ _)
  intro header _
  apply Ends.bind (.ofExcept _ _)
  intro records _
  apply Ends.bind (.splitAt _ _)
  intro segments _
  apply Ends.bind (.subtract _ _)
  intro tailLen _
  apply Ends.bind (.sliceTo _ _)
  intro first _
  exact .bind (.sliceTo _ _) fun second _ => trivial

theorem crankInstruction_unsigned {programId : Pubkey} {state : MarketPubkeys}
    {coinWallet pcWallet : Pubkey} {seg0 seg1 : List (ByteBlocks.Block 88)}
    {instruction : Instruction}
    (built : crankInstruction crates programId state coinWallet pcWallet seg0 seg1 =
      some instruction) : Crates.signerKeys instruction = [] := by
  unfold crankInstruction at built
  split at built
  · cases built
  · cases built
    simp [Crates.signerKeys, AccountMeta.new]

theorem consumeEventsInstruction_signs {fits : Prop} (programId : Pubkey)
    (state : MarketPubkeys) (coinWallet pcWallet : Pubkey) :
    Signs fits (fun crank => ∀ instruction, crank = some instruction →
        Crates.signerKeys instruction = [])
      (consumeEventsInstruction crates rClient programId state coinWallet pcWallet) := by
  apply Signs.bind (.locked (.rpcTry _))
  intro eventQData _
  apply Signs.lift
  apply Ends.bind (removeDexAccountPadding_ends _)
  intro inner _
  exact .bind (parseEventQueue_ends _) fun parsed _ instruction built =>
    crankInstruction_unsigned built

theorem consumeEvents_signs (programId : Pubkey) (payer : Keypair) (state : MarketPubkeys)
    (coinWallet pcWallet : Pubkey) :
    Signs True (fun _ => True)
      (consumeEvents crates rClient programId payer state coinWallet pcWallet) := by
  apply Signs.bind (consumeEventsInstruction_signs _ _ _ _)
  intro crank unsigned
  cases crank with
  | none => exact .throw _
  | some instruction =>
      apply Rpcnb.signed_exactly
      · exact exactSigners_payer (by simp [unsigned instruction rfl])
      · exact fun txn => (Signs.tryForeign _).mono fun _ _ => trivial

/-- With accounts chosen by the caller, the payer's signature suffices exactly
when no other account is marked. -/
theorem consumeEventsOnce_signs (laws : crates.SignerLaws) (programId : Pubkey)
    (payer : Keypair) (accountMetas : List AccountMeta) (toConsume : Nat) :
    Signs (OnlyPayerMarked payer.pubkey accountMetas) (fun _ => True)
      (consumeEventsOnce crates rClient programId payer accountMetas toConsume) := by
  apply Signs.bind .randomU64
  intro random _
  apply Rpcnb.signed_signs
  · have own (key : Pubkey) := (laws.systemTransfer payer.pubkey payer.pubkey
      (random % 10000 + 1) key).mp
    apply exactSigners_payer_iff.trans
    rw [List.forall_mem_cons, forall_signerKeys_iff, List.forall_mem_singleton]
    exact and_iff_left own
  · intro txn
    apply Signs.locked
    apply Signs.bind (.sendTransactionWithConfig _ _ _)
    intro sent _
    split
    · exact .pure trivial
    · exact .throw _

end SerumClient

end Builders

/-- A call of a function that builds a transaction. -/
inductive BuilderCall
  | consumeEvents (programId : Pubkey) (payer : Keypair) (state : MarketPubkeys)
      (coinWallet pcWallet : Pubkey)
  | consumeEventsOnce (programId : Pubkey) (payer : Keypair) (accountMetas : List AccountMeta)
      (toConsume : Nat)
  | cancelOrderByClientOrderId (programId : Pubkey) (owner : Keypair) (state : MarketPubkeys)
      (orders : Pubkey) (clientOrderId : UInt64)
  | closeOpenOrders (programId : Pubkey) (owner : Keypair) (state : MarketPubkeys)
      (orders : Pubkey)
  | initOpenOrders (programId : Pubkey) (owner : Keypair) (state : MarketPubkeys)
      (orders : Option Pubkey)
  | placeOrder (programId : Pubkey) (payer : Keypair) (wallet : Pubkey) (state : MarketPubkeys)
      (orders : Option Pubkey) (newOrder : NewOrderInstructionV3)
  | settleFunds (programId : Pubkey) (payer : Keypair) (state : MarketPubkeys)
      (signer : Option Keypair) (orders coinWallet pcWallet : Pubkey)
  | listMarket (programId : Pubkey) (payer : Keypair) (coinMint pcMint : Pubkey)
      (coinLotSize pcLotSize : UInt64)
  | matchOrders (programId : Pubkey) (payer : Keypair) (state : MarketPubkeys)
      (coinWallet pcWallet : Pubkey)
  | createAccountRentExempt (payer : Keypair) (dataSize : Nat) (owner : Pubkey)
  | createTokenAccount (mintPubkey ownerPubkey : Pubkey) (payer : Keypair)
  | createAndInitMint (payerKeypair mintKeypair : Keypair) (ownerPubkey : Pubkey)
      (decimals : UInt8)
  | newMint (payerKeypair : Keypair) (ownerPubkey : Pubkey) (decimals : UInt8)
  | mintToNewAccount (payer mintingKey : Keypair) (mint : Pubkey) (quantity : UInt64)
  | transfer (source destination : Pubkey) (amount : UInt64) (fromAuthority payer : Keypair)
  | initializeTokenAccount (mint : Pubkey) (owner : Keypair)
  | mintToExistingAccount (payer mintingKey : Keypair) (mint recipient : Pubkey)
      (quantity : UInt64)
  | createAccount (mintPubkey ownerPubkey : Pubkey) (payer : Keypair)

namespace BuilderCall

def valueIgnored {α : Type} (builder : Svc AnyError α) : Svc AnyError Unit := do
  let _ ← builder
  pure ()

def run (crates : Crates) (rClient : ServiceMutex) : BuilderCall → Svc AnyError Unit
  | .consumeEvents programId payer state coinWallet pcWallet =>
      valueIgnored (SerumClient.consumeEvents crates rClient programId payer state coinWallet
        pcWallet)
  | .consumeEventsOnce programId payer accountMetas toConsume =>
      valueIgnored (SerumClient.consumeEventsOnce crates rClient programId payer accountMetas
        toConsume)
  | .cancelOrderByClientOrderId programId owner state orders clientOrderId =>
      valueIgnored (SerumClient.cancelOrderByClientOrderId crates rClient programId owner state
        orders clientOrderId)
  | .closeOpenOrders programId owner state orders =>
      valueIgnored (SerumClient.closeOpenOrders crates rClient programId owner state orders)
  | .initOpenOrders programId owner state orders =>
      valueIgnored ((SerumClient.initOpenOrders crates rClient programId owner state).call orders)
  | .placeOrder programId payer wallet state orders newOrder =>
      valueIgnored ((SerumClient.placeOrder crates rClient programId payer wallet state
        newOrder).call orders)
  | .settleFunds programId payer state signer orders coinWallet pcWallet =>
      valueIgnored (SerumClient.settleFunds crates rClient programId payer state signer orders
        coinWallet pcWallet)
  | .listMarket programId payer coinMint pcMint coinLotSize pcLotSize =>
      valueIgnored (SerumClient.listMarket crates rClient programId payer coinMint pcMint
        coinLotSize pcLotSize)
  | .matchOrders programId payer state coinWallet pcWallet =>
      valueIgnored (SerumClient.matchOrders crates rClient programId payer state coinWallet
        pcWallet)
  | .createAccountRentExempt payer dataSize owner =>
      valueIgnored (Rpcnb.createAccountRentExempt crates rClient payer dataSize owner)
  | .createTokenAccount mintPubkey ownerPubkey payer =>
      valueIgnored (Rpcnb.createTokenAccount crates rClient mintPubkey ownerPubkey payer)
  | .createAndInitMint payerKeypair mintKeypair ownerPubkey decimals =>
      valueIgnored (Rpcnb.createAndInitMint crates rClient payerKeypair mintKeypair ownerPubkey
        decimals)
  | .newMint payerKeypair ownerPubkey decimals =>
      valueIgnored (Rpcnb.newMint crates rClient payerKeypair ownerPubkey decimals)
  | .mintToNewAccount payer mintingKey mint quantity =>
      valueIgnored (Rpcnb.mintToNewAccount crates rClient payer mintingKey mint quantity)
  | .transfer source destination amount fromAuthority payer =>
      valueIgnored (Rpcnb.transfer crates rClient source destination amount fromAuthority payer)
  | .initializeTokenAccount mint owner =>
      valueIgnored (Util.initializeTokenAccount crates rClient mint owner)
  | .mintToExistingAccount payer mintingKey mint recipient quantity =>
      valueIgnored (Util.mintToExistingAccount crates rClient payer mintingKey mint recipient
        quantity)
  | .createAccount mintPubkey ownerPubkey payer =>
      valueIgnored (Util.createAccount crates rClient mintPubkey ownerPubkey payer)

/-- Accounts that the caller chooses are marked as signers only if they are the payer's. -/
def MetasOwned : BuilderCall → Prop
  | .consumeEventsOnce _ payer accountMetas _ => OnlyPayerMarked payer.pubkey accountMetas
  | _ => True

theorem valueIgnored_signs {fits : Prop} {α : Type} {builder : Svc AnyError α}
    (spec : Signs fits (fun _ => True) builder) :
    Signs fits (fun _ => True) (valueIgnored builder) := .bind spec fun _ _ => .pure trivial

theorem run_signs {crates : Crates} (laws : crates.SignerLaws) (keypairs : crates.KeypairLaws)
    (rClient : ServiceMutex) (call : BuilderCall) :
    Signs call.MetasOwned (fun _ => True) (call.run crates rClient) := by
  cases call with
  | consumeEvents => exact valueIgnored_signs (SerumClient.consumeEvents_signs _ _ _ _ _)
  | consumeEventsOnce =>
      exact valueIgnored_signs (SerumClient.consumeEventsOnce_signs laws _ _ _ _)
  | cancelOrderByClientOrderId =>
      exact valueIgnored_signs (SerumClient.cancelOrderByClientOrderId_signs laws _ _ _ _ _)
  | closeOpenOrders => exact valueIgnored_signs (SerumClient.closeOpenOrders_signs laws _ _ _ _)
  | initOpenOrders => exact valueIgnored_signs (SerumClient.initOpenOrders_signs laws _ _ _ _)
  | placeOrder => exact valueIgnored_signs (SerumClient.placeOrder_signs laws _ _ _ _ _ _)
  | settleFunds => exact valueIgnored_signs (SerumClient.settleFunds_signs _ _ _ _ _ _ _)
  | listMarket => exact valueIgnored_signs (SerumClient.listMarket_signs laws _ _ _ _ _ _)
  | matchOrders => exact valueIgnored_signs (SerumClient.matchOrders_signs _ _ _ _ _)
  | createAccountRentExempt =>
      exact valueIgnored_signs (Rpcnb.createAccountRentExempt_signs laws _ _ _)
  | createTokenAccount => exact valueIgnored_signs (Rpcnb.createTokenAccount_signs laws _ _ _)
  | createAndInitMint => exact valueIgnored_signs (Rpcnb.createAndInitMint_signs laws _ _ _ _)
  | newMint => exact valueIgnored_signs (Rpcnb.newMint_signs laws _ _ _)
  | mintToNewAccount => exact valueIgnored_signs (Rpcnb.mintToNewAccount_signs laws _ _ _ _)
  | transfer => exact valueIgnored_signs (Rpcnb.transfer_signs laws _ _ _ _ _)
  | initializeTokenAccount =>
      exact valueIgnored_signs (Util.initializeTokenAccount_signs laws keypairs _ _)
  | mintToExistingAccount =>
      exact valueIgnored_signs (Util.mintToExistingAccount_signs laws keypairs _ _ _ _ _)
  | createAccount => exact valueIgnored_signs (Util.createAccount_signs laws _ _ _)

end BuilderCall

/-- Whatever the cluster answers, the keys that sign a transaction of a builder
are exactly the fee payer and the accounts marked as signers; in the builder
that is given its accounts, exactly when only the payer's are marked. -/
theorem builders_signers_exact (crates : Crates) (laws : crates.SignerLaws)
    (keypairs : crates.KeypairLaws) (rClient : ServiceMutex) (call : BuilderCall) :
    (call.run crates rClient).Ensures fun outcome trace =>
      (∀ event ∈ trace, ∀ instructions payer signers,
        event.op = ServiceOp.sign instructions payer signers →
          (ExactSigners instructions payer signers ↔ call.MetasOwned)) ∧
      (call.MetasOwned → ∀ error, outcome ≠ .panic (signFailure error)) := by
  refine Prog.Ensures.mono (call.run_signs laws keypairs rClient) fun outcome trace ends =>
    ⟨ends.2, ?_⟩
  rintro owned error rfl
  exact ends.1 owned (isSignFailure_iff.mpr ⟨error, rfl⟩)

section Instances

def hashWorld : ServiceWorld := fun _ =>
  Replies.answer
    { rpc := fun
        | .getLatestBlockhash => .ok ⟨⟨List.replicate 32 5, rfl⟩⟩
        | _ => .error ⟨"unavailable"⟩
      transmits := false
      elapsed := 0
      keypair := Reference.keypair
      random := 0
      signature := Reference.signature }

def markedCrank (account : Pubkey) : BuilderCall :=
  .consumeEventsOnce onesPubkey Reference.keypair [.newReadonly account true] 1

/-- Marking the payer's own account is fine. -/
theorem builders_signers_exact_own_account :
    ¬ ∃ error, ((markedCrank Reference.keypair.pubkey).run referenceCrates .dexRpc).outcome
      hashWorld 0 = .panic (signFailure error) := by
  have spec := builders_signers_exact referenceCrates referenceCrates_signerLaws
    referenceCrates_keypairLaws .dexRpc (markedCrank Reference.keypair.pubkey)
  have owned : (markedCrank Reference.keypair.pubkey).MetasOwned := by
    rintro accountMeta (_ | ⟨_, ⟨⟩⟩) _
    rfl
  exact not_exists.mpr ((spec.sound hashWorld 0).2 owned)

/-- A foreign account that is marked as a signer is not given its signer. -/
theorem consumeEventsOnce_misses_signer :
    ∃ instructions payer signers signature,
      (⟨.sign instructions payer signers, signature⟩ : ServiceEvent) ∈
        ((markedCrank onesPubkey).run referenceCrates .dexRpc).events hashWorld 0 ∧
      ¬ ExactSigners instructions payer signers ∧
      ((markedCrank onesPubkey).run referenceCrates .dexRpc).outcome hashWorld 0 =
        .panic "Transaction::sign failed with error NotEnoughSigners" := by
  refine ⟨[⟨onesPubkey, [.newReadonly onesPubkey true], referenceCrates.pack (.consumeEvents 1)⟩,
      Reference.systemTransfer Reference.keypair.pubkey Reference.keypair.pubkey 1],
    some Reference.keypair.pubkey, [Reference.keypair.pubkey], Reference.signature, ?_,
    by decide, rfl⟩
  exact List.mem_of_getElem? (i := 4) rfl

end Instances

end RustHelper
