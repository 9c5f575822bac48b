import RustHelper.TaskHistories
import RustHelper.RequestProvenance
import RustHelper.BroadcastGuarantees

/-!
# Requests served side by side

Any number of requests of the two servers are answered interleaved, sharing the
clients.  What was shown of each request alone holds for each of them in every
interleaving, in terms of its own events.
-/

namespace RustHelper

open Effect LockInterleaving

section Runs

variable {Task : Type} [DecidableEq Task]

/-- Each task is to answer its request. -/
def responding (crates : Crates) (request : Task → Request) (passes : Task → Nat) :
    State service Task (Outcome Status Response) :=
  initial fun index => (request index).respond crates (passes index)

/-- The interleavings of all requests, with all that is done and answered. -/
abbrev Served (crates : Crates) (request : Task → Request) (passes : Task → Nat)
    (history : List (Task × ServiceEvent)) (state : State service Task (Outcome Status Response)) :
    Prop :=
  Recorded (fun _ _ => True) (responding crates request passes) history state

variable {crates : Crates} {request : Task → Request} {passes : Task → Nat}
  {history : List (Task × ServiceEvent)} {state : State service Task (Outcome Status Response)}

/-- What a request has done so far is granted, and so is what it will do. -/
theorem Served.proper (laws : crates.KeypairLaws)
    (served : Served crates request passes history state) (index : Task) :
    Warranted (ServiceWarrant crates ((request index).grant crates)) [] (ofTask index history) ∧
      Proper crates ((request index).grant crates) (ofTask index history).reverse
        (fun later response => response.Backed crates (request index) later)
        (state.program index) := by
  have granted := (request index).respond_proper laws [] (passes index)
  have done := Prog.Keeps.goes granted (served.goes index)
  rw [List.append_nil] at done
  exact done

/-- Each event is warranted by the request's own events before it. -/
theorem Served.warranted_at (laws : crates.KeypairLaws)
    (served : Served crates request passes history state) {index : Task}
    {before after : List (Task × ServiceEvent)} {op : ServiceOp} {answer : op.Answer}
    (split : history = before ++ (index, ⟨op, answer⟩) :: after) :
    WarrantedOp crates (ofTask index before).reverse ((request index).grant crates) op := by
  obtain ⟨warranted, -⟩ := served.proper laws index
  rw [split, ofTask_append, ofTask_own] at warranted
  have here := warranted.at_split
  rwa [List.append_nil] at here

section Minting

/-- A request to mint with the key of the payer. -/
def mintRequest : Broadcast.Mint where
  payer := genesisRequest.payer
  signer := genesisRequest.payer
  mint := genesisRequest.owner
  recipient := genesisRequest.owner
  quantity := 1

/-- The key pair that is generated; it is none of the requests. -/
def freshKeypair : Keypair :=
  ⟨⟨List.replicate 32 2, rfl⟩, ⟨⟨1 :: List.replicate 31 0, rfl⟩⟩⟩

/-- A cluster that confirms what is sent to it. -/
def mintingCluster : Replies where
  rpc
    | .getLatestBlockhash => .ok ⟨Reference.keypair.secret⟩
    | .getMinimumBalanceForRentExemption _ => .ok (0 : UInt64)
    | .sendAndConfirmTransaction _ _ _ => .ok Reference.signature
    | .confirmTransaction _ => .ok true
    | _ => .error ⟨"unavailable"⟩
  transmits := false
  elapsed := 0
  keypair := freshKeypair
  random := 0
  signature := Reference.signature

def minting : State service (Fin 2) (Outcome Status Response) :=
  responding referenceCrates (fun _ => .runMint mintRequest) fun _ => 0

def earlier : Fin 2 := 0

def later : Fin 2 := 1

/-- The two requests take turns, and the earlier one is answered. -/
def mintingSchedule : List (Fin 2) := [0, 0, 0, 1, 1, 1, 0, 1, 0, 0, 0, 0, 0, 0]

theorem mintingSchedule_goes :
    (record (L := service) mintingCluster.answer minting mintingSchedule).isSome = true := rfl

def minted : List (Fin 2 × ServiceEvent) × State service (Fin 2) (Outcome Status Response) :=
  (record (L := service) mintingCluster.answer minting mintingSchedule).get mintingSchedule_goes

theorem minted_served :
    Served referenceCrates (fun _ => .runMint mintRequest) (fun _ => 0) minted.1 minted.2 :=
  recorded_of_isSome (fun _ _ => trivial) mintingSchedule_goes

end Minting

section Opening

/-- A request for an account whose key the service generates. -/
def accountRequest : Broadcast.CreateAccount where
  mint := genesisRequest.owner
  owner := genesisRequest.owner
  payer := genesisRequest.payer

/-- The earlier request opens an account, the later one mints. -/
def openingRequest (index : Fin 2) : Request :=
  if index = earlier then .runCreateAccount accountRequest else .runMint mintRequest

def opening : State service (Fin 2) (Outcome Status Response) :=
  responding referenceCrates openingRequest fun _ => 0

/-- The requests take turns until the earlier one is answered. -/
def openingSchedule : List (Fin 2) :=
  [earlier, earlier, earlier, earlier, later, later, later, earlier, earlier, earlier, later,
    earlier, earlier, earlier, earlier]

theorem openingSchedule_goes :
    (record (L := service) mintingCluster.answer opening openingSchedule).isSome = true := rfl

def opened : List (Fin 2 × ServiceEvent) × State service (Fin 2) (Outcome Status Response) :=
  (record (L := service) mintingCluster.answer opening openingSchedule).get openingSchedule_goes

theorem opened_served :
    Served referenceCrates openingRequest (fun _ => 0) opened.1 opened.2 :=
  recorded_of_isSome (fun _ _ => trivial) openingSchedule_goes

end Opening

theorem reverse_subset {α : Type} (events : List α) : events.reverse ⊆ events :=
  fun _ isEvent => List.mem_reverse.mp isEvent

/-- In every interleaving and whatever the cluster answers, a transaction is signed
with the request's own payer paying, and only by the keys of the request and by
keys generated for it before whose accounts the transaction opens. -/
theorem served_signs_own_keys (crates : Crates) (laws : crates.KeypairLaws)
    (request : Task → Request) (passes : Task → Nat) (history : List (Task × ServiceEvent))
    (state : State service Task (Outcome Status Response))
    (served : Served crates request passes history state) (index : Task)
    (before after : List (Task × ServiceEvent)) (instructions : List Instruction)
    (payer : Option Pubkey) (signers : List Pubkey) (signature : Signature)
    (split : history =
      before ++ (index, ⟨.sign instructions payer signers, signature⟩) :: after) :
    ∃ key ∈ fieldKey crates (request index).payerField, payer = some key ∧
      ∀ signer ∈ signers,
        signer ∈ fieldKey crates (request index).payerField ∪
            fieldKey crates (request index).cosignerField ∨
          OpensAccount crates (ofTask index before) instructions key signer := by
  obtain ⟨key, isPayer, isKey, entitled⟩ := served.warranted_at laws split
  refine ⟨key, isPayer, isKey, ?_⟩
  intro signer among
  rcases entitled signer among with own | opens
  · exact .inl own
  · exact .inr (opens.grow (reverse_subset _))

theorem freshKeypair_not_payer :
    freshKeypair.pubkey ∉ fieldKey referenceCrates accountRequest.payer := by
  rintro ⟨wire, key, isField, converts, isFresh⟩
  obtain rfl := Option.some.inj isField
  cases converts
  exact absurd isFresh (by decide)

/-- The earlier request signs by a key that was generated for it, while the later one
has the client. -/
theorem served_signs_own_keys_opened :
    ∃ instructions,
      OpensAccount referenceCrates (ofTask (L := service) earlier (opened.1.take 11)) instructions
        Reference.keypair.pubkey freshKeypair.pubkey := by
  obtain ⟨key, _, isPayer, entitled⟩ := served_signs_own_keys referenceCrates
    referenceCrates_keypairLaws _ _ _ _ opened_served earlier (opened.1.take 11) (opened.1.drop 12)
    _ (some Reference.keypair.pubkey) [Reference.keypair.pubkey, freshKeypair.pubkey]
    Reference.signature rfl
  obtain rfl := Option.some.inj isPayer
  rcases entitled freshKeypair.pubkey (by simp) with (isOwn | ⟨_, _, missing, _⟩) | opens
  · exact absurd isOwn freshKeypair_not_payer
  · cases missing
  · exact ⟨_, opens⟩

/-- In every interleaving and whatever the cluster answers, a request has only what
was signed for it before simulated or submitted, and submitted only if it is of a
kind to; a batch is sent entry by entry as it came, and only signatures that the
cluster gave for it are asked about. -/
theorem served_submits_what_it_may (crates : Crates) (laws : crates.KeypairLaws)
    (request : Task → Request) (passes : Task → Nat) (history : List (Task × ServiceEvent))
    (state : State service Task (Outcome Status Response))
    (served : Served crates request passes history state) (index : Task)
    (before after : List (Task × ServiceEvent)) (op : ServiceOp) (answer : op.Answer)
    (split : history = before ++ (index, ⟨op, answer⟩) :: after) :
    match op with
    | .rpc (.simulateTransaction encoded _ _) =>
        ∃ tx, crates.serialize tx = .ok encoded ∧ SignedIn (ofTask index before) tx
    | .rpc (.sendAndConfirmTransaction tx _ _) =>
        (request index).Submits ∧ SignedIn (ofTask index before) tx
    | .rpc (.sendTransactionWithConfig entry tx _) => ∃ number wire,
        entry = some number ∧ (request index).batch[number]? = some wire ∧
          crates.deserialize wire = .ok tx
    | .rpc (.confirmTransactionWithCommitment entry signature _) => ∃ tx config,
        (⟨.rpc (.sendTransactionWithConfig entry tx config), .ok signature⟩ : ServiceEvent) ∈
          ofTask index before
    | .sendWireTransaction entry wire => (request index).batch[entry]? = some wire
    | _ => True := by
  have may := served.warranted_at laws split
  have still := reverse_subset (ofTask index before)
  split
  · obtain ⟨tx, serializes, signed⟩ := may
    exact ⟨tx, serializes, signed.grow still⟩
  · exact ⟨may.1, may.2.grow still⟩
  · exact may
  · obtain ⟨tx, config, isEvent⟩ := may
    exact ⟨tx, config, still isEvent⟩
  · exact may
  · trivial

/-- What is submitted for the first request was signed for it. -/
theorem served_submits_what_it_may_minted :
    ∃ tx config answer,
      (0, (⟨.rpc (.sendAndConfirmTransaction tx .confirmed config), answer⟩ : ServiceEvent)) ∈
          minted.1 ∧
        SignedIn (ofTask (L := service) 0 (minted.1.take 9)) tx := by
  refine ⟨_, _, _, List.mem_of_getElem? (i := 9) rfl, ?_⟩
  exact (served_submits_what_it_may referenceCrates referenceCrates_keypairLaws _ _ _ _
    minted_served 0 (minted.1.take 9) (minted.1.drop 10)
    (.rpc (.sendAndConfirmTransaction _ _ _)) _ rfl).2

end Runs

end RustHelper
