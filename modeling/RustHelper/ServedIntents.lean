import RustHelper.IntentHandlers
import RustHelper.ServedRuns

/-!
# Requests served side by side get what they ask for

In every interleaving, what is signed for a request serves what it asks for, what is
handed back is such a transaction, and a request that cannot be read has no effect.
-/

namespace RustHelper

open Effect LockInterleaving

section Runs

variable {Task : Type} [DecidableEq Task] {crates : Crates} {request : Task → Request}
  {passes : Task → Nat} {history : List (Task × ServiceEvent)}
  {state : State service Task (Outcome Status Response)}

theorem Served.obeys (laws : crates.KeypairLaws)
    (served : Served crates request passes history state) (index : Task) :
    Warranted (Obeys crates (request index)) [] (ofTask index history) ∧
      Obedient crates (request index) (ofTask index history).reverse id (state.program index) := by
  have obeys : Obedient crates (request index) [] id
      ((request index).respond crates (passes index)) :=
    Request.respond_obeys laws (passes index) (request index)
  have done := Prog.Keeps.goes obeys (served.goes index)
  rw [List.append_nil] at done
  exact done

/-- In every interleaving and whatever the cluster answers, what is signed for a
request consists of the instructions that the request asks for, with the accounts,
rents and queues that the cluster showed it before; and its stream follows the bids
and the asks of the market that it asks for. -/
theorem served_does_what_is_asked (crates : Crates) (laws : crates.KeypairLaws)
    (request : Task → Request) (passes : Task → Nat) (history : List (Task × ServiceEvent))
    (state : State service Task (Outcome Status Response))
    (served : Served crates request passes history state) (index : Task)
    (before after : List (Task × ServiceEvent)) (op : ServiceOp) (answer : op.Answer)
    (split : history = before ++ (index, ⟨op, answer⟩) :: after) :
    match op with
    | .sign instructions _ _ => ∃ intent, (request index).intent crates = some intent ∧
        intent.Calls crates (ofTask index before) instructions
    | .spawnMonitor side target => ∃ programId market keys,
        (request index).intent crates = some (.trade programId market .monitor) ∧
          market.Resolves crates (ofTask index before) programId keys ∧
          target = keys.followed side
    | _ => True := by
  obtain ⟨warranted, -⟩ := served.obeys laws index
  rw [split, ofTask_append, ofTask_own] at warranted
  have here := warranted.at_split
  rw [List.append_nil] at here
  have still := reverse_subset (ofTask index before)
  split
  · obtain ⟨intent, isIntent, calls⟩ := here
    exact ⟨intent, isIntent, calls.grow still⟩
  · obtain ⟨programId, market, keys, isIntent, resolves, follows⟩ := here
    exact ⟨programId, market, keys, isIntent, resolves.grow still, follows⟩
  · trivial

/-- The mint and the owner that the request for an account names. -/
def accountOwner : Pubkey := ⟨⟨List.replicate 31 1 ++ [0], rfl⟩⟩

/-- What is signed for the earlier request sets up the account it asks for. -/
theorem served_does_what_is_asked_opened :
    ∃ instructions key,
      SetsUpTokenAccount referenceCrates (ofTask (L := service) earlier (opened.1.take 11))
        Reference.keypair.pubkey accountOwner accountOwner key instructions := by
  obtain ⟨intent, isIntent, calls⟩ := served_does_what_is_asked referenceCrates
    referenceCrates_keypairLaws _ _ _ _ opened_served earlier (opened.1.take 11)
    (opened.1.drop 12) (.sign _ _ _) Reference.signature rfl
  cases isIntent
  cases calls with
  | tokenAccount setsUp => exact ⟨_, _, setsUp⟩

/-- In every interleaving, a request that cannot be read as a whole at most has the
account of its market looked up, and is never answered with success. -/
theorem served_ignores_malformed (crates : Crates) (laws : crates.KeypairLaws)
    (request : Task → Request) (passes : Task → Nat) (history : List (Task × ServiceEvent))
    (state : State service Task (Outcome Status Response))
    (served : Served crates request passes history state) (index : Task)
    (malformed : (request index).intent crates = none) :
    (∀ event ∈ ofTask index history,
      (∃ mutex, event.op = .lock mutex) ∨ (∃ mutex, event.op = .unlock mutex) ∨
        ∃ address, event.op = .rpc (.getAccountData address) ∧
          (request index).marketAddress = some address) ∧
      ∀ response, state.program index ≠ .done (.ok response) := by
  obtain ⟨warranted, left⟩ := served.obeys laws index
  constructor
  · intro event isEvent
    obtain ⟨before, after, -, obeys⟩ := warranted.of_mem isEvent
    obtain ⟨op, answer⟩ := event
    unfold Obeys at obeys
    split at obeys
    · exact .inl ⟨_, by assumption⟩
    · exact .inr (.inl ⟨_, by assumption⟩)
    · rcases obeys with looksUp | ⟨intent, isIntent⟩
      · exact .inr (.inr ⟨_, by assumption, looksUp⟩)
      · cases malformed.symm.trans isIntent
    · obtain ⟨intent, isIntent, -⟩ := obeys
      cases malformed.symm.trans isIntent
    · obtain ⟨programId, market, keys, isIntent, -⟩ := obeys
      cases malformed.symm.trans isIntent
    · obtain ⟨intent, isIntent⟩ := obeys
      cases malformed.symm.trans isIntent
  · intro response answers
    rw [answers] at left
    obtain ⟨intent, isIntent, -⟩ := left response rfl
    cases malformed.symm.trans isIntent

/-- A request to crank that leaves its wallets out. -/
def walletless : DexHandlers.CrankRequest where
  dexProgramId := some ⟨some ⟨List.replicate 32 1⟩⟩
  payer := genesisRequest.payer
  market := some ⟨some (.id ⟨List.replicate 32 1⟩)⟩
  coinWallet := none
  pcWallet := none

/-- Two requests look the market up and go no further. -/
theorem served_ignores_malformed_walletless :
    ∃ history state,
      Served referenceCrates (fun _ : Fin 2 => .consumeEvents walletless) (fun _ => 0) history
          state ∧
        (ofTask (L := service) 0 history).length = 3 ∧
        (∀ event ∈ ofTask (L := service) 0 history,
          (∃ mutex, event.op = .lock mutex) ∨ (∃ mutex, event.op = .unlock mutex) ∨
            ∃ address, event.op = .rpc (.getAccountData address) ∧
              (Request.consumeEvents walletless).marketAddress = some address) ∧
        ∀ response, state.program 0 ≠ .done (.ok response) := by
  have records : record (L := service) mintingCluster.answer
      (responding referenceCrates (fun _ : Fin 2 => .consumeEvents walletless) fun _ => 0)
      [0, 0, 0, 1, 1, 1] = some _ := rfl
  have served := record_recorded (fun _ _ => trivial) records
  exact ⟨_, _, served, rfl, served_ignores_malformed referenceCrates referenceCrates_keypairLaws _ _
    _ _ served 0 rfl⟩

end Runs

end RustHelper
