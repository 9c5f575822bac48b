import RustHelper.ServedRuns
import RustHelper.SelfBlocking

/-!
# Which requests keep moving

As long as no genesis request gets past its rent query, every request that is not
answered waits for one that can go on.  A genesis request that does get past it
keeps the RPC client of the broadcast server for good.  The DEX server is never
affected.
-/

namespace RustHelper

open Effect LockInterleaving

section Progress

variable {crates : Crates}

theorem respond_disciplined {may : ServiceEvent → Prop} (request : Request) (passes : Nat)
    (stops : ∀ event, may event → ¬ request.PassesRentQuery crates event) :
    Disciplined (L := service) lockRank may ∅ ∅ (request.respond crates passes) := by
  have serving := serve_disciplined request passes stops
  rw [Request.serve_eq] at serving
  exact (disciplined_bind_done fun _ => ()).mp serving

theorem lockRank_le (mutex : ServiceMutex) : lockRank mutex ≤ 1 := by
  cases mutex <;> decide

variable {Task : Type} [DecidableEq Task] {request : Task → Request} {passes : Task → Nat}
  {history : List (Task × ServiceEvent)} {state : State service Task (Outcome Status Response)}

/-- In every interleaving in which no genesis request gets past its rent query, a
chain of waits leads from each request that is not answered to one whose next
operation can be performed. -/
theorem served_keep_moving (crates : Crates) (request : Task → Request) (passes : Task → Nat)
    (state : State service Task (Outcome Status Response))
    (reached : Reached (fun index event => ¬ (request index).PassesRentQuery crates event)
      (responding crates request passes) state) (index : Task)
    (unanswered : ∀ outcome, state.program index ≠ .done outcome) :
    ∃ other, Relation.ReflTransGen (Waits state) index other ∧ Enabled state other := by
  have disciplined (task : Task) : Disciplined (L := service) lockRank
      (fun event => ¬ (request task).PassesRentQuery crates event)
      {mutex | state.owner mutex = some task} ∅ (state.program task) := by
    apply reached.disciplined
    exact respond_disciplined (request task) (passes task) fun _ permitted => permitted
  obtain ⟨other, -, chain, enabled⟩ := progress (fun task _ => disciplined task)
    (fun _ _ _ _ => trivial) lockRank_le (Set.mem_univ index) unanswered
  exact ⟨other, chain, enabled⟩

theorem mintRequest_not_genesis (_ : Fin 2) (event : ServiceEvent) :
    ¬ (Request.runMint mintRequest).PassesRentQuery referenceCrates event := by
  intro passing
  obtain ⟨_, _, _, _, _, _, _, isGenesis, _⟩ := passing
  cases isGenesis

/-- The second request waits for the first. -/
theorem served_keep_moving_minting :
    ∃ state : State service (Fin 2) (Outcome Status Response),
      state.owner ServiceMutex.broadcastRpc = some 0 ∧
        ∃ other, Relation.ReflTransGen (Waits state) 1 other ∧ Enabled state other := by
  have plays : play (L := service) mintingCluster.answer minting [0] = some _ := rfl
  exact ⟨_, rfl, served_keep_moving referenceCrates (fun _ => .runMint mintRequest) (fun _ => 0) _
    (play_reached mintRequest_not_genesis plays) 1 nofun⟩

/-- What lets a genesis request pass is an answer of the cluster. -/
theorem Request.PassesRentQuery.rpc {request : Request} {op : ServiceOp} {answer : op.Answer}
    (passing : request.PassesRentQuery crates ⟨op, answer⟩) :
    ∃ call lamports, (⟨op, answer⟩ : ServiceEvent) = ⟨.rpc call, .ok lamports⟩ := by
  obtain ⟨_, _, _, _, _, _, _, _, _, _, isEvent⟩ := passing
  exact ⟨_, _, isEvent⟩

/-- An operation can be answered without letting a genesis request pass. -/
theorem exists_permitted_answer (crates : Crates) (request : Request) (op : ServiceOp) :
    ∃ answer : op.Answer, ¬ request.PassesRentQuery crates ⟨op, answer⟩ := by
  obtain ⟨answer, refused⟩ : ∃ answer : op.Answer, ∀ call lamports,
      (⟨op, answer⟩ : ServiceEvent) ≠ ⟨.rpc call, .ok lamports⟩ := by
    cases op with
    | rpc call =>
        refine ⟨(.error ⟨""⟩ : Except ForeignError call.Reply), fun _ _ same => ?_⟩
        cases same
    | sendWireTransaction => exact ⟨false, fun _ _ same => by cases same⟩
    | elapsedSecs => exact ⟨(0 : Nat), fun _ _ same => by cases same⟩
    | generateKeypair => exact ⟨Reference.keypair, fun _ _ same => by cases same⟩
    | randomU64 => exact ⟨(0 : UInt64), fun _ _ same => by cases same⟩
    | sign => exact ⟨Reference.signature, fun _ _ same => by cases same⟩
    | lock | unlock | sleep | spawnMonitor => exact ⟨(), fun _ _ same => by cases same⟩
  refine ⟨answer, fun passing => ?_⟩
  obtain ⟨call, lamports, same⟩ := passing.rpc
  exact refused call lamports same

/-- Where nothing is left that may be performed, with no genesis request past its rent
query, each request has ended and nobody owns a mutex. -/
theorem served_to_the_end (crates : Crates) (request : Task → Request) (passes : Task → Nat)
    (state : State service Task (Outcome Status Response))
    (reached : Reached (fun index event => ¬ (request index).PassesRentQuery crates event)
      (responding crates request passes) state)
    (stops : ∀ index event after, ¬ (request index).PassesRentQuery crates event →
      ¬ Step state index event after) :
    (∀ index, ∃ outcome, state.program index = .done outcome) ∧
      ∀ mutex, state.owner mutex = none := by
  have disciplined (index : Task) : Disciplined (L := service) lockRank
      (fun event => ¬ (request index).PassesRentQuery crates event)
      {mutex | state.owner mutex = some index} ∅ (state.program index) := by
    apply reached.disciplined
    exact respond_disciplined (request index) (passes index) fun _ permitted => permitted
  apply all_ended disciplined lockRank_le stops
  intro index op
  exact exists_permitted_answer crates (request index) op

theorem minting_ends : (play (L := service) mintingCluster.answer minting
    (List.replicate 10 earlier ++ List.replicate 10 later)).isSome = true := rfl

/-- Both requests have been answered. -/
def mintedBoth : State service (Fin 2) (Outcome Status Response) :=
  (play (L := service) mintingCluster.answer minting
    (List.replicate 10 earlier ++ List.replicate 10 later)).get minting_ends

theorem served_to_the_end_minting : mintedBoth.owner ServiceMutex.broadcastRpc = none := by
  have plays : play (L := service) mintingCluster.answer minting
      (List.replicate 10 earlier ++ List.replicate 10 later) = some mintedBoth :=
    (Option.some_get _).symm
  have ended : ∀ index, mintedBoth.program index = .done (.ok .empty) :=
    Fin.forall_fin_two.mpr ⟨rfl, rfl⟩
  refine (served_to_the_end referenceCrates (fun _ : Fin 2 => .runMint mintRequest) (fun _ => 0)
    mintedBoth (play_reached mintRequest_not_genesis plays) ?_).2 .broadcastRpc
  intro index event after _ step
  obtain ⟨next, atCall, -⟩ := step.goesOn
  rw [ended index] at atCall
  cases atCall

/-- A genesis request and a request to the DEX server. -/
def genesisBesideDex : Fin 2 → Request
  | 0 => .runGenesis genesisRequest
  | 1 => .getMarketPubkeys ⟨some ⟨some ⟨List.replicate 32 1⟩⟩, some ⟨List.replicate 32 1⟩⟩

def besideDex : State service (Fin 2) (Outcome Status Response) :=
  responding referenceCrates genesisBesideDex fun _ => 0

end Progress

section Genesis

variable {crates : Crates}

def NotAnswered (outcome : Outcome Status Response) : Prop :=
  ∀ response, outcome ≠ .ok response

theorem respond_genesis (r : Broadcast.Genesis) (passes : Nat) :
    (Request.runGenesis r).respond crates passes =
      answered (fun _ => .empty) (Broadcast.runGenesis crates r) := rfl

section Tree

variable {r : Broadcast.Genesis} {payer mint : Keypair} {owner : Pubkey} {decimals : UInt8}

/-- Past its decoded fields a genesis request takes the RPC client and queries the
rent; with an instruction and an answer it takes the client again, and otherwise it
gives the client back and fails. -/
theorem respond_runGenesis (passes : Nat)
    (decoded : Broadcast.genesisArguments crates r = .ok (payer, mint, owner, decimals)) :
    ∃ rest : Except ForeignError UInt64 → Svc Status Response,
      (Request.runGenesis r).respond crates passes =
          .call (.lock .broadcastRpc) (fun _ =>
            .call (.rpc (.getMinimumBalanceForRentExemption crates.mintLen)) rest) ∧
        ∀ reply, (∃ lamports instruction next, reply = .ok lamports ∧
            crates.initializeMint crates.splToken mint.pubkey owner none decimals =
              .ok instruction ∧ rest reply = .call (.lock .broadcastRpc) next) ∨
          ((∀ lamports instruction, reply = .ok lamports →
              crates.initializeMint crates.splToken mint.pubkey owner none decimals ≠
                .ok instruction) ∧
            ∃ error, rest reply = .call (.unlock .broadcastRpc) fun _ => .done (.err error)) := by
  rw [respond_genesis, Broadcast.runGenesis, decoded]
  refine ⟨_, rfl, ?_⟩
  intro reply
  cases built : crates.initializeMint crates.splToken mint.pubkey owner none decimals with
  | ok instruction =>
      cases reply with
      | ok lamports => exact .inl ⟨lamports, instruction, _, rfl, rfl, rfl⟩
      | error error => exact .inr ⟨nofun, _, rfl⟩
  | error error =>
      cases reply with
      | ok lamports => exact .inr ⟨nofun, _, rfl⟩
      | error error => exact .inr ⟨nofun, _, rfl⟩

end Tree

/-- A genesis request asks for the RPC client that it holds right after it gets past
its rent query, and is not answered if it does not get past it. -/
theorem runGenesis_blocks (r : Broadcast.Genesis) (passes : Nat) :
    Blocks (L := service) ServiceMutex.broadcastRpc
      ((Request.runGenesis r).PassesRentQuery crates) NotAnswered ∅
      ((Request.runGenesis r).respond crates passes) := by
  cases decoded : Broadcast.genesisArguments crates r with
  | err error =>
      rw [respond_genesis, Broadcast.runGenesis, decoded]
      exact nofun
  | panic message =>
      rw [respond_genesis, Broadcast.runGenesis, decoded]
      exact nofun
  | ok arguments =>
      obtain ⟨payer, mint, owner, decimals⟩ := arguments
      obtain ⟨rest, isTree, goesOn⟩ := respond_runGenesis passes decoded
      rw [isTree]
      have held : ServiceMutex.broadcastRpc ∈
          (insert ServiceMutex.broadcastRpc ∅ : Set ServiceMutex) := Set.mem_insert _ _
      refine .inr fun _ reply => ?_
      rcases goesOn reply with ⟨lamports, instruction, next, -, -, relocks⟩ |
        ⟨fails, error, gives⟩
      · constructor
        · intro _
          exact ⟨held, _, next, relocks, rfl⟩
        · rw [relocks]
          exact .inl held
      · constructor
        · intro wedging
          obtain ⟨r', payer', mint', owner', decimals', instruction, lamports, isRequest,
            decoded', built, isEvent⟩ := wedging
          cases isRequest
          cases decoded.symm.trans decoded'
          cases isEvent
          exact absurd built (fails lamports instruction rfl)
        · rw [gives]
          intro _ response same
          cases same

variable {Task : Type} [DecidableEq Task] {request : Task → Request} {passes : Task → Nat}
  {state : State service Task (Outcome Status Response)}

theorem quiet_passesRentQuery {request : Request} (event : ServiceEvent)
    (passing : request.PassesRentQuery crates event) : service.action event.op = .other := by
  obtain ⟨_, _, _, _, _, _, _, _, _, _, isEvent⟩ := passing
  rw [isEvent]
  rfl

theorem reached_blocks (reached : Reached (fun _ _ => True)
      (responding crates request passes) state) {index : Task} {r : Broadcast.Genesis}
    (isGenesis : request index = .runGenesis r) :
    Blocks (L := service) ServiceMutex.broadcastRpc ((request index).PassesRentQuery crates)
      NotAnswered (Owned state index) (state.program index) := by
  refine Blocks.reached _ index ?_ quiet_passesRentQuery reached
  rw [isGenesis]
  exact runGenesis_blocks r _

/-- In every interleaving, a genesis request that gets past its rent query keeps the
RPC client of the broadcast server for good: it performs nothing more, and nobody
takes the client again.  A handler is run here until it returns.  If its caller gives
up and its future is dropped, the guard is dropped with it. -/
theorem served_genesis_wedges (crates : Crates) (request : Task → Request) (passes : Task → Nat)
    (before after later : State service Task (Outcome Status Response))
    (reached : Reached (fun _ _ => True) (responding crates request passes) before)
    (index : Task) (event : ServiceEvent) (passing : (request index).PassesRentQuery crates event)
    (step : Step before index event after) (goesOn : Reached (fun _ _ => True) after later) :
    later.owner ServiceMutex.broadcastRpc = some index ∧
      ∀ other happens next, Step later other happens next →
        other ≠ index ∧ happens.op ≠ ServiceOp.lock .broadcastRpc := by
  have isRequest : ∃ r, request index = .runGenesis r := by
    obtain ⟨r, _, _, _, _, _, _, isGenesis, _⟩ := passing
    exact ⟨r, isGenesis⟩
  obtain ⟨r, isGenesis⟩ := isRequest
  have blocks := reached_blocks reached isGenesis
  obtain ⟨requests, owns⟩ := blocks.wedged (quiet_passesRentQuery event) step passing goesOn
  refine ⟨owns, ?_⟩
  intro other happens next moves
  constructor
  · intro same
    subst same
    exact not_step_of_relocks requests owns moves
  · intro locks
    cases moves with
    | acquire answer atCall acquires free =>
        simp only at locks
        subst locks
        cases acquires
        rw [owns] at free
        cases free
    | release answer atCall releases =>
        simp only at locks
        subst locks
        cases releases
    | other answer atCall neutral =>
        simp only at locks
        subst locks
        cases neutral

theorem genesis_locks :
    (play (L := service) rentOnly.answer besideDex [earlier]).isSome = true := rfl

/-- The genesis request is about to ask for the rent. -/
def rentAsked : State service (Fin 2) (Outcome Status Response) :=
  (play (L := service) rentOnly.answer besideDex [earlier]).get genesis_locks

theorem genesis_asks :
    (advance (L := service) rentOnly.answer rentAsked earlier).isSome = true := rfl

def rentTold : State service (Fin 2) (Outcome Status Response) :=
  (advance (L := service) rentOnly.answer rentAsked earlier).get genesis_asks

/-- The rent is told to the genesis request, and the DEX request takes its client. -/
theorem served_genesis_wedges_beside_dex :
    ∃ state : State service (Fin 2) (Outcome Status Response),
      state.owner ServiceMutex.dexRpc = some 1 ∧
        state.owner ServiceMutex.broadcastRpc = some 0 := by
  have plays : play (L := service) rentOnly.answer besideDex [earlier] = some rentAsked :=
    (Option.some_get _).symm
  have told : advance (L := service) rentOnly.answer rentAsked earlier = some rentTold :=
    (Option.some_get _).symm
  have goesOn : play (L := service) rentOnly.answer rentTold [1] = some _ := rfl
  have wedged := served_genesis_wedges referenceCrates genesisBesideDex (fun _ => 0) _ _ _
    (play_reached (fun _ _ => trivial) plays) 0 _
    ⟨genesisRequest, _, _, _, _, _, _, rfl, rfl, rfl, rfl⟩ (advance_event rfl told)
    (play_reached (fun _ _ => trivial) goesOn)
  exact ⟨_, rfl, wedged.1⟩

/-- In no interleaving is a genesis request answered with success. -/
theorem served_genesis_fails (crates : Crates) (request : Task → Request) (passes : Task → Nat)
    (state : State service Task (Outcome Status Response))
    (reached : Reached (fun _ _ => True) (responding crates request passes) state)
    (index : Task) (r : Broadcast.Genesis) (isGenesis : request index = .runGenesis r)
    (response : Response) : state.program index ≠ .done (.ok response) := by
  have left := reached_blocks reached isGenesis
  intro answers
  rw [answers] at left
  exact left response rfl

theorem served_genesis_fails_beside_dex :
    ∃ state : State service (Fin 2) (Outcome Status Response),
      Requests state 0 ServiceMutex.broadcastRpc ∧ state.program 0 ≠ .done (.ok .empty) := by
  have plays : play (L := service) rentOnly.answer besideDex [0, 0] = some _ := rfl
  exact ⟨_, ⟨_, _, rfl, rfl⟩, served_genesis_fails referenceCrates genesisBesideDex (fun _ => 0) _
    (play_reached (fun _ _ => trivial) plays) 0 genesisRequest rfl .empty⟩

end Genesis

end RustHelper
