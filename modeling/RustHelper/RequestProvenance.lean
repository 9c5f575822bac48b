import RustHelper.HandlerWarrants

/-!
# Where what the service signs, sends and returns comes from

Whatever the cluster answers, all that is done for a request is warranted by what
the request grants, and what the response says is so.
-/

namespace RustHelper

open Effect

section Growing

variable {crates : Crates} {past later : List ServiceEvent} (grown : past ⊆ later)

include grown

theorem Given.grow {batch : List (List UInt8)} {signatures : List (List UInt8)}
    (accepted : Given crates batch past signatures) :
    Given crates batch later signatures := by
  refine ⟨accepted.length_eq, ?_⟩
  intro entry bytes isEntry nonempty
  obtain ⟨wire, tx, signature, among, reads, isOwn, isEvent, isBytes⟩ :=
    accepted.accepted entry bytes isEntry nonempty
  exact ⟨wire, tx, signature, among, reads, isOwn, grown isEvent, isBytes⟩

theorem Response.Backed.grow {request : Request} {response : Response}
    (backed : response.Backed crates request past) : response.Backed crates request later := by
  cases response with
  | batch reply => exact Given.grow grown backed
  | empty =>
      obtain ⟨tx, confirmed⟩ := backed
      exact ⟨tx, confirmed.grow grown⟩
  | keypair wire =>
      obtain ⟨key, opened, encoded⟩ := backed
      exact ⟨key, opened.grow grown, encoded⟩
  | marketPubkeys keys =>
      obtain ⟨programId, market, state, isProgram, isMarket, readFrom, same⟩ := backed
      exact ⟨programId, market, state, isProgram, isMarket, readFrom.grow grown, same⟩
  | listing listed =>
      obtain ⟨programId, bytes, tx, state, isProgram, same, encodes, signed, setsUp⟩ := backed
      exact ⟨programId, bytes, tx, state, isProgram, same, encodes, signed.grow grown,
        setsUp.grow grown⟩
  | signedTx signed => exact ⟨backed.1.grow grown, fun simulates => (backed.2 simulates).grow grown⟩
  | stream =>
      obtain ⟨programId, market, keys, isIntent, resolves, bidsSpawned, asksSpawned⟩ := backed
      exact ⟨programId, market, keys, isIntent, .grow grown resolves, grown bidsSpawned,
        grown asksSpawned⟩

end Growing

namespace Request

variable {crates : Crates}

theorem answered_proper {α : Type} {past : List ServiceEvent} {request : Request}
    {handler : Svc Status α} {response : α → Response} {returns : List ServiceEvent → α → Prop}
    (proper : Proper crates (request.grant crates) past returns handler)
    (backs : ∀ later value, returns later value → (response value).Backed crates request later) :
    Proper crates (request.grant crates) past
      (fun later answer => answer.Backed crates request later) (answered response handler) :=
  .bind proper fun later value _ holds => .pure (backs later value holds)

/-- Every handler does what its request grants, and backs what it returns. -/
theorem respond_proper (laws : crates.KeypairLaws) (past : List ServiceEvent) (passes : Nat)
    (request : Request) :
    Proper crates (request.grant crates) past
      (fun later response => response.Backed crates request later)
      (request.respond crates passes) := by
  cases request with
  | sendTx tx => exact answered_proper (Broadcast.sendTx_proper passes tx) fun _ _ holds => holds
  | runGenesis r => exact answered_proper (Broadcast.runGenesis_proper r) fun _ _ holds => holds
  | runInitializeTokenAccount r =>
      exact answered_proper (Broadcast.runInitializeTokenAccount_proper laws r)
        fun _ _ holds => holds
  | runCreateAccount r =>
      exact answered_proper (Broadcast.runCreateAccount_proper r) fun _ _ holds => holds
  | runMint r => exact answered_proper (Broadcast.runMint_proper laws r) fun _ _ holds => holds
  | getMarketPubkeys r =>
      exact answered_proper (DexHandlers.getMarketPubkeys_proper r) fun _ _ holds => holds
  | listMarket r => exact answered_proper (DexHandlers.listMarket_proper r) fun _ _ holds => holds
  | consumeEvents r =>
      exact answered_proper (DexHandlers.consumeEvents_proper r) fun _ _ holds => ⟨holds, nofun⟩
  | initOpenOrder r =>
      exact answered_proper (DexHandlers.initOpenOrder_proper r) fun _ _ holds => ⟨holds, nofun⟩
  | newOrder r =>
      exact answered_proper (DexHandlers.newOrder_proper r) fun _ _ holds => ⟨holds, nofun⟩
  | cancelOrder r =>
      exact answered_proper (DexHandlers.cancelOrder_proper r) fun _ _ holds =>
        ⟨holds.1, fun _ => holds.2⟩
  | settleFunds r =>
      exact answered_proper (DexHandlers.settleFunds_proper r) fun _ _ holds =>
        ⟨holds.1, fun _ => holds.2⟩
  | closeOpenOrders r =>
      exact answered_proper (DexHandlers.closeOpenOrders_proper r) fun _ _ holds =>
        ⟨holds.1, fun _ => holds.2⟩
  | matchOrders r =>
      exact answered_proper (DexHandlers.matchOrders_proper r) fun _ _ holds =>
        ⟨holds.1, fun _ => holds.2⟩
  | monitorQueue r =>
      exact answered_proper (DexHandlers.monitorQueue_proper r) fun _ _ holds => holds

end Request

end RustHelper
