import RustHelper.DeadlockFreedom

/-!
# What the service answers

The responses of all handlers as one type, and the service as one function from
requests to them.  Serving a request is this function with the response left out.
-/

namespace RustHelper

open Effect

/-- The message that is sent back; a batch may still be under way. -/
inductive Response
  | batch (reply : Broadcast.SendTxReply)
  | empty
  | keypair (keypair : PbKeypair)
  | marketPubkeys (keys : PbMarketPubkeys)
  | listing (listing : DexHandlers.ListMarketResponse)
  | signedTx (signed : DexHandlers.SignedTx)
  | stream

/-- `Ok(Response::new(..))` around the value of a handler. -/
def answered {α : Type} (response : α → Response) (handler : Svc Status α) :
    Svc Status Response := do
  let value ← handler
  pure (response value)

/-- The handler of a request with its response. -/
def Request.respond (crates : Crates) (passes : Nat) : Request → Svc Status Response
  | .sendTx tx => answered .batch (Broadcast.sendTx crates passes tx)
  | .runGenesis r => answered (fun _ => .empty) (Broadcast.runGenesis crates r)
  | .runInitializeTokenAccount r =>
      answered .keypair (Broadcast.runInitializeTokenAccount crates r)
  | .runCreateAccount r => answered .keypair (Broadcast.runCreateAccount crates r)
  | .runMint r => answered (fun _ => .empty) (Broadcast.runMint crates r)
  | .getMarketPubkeys r => answered .marketPubkeys (DexHandlers.getMarketPubkeys crates r)
  | .listMarket r => answered .listing (DexHandlers.listMarket crates r)
  | .consumeEvents r => answered .signedTx (DexHandlers.consumeEvents crates r)
  | .initOpenOrder r => answered .signedTx (DexHandlers.initOpenOrder crates r)
  | .newOrder r => answered .signedTx (DexHandlers.newOrder crates r)
  | .cancelOrder r => answered .signedTx (DexHandlers.cancelOrder crates r)
  | .settleFunds r => answered .signedTx (DexHandlers.settleFunds crates r)
  | .closeOpenOrders r => answered .signedTx (DexHandlers.closeOpenOrders crates r)
  | .matchOrders r => answered .signedTx (DexHandlers.matchOrders crates r)
  | .monitorQueue r => answered (fun _ => .stream) (DexHandlers.monitorQueue crates r)

theorem task_answered {α : Type} (response : α → Response) (handler : Svc Status α) :
    task (answered response handler) = task handler := by
  apply (Prog.bind_assoc handler _ _).trans
  change _ = Prog.bind handler _
  congr 1
  funext outcome
  cases outcome <;> rfl

/-- A request is served as it is responded to. -/
theorem Request.serve_eq (crates : Crates) (passes : Nat) (request : Request) :
    request.serve crates passes = task (request.respond crates passes) := by
  cases request <;> exact (task_answered _ _).symm

end RustHelper
