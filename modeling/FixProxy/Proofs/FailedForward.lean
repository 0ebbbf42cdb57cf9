import FixProxy.Deployment
import FixProxy.Proofs.Reachable

/-! What a request leaves behind when it cannot be sent. Twelve handlers make their
entries after the request was sent; the one for user requests makes them before. -/

namespace FixProxy
open Codec

inductive Forward where
  | user (request : UserRequest)
  | business (request : Request)

namespace Controller
variable {before controller : Controller} {session : Nat}

def forward : Forward → Nat → Controller → Outcome Controller
  | .user request => userRequest request
  | .business request => Controller.request request

/-- Nothing is sent, and every map has the entries it had. -/
structure Unchanged (before after : Controller) : Prop where
  log : after.log = before.log
  routes : after.subscriptions.user.clientToSession.find = before.subscriptions.user.clientToSession.find
  owners : after.subscriptions.user.sessionToClient.find = before.subscriptions.user.sessionToClient.find
  pending : after.subscriptions.user.serverToClient.find = before.subscriptions.user.serverToClient.find
  waiting : after.subscriptions.user.clientToServer.find = before.subscriptions.user.clientToServer.find
  entries : ∀ name reqId, after.findReqId name reqId = before.findReqId name reqId
  keys : ∀ name session reqId, after.findClient name session reqId = before.findClient name session reqId

theorem Unchanged.refl (controller : Controller) : Unchanged controller controller :=
  ⟨rfl, rfl, rfl, rfl, rfl, fun _ _ => rfl, fun _ _ _ => rfl⟩

theorem Unchanged.trans {first middle last : Controller} (early : Unchanged first middle) (late : Unchanged middle last) :
    Unchanged first last where
  log := late.log.trans early.log
  routes := late.routes.trans early.routes
  owners := late.owners.trans early.owners
  pending := late.pending.trans early.pending
  waiting := late.waiting.trans early.waiting
  entries name reqId := (late.entries name reqId).trans (early.entries name reqId)
  keys name session reqId := (late.keys name session reqId).trans (early.keys name session reqId)

private theorem unchanged_createRequestId (controller : Controller) : Unchanged controller controller.createRequestId.2 :=
  ⟨rfl, rfl, rfl, rfl, rfl, fun _ _ => rfl, fun _ _ _ => rfl⟩

/-- An empty inner map is not a change. -/
private theorem unchanged_touch (name : MappingName) (session : Nat) (controller : Controller) :
    Unchanged controller (controller.touch name session) := by
  have index (other : MappingName) : ((controller.touch name session).view []).index other =
      if other = name then ((controller.view []).index other).touch session else (controller.view []).index other := by
    rw [view_touch]
    by_cases same : other = name
    · subst other
      simp
    · simp [same]
  refine ⟨rfl, rfl, rfl, rfl, rfl, fun other reqId => ?_, fun other owner reqId => ?_⟩
  · rw [findReqId_eq [], findReqId_eq [], index]
    split <;> rfl
  · rw [findClient_eq [], findClient_eq [], index]
    split <;> rfl

/-- A call that changes nothing if it throws. -/
def Restores (before : Controller) (outcome : Outcome Controller) : Prop :=
  ∀ what after, outcome = .thrown what after → Unchanged before after

private theorem restores_done (after : Controller) : Restores before (.done after) := fun _ _ thrown => nomatch thrown

theorem Restores.after (outcome : Outcome Controller) (unchanged : Unchanged before controller)
    (restores : Restores controller outcome) : Restores before outcome :=
  fun what after thrown => unchanged.trans (restores what after thrown)

/-- Nothing has happened yet when a request is sent, and nothing throws after it was sent. -/
private theorem dispatch_restores (message : ToServer) {next : Controller → Outcome Controller}
    (returns : ∀ controller what after, next controller ≠ .thrown what after) :
    Restores controller ((controller.dispatchToServer message).andThen next) := by
  intro what after thrown
  unfold dispatchToServer at thrown
  split at thrown
  · exact absurd thrown (returns _ _ _)
  · cases thrown
    exact .refl controller

private theorem subscription_restores {name : MappingName} {reqId : String} {isValid : Bool} {type : SubscriptionRequestType}
    {invalid unknown duplicate missing : Controller → Controller}
    {dispatch : Option String → Bool → Controller → Outcome Controller}
    (dispatches : ∀ exists_ keepAlive controller, Restores controller (dispatch exists_ keepAlive controller)) :
    Restores controller
      (subscription name session reqId isValid type invalid unknown duplicate missing dispatch controller) := by
  unfold subscription
  split
  · exact restores_done _
  · refine Restores.after _ (unchanged_touch name session controller) ?_
    cases type with
    | undefined => exact restores_done _
    | unknown => exact restores_done _
    | snapshot | snapshotUpdates =>
      simp only
      split
      · exact restores_done _
      · exact dispatches _ _ _
    | unsubscribe =>
      simp only
      split
      · exact dispatches _ _ _
      · exact restores_done _

private theorem dispatchSubscription_restores {name : MappingName} {reqId : String} {sent : String → Request}
    (exists_ : Option String) (keepAlive : Bool) (controller : Controller) :
    Restores controller (dispatchSubscription name session reqId sent exists_ keepAlive controller) := by
  refine Restores.after _ (unchanged_createRequestId controller) (dispatch_restores _ fun controller what after => ?_)
  split <;> simp

private theorem dispatchPositions_restores {value : RequestForPositions}
    (exists_ : Option String) (keepAlive : Bool) (controller : Controller) :
    Restores controller (dispatchPositions session value exists_ keepAlive controller) := by
  cases exists_ with
  | some serverId =>
    refine dispatch_restores _ fun controller what after => ?_
    simp only [Option.isSome_some, if_true]
    split <;> simp
  | none =>
    exact Restores.after _ (unchanged_createRequestId controller) (dispatch_restores _ fun controller what after => by simp)

private theorem dispatchTrades_restores {value : TradeCaptureReportRequest}
    (exists_ : Option String) (keepAlive : Bool) (controller : Controller) :
    Restores controller (dispatchTrades session value exists_ keepAlive controller) := by
  refine dispatch_restores _ fun controller what after => ?_
  split <;> simp

private theorem orderRequest_restores {name : MappingName} {reqId : String} {isValid : Bool}
    {invalid duplicate : Controller → Controller} {clientId : String} {sent : String → Request} {keepAlive : Bool} :
    Restores controller
      (orderRequest name session reqId isValid invalid duplicate clientId sent keepAlive controller) := by
  unfold orderRequest
  split
  · exact restores_done _
  · refine Restores.after _ (unchanged_touch name session controller) ?_
    simp only
    split
    · exact restores_done _
    · exact dispatch_restores _ fun controller what after => by simp

private theorem orderStatusRequest_restores {value : OrderStatusRequest} :
    Restores controller (orderStatusRequest value session controller) := by
  unfold orderStatusRequest
  simp only
  split
  · exact restores_done _
  · refine Restores.after _ (unchanged_touch .ordStatusReqId session controller) ?_
    split
    · exact restores_done _
    · refine dispatch_restores _ fun controller what after => ?_
      split <;> simp

private theorem request_restores (request : Request) :
    Restores controller (Controller.request request session controller) := by
  cases request with
  | securityListRequest | securityDefinitionRequest | securityStatusRequest | marketDataRequest =>
    exact subscription_restores dispatchSubscription_restores
  | orderStatusRequest => exact orderStatusRequest_restores
  | newOrderSingle =>
    unfold Controller.request newOrderSingle
    exact orderRequest_restores
  | orderCancelReplaceRequest =>
    unfold Controller.request orderCancelReplaceRequest
    exact orderRequest_restores
  | orderCancelRequest =>
    unfold Controller.request orderCancelRequest
    exact orderRequest_restores
  | orderMassStatusRequest =>
    unfold Controller.request orderMassStatusRequest
    exact orderRequest_restores
  | orderMassCancelRequest =>
    unfold Controller.request orderMassCancelRequest
    exact orderRequest_restores
  | requestForPositions => exact subscription_restores dispatchPositions_restores
  | tradeCaptureReportRequest => exact subscription_restores dispatchTrades_restores

private theorem userRequest_registers {request : UserRequest} {after : Controller}
    (fails : controller.userRequest request session = .thrown notReady after) :
    after.log = controller.log ∧
      ((controller.subscriptions.user.clientToServer.find session).getD "" = "" ∧
      after.subscriptions.user.clientToServer.find session = some request.userRequestId) := by
  have registered (fails : controller.registerUserRequest request session = .thrown notReady after) :
      after.log = controller.log ∧
        ((controller.subscriptions.user.clientToServer.find session).getD "" = "" ∧
        after.subscriptions.user.clientToServer.find session = some request.userRequestId) := by
    unfold registerUserRequest at fails
    simp only at fails
    split at fails
    · next idle =>
      unfold dispatchToServer at fails
      split at fails
      · cases fails
      · cases fails
        exact ⟨rfl, idle, by simp [setUser]⟩
    · cases fails
  unfold userRequest at fails
  split at fails
  · split at fails
    · simp [locked, notReady] at fails
    · exact registered fails
  · exact registered fails
  · cases fails

/-- When a request cannot be sent because the upstream session is not ready, everything
is as it was exactly if it is not a user request. -/
theorem failed_forward_iff {request : Forward} {after : Controller}
    (issued : ∀ value, request = .user value → value.userRequestId ≠ "")
    (fails : controller.forward request session = .thrown notReady after) :
    Unchanged controller after ↔ ∀ value, request ≠ .user value := by
  cases request with
  | business value => exact iff_of_true (request_restores value notReady after fails) fun _ same => nomatch same
  | user value =>
    refine iff_of_false (fun unchanged => ?_) fun other => other value rfl
    obtain ⟨-, idle, registered⟩ := userRequest_registers fails
    rw [unchanged.waiting] at registered
    rw [registered] at idle
    exact issued value rfl idle

/-- The upstream connection is lost before the status of an order is told, and then a client is
refused its logon. Both leave entries. -/
def afterLoss : List Input :=
  Deployment.loggedOn ++
    [Deployment.asks 1 (.orderStatusRequest
      { ordStatusReqId := "", clOrdId := "AAAA", noPartyIds := [], account := "A1", symbol := "BTC-PERPETUAL",
        securityExchange := "deribit", side := 1, isValid := true }), .serverDisconnected] ++
    Deployment.arrives 2 "c2" "p2" ++ [.accept 0]

theorem failed_forward_iff_afterLoss : ∃ world after,
    World.RunsUnder World.Regular Deployment.env Deployment.users 0 afterLoss world ∧
    world.controller.findReqId .ordStatusReqId "proxy-1:" = some (1, "", false) ∧
    world.controller.subscriptions.user.serverToClient.find "proxy-2" = some 2 ∧
    world.controller.subscriptions.user.clientToServer.find 2 = some "proxy-2" ∧
    world.controller.forward (.business (Deployment.marketData "AAAA" .snapshot)) 3 = .thrown notReady after ∧
    Unchanged world.controller after := by
  let request : Forward := .business (Deployment.marketData "AAAA" .snapshot)
  have business value : request ≠ .user value := fun same => nomatch same
  obtain ⟨world, runs, checked⟩ := World.exists_run_of_replay World.Regular Deployment.env Deployment.users 0 afterLoss
    (fun world => world.controller.findReqId .ordStatusReqId "proxy-1:" == some (1, "", false) &&
      world.controller.subscriptions.user.serverToClient.find "proxy-2" == some 2 &&
      world.controller.subscriptions.user.clientToServer.find 2 == some "proxy-2" &&
      match world.controller.forward request 3 with
      | .thrown what _ => what == notReady
      | _ => false) (by decide +kernel)
  simp only [Bool.and_eq_true, beq_iff_eq] at checked
  obtain ⟨⟨⟨entry, pending⟩, waiting⟩, refused⟩ := checked
  cases forwarded : world.controller.forward request 3 with
  | thrown what after =>
    rw [forwarded] at refused
    obtain rfl := beq_iff_eq.mp refused
    exact ⟨world, after, runs, entry, pending, waiting, forwarded,
      (failed_forward_iff (fun value same => absurd same (business value)) forwarded).mpr business⟩
  | _ =>
    rw [forwarded] at refused
    cases refused

end Controller

namespace World

def logsOnEarly : Input :=
  Deployment.sends 1 (.logon { heartBtInt := 5, resetSeqNumFlag := true, username := "trader", password := "secret" })

/-- The logon is refused and its session closed, but the request that was never sent is
still registered. -/
theorem failed_logon_registered : ∃ world after, RunsUnder Regular Deployment.env Deployment.users 0 [.accept 0] world ∧
    Step Deployment.env world logsOnEarly after ∧
    after.controller.log = [.toClient 1 1 (.reject { refSeqNum := 1, text := "not ready", refMsgType := .logon }),
      .closeClient 1] ∧
    world.controller.subscriptions.user.serverToClient.find "proxy-1" = none ∧
    world.controller.subscriptions.user.clientToServer.find 1 = none ∧
    after.controller.subscriptions.user.serverToClient.find "proxy-1" = some 1 ∧
    after.controller.subscriptions.user.clientToServer.find 1 = some "proxy-1" := by
  obtain ⟨world, after, runs, -, step, checked⟩ := exists_step_of_replay Regular Deployment.env Deployment.users 0
    [.accept 0] logsOnEarly
    (fun world after => after.controller.log ==
        [.toClient 1 1 (.reject { refSeqNum := 1, text := "not ready", refMsgType := .logon }), .closeClient 1] &&
      (world.controller.subscriptions.user.serverToClient.find "proxy-1").isNone &&
      (world.controller.subscriptions.user.clientToServer.find 1).isNone &&
      after.controller.subscriptions.user.serverToClient.find "proxy-1" == some 1 &&
      after.controller.subscriptions.user.clientToServer.find 1 == some "proxy-1") (by decide +kernel)
  simp only [Bool.and_eq_true, beq_iff_eq, Option.isNone_iff_eq_none] at checked
  obtain ⟨⟨⟨⟨log, unregistered⟩, idle⟩, registered⟩, waits⟩ := checked
  exact ⟨world, after, runs, step, log, unregistered, idle, registered, waits⟩

end World
end FixProxy
