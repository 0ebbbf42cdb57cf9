import FixProxy.Deployment
import FixProxy.Proofs.RosterMoves
import FixProxy.Proofs.Subscriptions

/-! What becomes of a request of a session that is ready. It goes upstream once, or it is
refused to the session that sent it; a refusal leaves every mapping alone. -/

namespace FixProxy
open Codec

/-- The request under a server id. Other order ids that it carries are made of the party too. -/
def Codec.Request.renamed (party serverId : String) : Request → Request
  | .securityListRequest value => .securityListRequest { value with securityReqId := serverId }
  | .securityDefinitionRequest value => .securityDefinitionRequest { value with securityReqId := serverId }
  | .securityStatusRequest value => .securityStatusRequest { value with securityStatusReqId := serverId }
  | .marketDataRequest value => .marketDataRequest { value with mdReqId := serverId }
  | .orderStatusRequest value => .orderStatusRequest
      { value with ordStatusReqId := serverId, clOrdId := createRequestId party value.clOrdId }
  | .newOrderSingle value => .newOrderSingle { value with clOrdId := serverId }
  | .orderCancelReplaceRequest value => .orderCancelReplaceRequest
      { value with clOrdId := serverId, origClOrdId := createRequestId party value.origClOrdId }
  | .orderCancelRequest value => .orderCancelRequest
      { value with clOrdId := serverId, origClOrdId := createRequestId party value.origClOrdId }
  | .orderMassStatusRequest value => .orderMassStatusRequest { value with massStatusReqId := serverId }
  | .orderMassCancelRequest value => .orderMassCancelRequest { value with clOrdId := serverId }
  | .requestForPositions value => .requestForPositions { value with posReqId := serverId }
  | .tradeCaptureReportRequest value => .tradeCaptureReportRequest { value with tradeRequestId := serverId }

/-- A response that refuses a request, under its type or under its own id. For a security
status the protocol has no refusal but a status that says nothing. -/
def Codec.Response.Declines (request : Request) : Response → Prop
  | .businessMessageReject value => value.refMsgType = request.msgType
  | .securityList value => request.msgType = .securityListRequest ∧ value.securityReqId = request.key.2 ∧
      value.securityRequestResult ≠ .valid
  | .securityDefinition value => request.msgType = .securityDefinitionRequest ∧ value.securityReqId = request.key.2 ∧
      value.securityResponseType = .rejectSecurityProposal
  | .securityStatus value => ∃ asked, request = .securityStatusRequest asked ∧ value =
      { securityStatusReqId := asked.securityStatusReqId
        symbol := asked.symbol
        securityExchange := asked.securityExchange
        tradingSessionId := ""
        unsolicitedIndicator := false
        securityTradingStatus := 0 }
  | .marketDataRequestReject value => request.msgType = .marketDataRequest ∧ value.mdReqId = request.key.2
  | .orderCancelReject value =>
    (request.msgType = .orderCancelRequest ∨ request.msgType = .orderCancelReplaceRequest) ∧
      value.clOrdId = request.key.2 ∧ value.ordStatus = .rejected
  | .orderMassCancelReport value => request.msgType = .orderMassCancelRequest ∧ value.clOrdId = request.key.2 ∧
      value.massCancelResponse = .cancelRequestRejected
  | .executionReport value =>
    (request.msgType = .newOrderSingle ∨ request.msgType = .orderStatusRequest ∨
      request.msgType = .orderMassStatusRequest) ∧
      Response.id request.key.1 (.executionReport value) = request.key.2 ∧ value.execType = .orderStatus ∧
      value.ordStatus = .rejected
  | .requestForPositionsAck value => request.msgType = .requestForPositions ∧ value.posReqId = request.key.2 ∧
      value.posReqStatus = .rejected
  | .tradeCaptureReportRequestAck value => request.msgType = .tradeCaptureReportRequest ∧
      value.tradeRequestId = request.key.2 ∧ value.tradeRequestStatus = .rejected
  | .marketDataSnapshotFullRefresh _ | .marketDataIncrementalRefresh _ | .positionReport _ | .tradeCaptureReport _ => False

/-- The requests of a client: the twelve kinds that are passed on, and the one that never is. -/
def Codec.FromClient.Asks : FromClient → Prop
  | .request _ | .tradingSessionStatusRequest _ => True
  | _ => False

/-- The same for the messages of a client. -/
def Codec.ToClient.Declines (message : FromClient) : ToClient → Prop
  | .response value =>
    match message with
    | .request request => value.Declines request
    | .tradingSessionStatusRequest tradSesReqId => ∃ reject, value = .businessMessageReject reject ∧
        reject.refMsgType = .tradingSessionStatusRequest ∧ reject.businessRejectRefId = tradSesReqId
    | _ => False
  | _ => False

namespace Controller
variable {controller before after : Controller} {session : Nat} {client : Client.Session} {request : Request}
  {party : String}

structure Untouched (before after : Controller) : Prop where
  entry : ∀ name serverId, after.findReqId name serverId = before.findReqId name serverId
  key : ∀ name owner clientId, after.findClient name owner clientId = before.findClient name owner clientId

theorem Untouched.trans {middle : Controller} (head : Untouched before middle) (rest : Untouched middle after) :
    Untouched before after :=
  ⟨fun name serverId => (rest.entry name serverId).trans (head.entry name serverId),
    fun name owner clientId => (rest.key name owner clientId).trans (head.key name owner clientId)⟩

theorem Untouched.of_index (same : (after.view []).index = (before.view []).index) : Untouched before after := by
  constructor
  · intro name serverId
    rw [findReqId_eq [], findReqId_eq [], same]
  · intro name owner clientId
    rw [findClient_eq [], findClient_eq [], same]

private theorem untouched_touch (name : MappingName) (session : Nat) (controller : Controller) :
    Untouched controller (controller.touch name session) := by
  constructor
  · intro other serverId
    rw [findReqId_eq [], findReqId_eq [], view_touch]
    by_cases same : other = name
    · subst other
      simp [Index.touch]
    · simp [same]
  · intro other owner clientId
    rw [findClient_eq [], findClient_eq [], view_touch]
    by_cases same : other = name
    · subst other
      simp [Index.touch]
    · simp [same]

/-- One message goes upstream, the request under some server id. -/
def Sends (party : String) (request : Request) (before after : Controller) : Prop :=
  ∃ msgSeqNum serverId, after.log = before.log ++ [.toServer msgSeqNum (.request (request.renamed party serverId))]

/-- One message goes to the session, and the mappings are left alone. -/
def TurnsDown (session : Nat) (refuses : ToClient → Prop) (before after : Controller) : Prop :=
  (∃ msgSeqNum reply, refuses reply ∧ after.log = before.log ++ [.toClient session msgSeqNum reply]) ∧
    Untouched before after

def Disposed (party : String) (session : Nat) (request : Request) (before : Controller) (outcome : Outcome Controller) :
    Prop :=
  outcome.Gives fun after => Sends party request before after ∨
    TurnsDown session (ToClient.Declines (.request request)) before after

/-- A reject that is told to the session, with an id drawn for it or not. -/
def Tells (session : Nat) (request : Request) (reject : Controller → Controller) : Prop :=
  ∀ controller, ∃ response : Response, (reject controller = controller.dispatchToClient response session ∨
    reject controller = controller.createRequestId.2.dispatchToClient response session) ∧ response.Declines request

private theorem Disposed.of_untouched {middle : Controller} {outcome : Outcome Controller}
    (disposed : Disposed party session request middle outcome) (log : middle.log = before.log)
    (untouched : Untouched before middle) : Disposed party session request before outcome := by
  refine disposed.mono fun after either => ?_
  unfold Sends TurnsDown at either ⊢
  rw [log] at either
  exact either.imp id fun ⟨replied, same⟩ => ⟨replied, untouched.trans same⟩

theorem Disposed.touch {name : MappingName} {outcome : Outcome Controller}
    (disposed : Disposed party session request (controller.touch name session) outcome) :
    Disposed party session request controller outcome :=
  disposed.of_untouched rfl (untouched_touch name session controller)

theorem Disposed.drawn {outcome : Outcome Controller}
    (disposed : Disposed party session request controller.createRequestId.2 outcome) :
    Disposed party session request controller outcome :=
  disposed.of_untouched rfl (.of_index rfl)

theorem Attends.touch (attends : Attends session client controller) (name : MappingName) :
    Attends session client (controller.touch name session) := ⟨attends.held, attends.ready, attends.upstream⟩

theorem Attends.drawn (attends : Attends session client controller) : Attends session client controller.createRequestId.2 :=
  ⟨attends.held, attends.ready, attends.upstream⟩

private theorem dispatchToClient_disposed (attends : Attends session client controller) {response : Response}
    (refuses : response.Declines request) :
    Disposed party session request controller (.done (controller.dispatchToClient response session)) := by
  have told : ToClient.Declines (.request request) (.response response) := refuses
  exact Or.inr ⟨⟨_, .response response, told, log_dispatchToClient attends.held attends.ready response⟩,
    .of_index (congrArg Router.index (view_dispatchToClient ..))⟩

theorem Tells.disposed {reject : Controller → Controller} (tells : Tells session request reject)
    (attends : Attends session client controller) : Disposed party session request controller (.done (reject controller)) := by
  obtain ⟨response, same | same, refuses⟩ := tells controller
  · rw [same]
    exact dispatchToClient_disposed attends refuses
  · rw [same]
    exact (dispatchToClient_disposed attends.drawn refuses).drawn

private theorem passed_disposed (attends : Attends session client controller) {sent : Request}
    {next : Controller → Outcome Controller} (serverId : String) (renamed : sent = request.renamed party serverId)
    (quiet : ∀ controller, (next controller).Gives fun after => after.log = controller.log) :
    Disposed party session request controller ((controller.dispatchToServer (.request sent)).andThen next) := by
  subst renamed
  unfold dispatchToServer
  rw [if_pos attends.upstream, Outcome.andThen_done]
  exact (quiet _).mono fun after same => Or.inl ⟨_, serverId, same⟩

private theorem entry_logged (exists_ : Option String) (name : MappingName) (reqId requestId : String) (session : Nat)
    (keepAlive : Bool) (controller : Controller) :
    (if exists_.isSome then Outcome.done (controller.removeReqId name requestId)
      else .done (controller.addReqId name reqId requestId session keepAlive)).Gives
        fun after => after.log = controller.log := by
  split
  · exact log_removeReqId ..
  · exact rfl

private theorem subscription_disposed (attends : Attends session client controller) {name : MappingName} {reqId : String}
    {isValid : Bool} {type : SubscriptionRequestType} {invalid unknown duplicate missing : Controller → Controller}
    {dispatch : Option String → Bool → Controller → Outcome Controller} (tellsInvalid : Tells session request invalid)
    (tellsUnknown : Tells session request unknown) (tellsDuplicate : Tells session request duplicate)
    (tellsMissing : Tells session request missing)
    (dispatches : ∀ exists_ keepAlive controller, Attends session client controller →
      Disposed party session request controller (dispatch exists_ keepAlive controller)) :
    Disposed party session request controller
      (subscription name session reqId isValid type invalid unknown duplicate missing dispatch controller) := by
  unfold subscription
  split
  · exact tellsInvalid.disposed attends
  · have touched := attends.touch name
    refine Disposed.touch (?_ : Disposed party session request (controller.touch name session) _)
    simp only
    cases type with
    | undefined => exact tellsUnknown.disposed touched
    | unknown => exact tellsUnknown.disposed touched
    | snapshot =>
      simp only
      split
      · exact tellsDuplicate.disposed touched
      · exact dispatches _ _ _ touched
    | snapshotUpdates =>
      simp only
      split
      · exact tellsDuplicate.disposed touched
      · exact dispatches _ _ _ touched
    | unsubscribe =>
      simp only
      split
      · exact dispatches _ _ _ touched
      · exact tellsMissing.disposed touched

private theorem dispatchSubscription_disposed (attends : Attends session client controller) {name : MappingName}
    {reqId : String} {sent : String → Request} {exists_ : Option String} {keepAlive : Bool}
    (renamed : ∀ id, sent id = request.renamed party id) :
    Disposed party session request controller (dispatchSubscription name session reqId sent exists_ keepAlive controller) :=
  (passed_disposed attends.drawn controller.createRequestId.1 (renamed _) fun _ => entry_logged ..).drawn

private theorem dispatchPositions_disposed (attends : Attends session client controller) (value : RequestForPositions)
    {exists_ : Option String} {keepAlive : Bool} :
    Disposed party session (.requestForPositions value) controller
      (dispatchPositions session value exists_ keepAlive controller) := by
  unfold dispatchPositions
  cases exists_ with
  | none =>
    refine (passed_disposed attends.drawn controller.createRequestId.1 rfl fun _ => ?_).drawn
    exact rfl
  | some requestId =>
    refine passed_disposed attends requestId rfl fun _ => ?_
    simp only [Option.isSome_some, if_true]
    split
    · exact rfl
    · trivial

private theorem dispatchTrades_disposed (attends : Attends session client controller) (value : TradeCaptureReportRequest)
    {exists_ : Option String} {keepAlive : Bool} :
    Disposed party session (.tradeCaptureReportRequest value) controller
      (dispatchTrades session value exists_ keepAlive controller) :=
  passed_disposed attends (FixProxy.createRequestId (getClientFromParties value.noPartyIds) value.tradeRequestId) rfl
    fun _ => entry_logged ..

private theorem orderRequest_disposed (attends : Attends session client controller) {name : MappingName} {reqId : String}
    {isValid : Bool} {invalid duplicate : Controller → Controller} {clientId : String} {sent : String → Request}
    {keepAlive : Bool} (tellsInvalid : Tells session request invalid) (tellsDuplicate : Tells session request duplicate)
    (renamed : ∀ id, sent id = request.renamed party id) :
    Disposed party session request controller
      (orderRequest name session reqId isValid invalid duplicate clientId sent keepAlive controller) := by
  unfold orderRequest
  split
  · exact tellsInvalid.disposed attends
  · refine Disposed.touch (?_ : Disposed party session request (controller.touch name session) _)
    simp only
    split
    · exact tellsDuplicate.disposed (attends.touch name)
    · refine passed_disposed (attends.touch name) _ (renamed _) fun _ => ?_
      exact rfl

private theorem orderStatusRequest_disposed (attends : Attends session client controller) (value : OrderStatusRequest)
    (stamp : getClientFromParties value.noPartyIds = party) :
    Disposed party session (.orderStatusRequest value) controller (orderStatusRequest value session controller) := by
  have tells text : Tells session (.orderStatusRequest value) (rejectOrderStatusRequest value session text) :=
    fun _ => ⟨_, Or.inr rfl, ⟨by simp [Request.msgType], rfl, rfl, rfl⟩⟩
  unfold orderStatusRequest
  simp only [stamp]
  split
  · exact (tells _).disposed attends
  · refine Disposed.touch (?_ : Disposed party session _ (controller.touch .ordStatusReqId session) _)
    split
    · exact (tells _).disposed (attends.touch _)
    · refine passed_disposed (attends.touch _) (FixProxy.createRequestId party value.ordStatusReqId) rfl fun _ => ?_
      split
      · exact rfl
      · exact rfl

theorem request_disposed (attends : Attends session client controller) (request : Request)
    (stamp : ∀ parties, request.parties = some parties → getClientFromParties parties = party) :
    Disposed party session request controller (Controller.request request session controller) := by
  cases request with
  | securityListRequest value =>
    have tells : Tells session (.securityListRequest value) (rejectSecurityListRequest value session) :=
      fun _ => ⟨_, Or.inr rfl, ⟨rfl, rfl, by simp⟩⟩
    exact subscription_disposed attends tells tells tells tells fun _ _ _ attends =>
      dispatchSubscription_disposed attends fun _ => rfl
  | securityDefinitionRequest value =>
    have tells : Tells session (.securityDefinitionRequest value) (rejectSecurityDefinitionRequest value session) :=
      fun _ => ⟨_, Or.inr rfl, ⟨rfl, rfl, rfl⟩⟩
    exact subscription_disposed attends tells tells tells tells fun _ _ _ attends =>
      dispatchSubscription_disposed attends fun _ => rfl
  | securityStatusRequest value =>
    have tells : Tells session (.securityStatusRequest value) (rejectSecurityStatusRequest value session) :=
      fun _ => ⟨_, Or.inl rfl, value, rfl, rfl⟩
    exact subscription_disposed attends tells tells tells tells fun _ _ _ attends =>
      dispatchSubscription_disposed attends fun _ => rfl
  | marketDataRequest value =>
    have tells reason text : Tells session (.marketDataRequest value) (rejectMarketDataRequest value session reason text) :=
      fun _ => ⟨_, Or.inl rfl, ⟨rfl, rfl⟩⟩
    exact subscription_disposed attends (tells _ _) (tells _ _) (tells _ _) (tells _ _) fun _ _ _ attends =>
      dispatchSubscription_disposed attends fun _ => rfl
  | orderStatusRequest value => exact orderStatusRequest_disposed attends value (stamp _ rfl)
  | newOrderSingle value =>
    have tells text : Tells session (.newOrderSingle value) (rejectNewOrderSingle value session text) :=
      fun _ => ⟨_, Or.inr rfl, ⟨by simp [Request.msgType], rfl, rfl, rfl⟩⟩
    exact orderRequest_disposed attends (tells _) (tells _) fun _ => rfl
  | orderCancelReplaceRequest value =>
    have tells reason text : Tells session (.orderCancelReplaceRequest value) (rejectOrderCancel value.clOrdId
        value.origClOrdId value.account .orderCancelReplaceRequest session reason text) :=
      fun _ => ⟨_, Or.inl rfl, ⟨by simp [Request.msgType], rfl, rfl⟩⟩
    obtain rfl := stamp _ rfl
    exact orderRequest_disposed attends (tells _ _) (tells _ _) fun _ => rfl
  | orderCancelRequest value =>
    have tells reason text : Tells session (.orderCancelRequest value) (rejectOrderCancel value.clOrdId
        value.origClOrdId value.account .orderCancelRequest session reason text) :=
      fun _ => ⟨_, Or.inl rfl, ⟨by simp [Request.msgType], rfl, rfl⟩⟩
    obtain rfl := stamp _ rfl
    exact orderRequest_disposed attends (tells _ _) (tells _ _) fun _ => rfl
  | orderMassStatusRequest value =>
    have tells text : Tells session (.orderMassStatusRequest value) (rejectOrderMassStatusRequest value session text) :=
      fun _ => ⟨_, Or.inr rfl, ⟨by simp [Request.msgType], rfl, rfl, rfl⟩⟩
    exact orderRequest_disposed attends (tells _) (tells _) fun _ => rfl
  | orderMassCancelRequest value =>
    have tells text : Tells session (.orderMassCancelRequest value) (rejectOrderMassCancelRequest value session text) :=
      fun _ => ⟨_, Or.inl rfl, ⟨rfl, rfl, rfl⟩⟩
    exact orderRequest_disposed attends (tells _) (tells _) fun _ => rfl
  | requestForPositions value =>
    have tells text : Tells session (.requestForPositions value) (rejectRequestForPositions value session text) :=
      fun _ => ⟨_, Or.inr rfl, ⟨rfl, rfl, rfl⟩⟩
    exact subscription_disposed attends (tells _) (tells _) (tells _) (tells _) fun _ _ _ attends =>
      dispatchPositions_disposed attends value
  | tradeCaptureReportRequest value =>
    have tells text : Tells session (.tradeCaptureReportRequest value) (rejectTradeCaptureReportRequest value session text) :=
      fun _ => ⟨_, Or.inr rfl, ⟨rfl, rfl, rfl⟩⟩
    exact subscription_disposed attends (tells _) (tells _) (tells _) (tells _) fun _ _ _ attends =>
      dispatchTrades_disposed attends value

end Controller

private theorem refuses_of_stamped {request : Request} {parties : List Party} {response : Response}
    (refuses : response.Declines (request.stamped parties)) : response.Declines request := by
  have key : (request.stamped parties).key = request.key := by cases request <;> rfl
  have msgType : (request.stamped parties).msgType = request.msgType := by cases request <;> rfl
  have status asked : request.stamped parties = .securityStatusRequest asked ↔ request = .securityStatusRequest asked := by
    cases request <;> simp [Request.stamped]
  unfold Response.Declines at refuses ⊢
  simpa only [key, msgType, status] using refuses

namespace World
variable {env : Env} {before after : World} {session : Nat} {client : Client.Session} {clock : Clock} {header : Header}
  {message : FromClient} {request : Request}

/-- The request goes upstream once, with the session's own party, and nothing goes to a client. -/
def Forwards (before : World) (client : Client.Session) (message : FromClient) (after : World) : Prop :=
  ∃ request, message = .request request ∧
    Controller.Sends client.partyId (request.stamped (Client.ownParties client)) before.controller after.controller

/-- The session is sent one refusal, nothing goes upstream, and no mapping changes. -/
def Refuses (before : World) (session : Nat) (message : FromClient) (after : World) : Prop :=
  Controller.TurnsDown session (ToClient.Declines message) before.controller after.controller

/-- The request cannot be sent, and the session is closed for it. -/
def ClosesFor (before : World) (session : Nat) (after : World) : Prop :=
  ¬ after.Alive session ∧ ∃ later, after.controller.log = before.controller.log ++ .closeClient session :: later

/-- One of three, and neither of the other two. -/
def ExactlyOne (first second third : Prop) : Prop :=
  (first ∧ ¬ second ∧ ¬ third) ∨ (¬ first ∧ second ∧ ¬ third) ∨ (¬ first ∧ ¬ second ∧ third)

private theorem not_refuses (forwards : before.Forwards client message after) : ¬ before.Refuses session message after := by
  obtain ⟨request, -, msgSeqNum, serverId, sent⟩ := forwards
  rintro ⟨⟨number, reply, -, replied⟩, -⟩
  rw [sent] at replied
  simp at replied

private theorem not_closesFor_of_forwards (forwards : before.Forwards client message after) :
    ¬ before.ClosesFor session after := by
  obtain ⟨request, -, msgSeqNum, serverId, sent⟩ := forwards
  rintro ⟨-, later, closed⟩
  rw [sent] at closed
  simp at closed

private theorem not_closesFor_of_refuses (refuses : before.Refuses session message after) :
    ¬ before.ClosesFor session after := by
  obtain ⟨⟨number, reply, -, replied⟩, -⟩ := refuses
  rintro ⟨-, later, closed⟩
  rw [replied] at closed
  simp at closed

theorem refuses_of_sent {reply : ToClient} (held : before.session session = some client)
    (performed : (Client.received header session before.controller).sendToClient session reply = after.controller)
    (refuses : reply.Declines message) : before.Refuses session message after := by
  obtain ⟨seen, found, -⟩ : ∃ seen, (Client.received header session before.controller).sessions.find session = some seen ∧
      seen.state = client.state ∧ seen.partyId = client.partyId := Client.received_find held
  refine ⟨⟨seen.outboundMsgSeqNum + 1, reply, refuses, ?_⟩, .of_index ?_⟩
  · rw [← performed]
    simp only [Controller.sendToClient, found]
    rfl
  · rw [← performed, Controller.view_sendToClient, Client.view_received]

/-- The request of a ready session goes upstream or is refused. -/
theorem Step.disposes (step : Step env before (.read session clock header (.request request)) after)
    (consistent : before.view.Consistent) (held : before.session session = some client) (ready : client.state = .ready) :
    before.Forwards client (.request request) after ∨ before.Refuses session (.request request) after := by
  have performed := step.performed
  rw [FixProxy.step, Client.read_ready request held ready] at performed
  obtain ⟨seen, found, state, party⟩ : ∃ seen,
      (Client.received header session before.controller).sessions.find session = some seen ∧ seen.state = client.state ∧
        seen.partyId = client.partyId := Client.received_find held
  obtain ⟨refId, reason, text, refused⟩ | ⟨-, passed⟩ := @Client.request_refused env _ session seen header request found
    (state.trans ready)
  · rw [refused, Outcome.recover_done, Outcome.done.injEq] at performed
    exact Or.inr (refuses_of_sent held performed rfl)
  · have upstream : before.controller.serverSession.state = .ready :=
      consistent.sound.connected session .ready client.partyId (ready ▸ view_session held) trivial
    have parties : Client.ownParties seen = Client.ownParties client := by rw [Client.ownParties, party, Client.ownParties]
    have disposed := @Controller.request_disposed _ session seen client.partyId ⟨found, state.trans ready, upstream⟩
      (request.stamped (Client.ownParties seen)) fun named same => by
        rw [Client.stamped_parties same, parties]
        exact Client.getClientFromParties_own client.partyId
    have untouched : Controller.Untouched before.controller (Client.received header session before.controller) :=
      .of_index (congrArg Router.index (Client.view_received []))
    have disposed : Controller.Disposed client.partyId session (request.stamped (Client.ownParties seen)) before.controller _ :=
      disposed.of_untouched rfl untouched
    rw [← passed, parties] at disposed
    cases outcome : Client.request env request header session (Client.received header session before.controller) with
    | done last =>
      rw [outcome, Outcome.recover_done, Outcome.done.injEq] at performed
      rw [outcome, performed] at disposed
      rcases disposed with sends | ⟨⟨msgSeqNum, reply, refuses, log⟩, same⟩
      · exact Or.inl ⟨request, rfl, sends⟩
      · refine Or.inr ⟨⟨msgSeqNum, reply, ?_, log⟩, same⟩
        cases reply with
        | response response => exact refuses_of_stamped refuses
        | _ => exact refuses.elim
    | thrown =>
      rw [outcome] at disposed
      exact disposed.elim
    | fatal =>
      rw [outcome] at performed
      cases performed

/-- A ready session's request has exactly one outcome. As long as the session is ready,
upstream accepts what is forwarded, so it is one of the first two. -/
theorem request_has_one_outcome (reachable : Reachable env before) (held : before.session session = some client)
    (ready : client.state = .ready) (asks : message.Asks)
    (step : Step env before (.read session clock header message) after) :
    ExactlyOne (before.Forwards client message after) (before.Refuses session message after)
      (before.ClosesFor session after) := by
  have either : before.Forwards client message after ∨ before.Refuses session message after := by
    cases message with
    | request request => exact step.disposes (consistent_of_reachable reachable) held ready
    | tradingSessionStatusRequest tradSesReqId =>
      have performed := step.performed
      have found : before.controller.sessions.find session = some client := held
      simp only [FixProxy.step, Client.read, Client.withSession, found, ready, Client.parse] at performed
      exact Or.inr (refuses_of_sent held (Outcome.done.inj performed) ⟨_, rfl, rfl, rfl⟩)
    | _ => exact asks.elim
  rcases either with forwards | refuses
  · exact Or.inl ⟨forwards, not_refuses forwards, not_closesFor_of_forwards forwards⟩
  · exact Or.inr (Or.inl ⟨fun forwards => not_refuses forwards refuses, refuses, not_closesFor_of_refuses refuses⟩)

/-- The id of a subscription that is still open is refused for another one. -/
theorem request_has_one_outcome_subscribed : ∃ world after,
    RunsUnder Regular Deployment.env Deployment.users 0 Deployment.subscribed world ∧
      Step Deployment.env world (Deployment.asks 1 (Deployment.marketData "AAAA" .snapshotUpdates)) after ∧
      world.Refuses 1 (.request (Deployment.marketData "AAAA" .snapshotUpdates)) after := by
  obtain ⟨world, after, runs, -, step, checked⟩ := exists_step_of_replay Regular Deployment.env Deployment.users 0
    Deployment.subscribed (Deployment.asks 1 (Deployment.marketData "AAAA" .snapshotUpdates))
    (fun world after => ((world.session 1).any fun client => client.state == .ready) &&
      after.controller.log == world.controller.log ++ [.toClient 1 2 (.response (.marketDataRequestReject
        { mdReqId := "AAAA", mdReqRejReason := .duplicateMdReqId, text := Texts.duplicateMdReqId }))]) (by decide +kernel)
  simp only [Bool.and_eq_true, beq_iff_eq, Option.any_eq_true] at checked
  obtain ⟨⟨client, held, ready⟩, log⟩ := checked
  refine ⟨world, after, runs, step, ?_⟩
  obtain ⟨⟨request, -, msgSeqNum, serverId, sent⟩, -⟩ | ⟨-, refuses, -⟩ | ⟨-, -, -, later, closed⟩ :=
    request_has_one_outcome (reachable_of_runsUnder runs) held ready (show FromClient.Asks (.request _) from trivial) step
  · rw [log] at sent
    simp at sent
  · exact refuses
  · rw [log] at closed
    simp at closed

end World
end FixProxy
