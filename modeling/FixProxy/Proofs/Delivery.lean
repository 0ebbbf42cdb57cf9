import FixProxy.Proofs.Reachable
import FixProxy.Routing

/-! Which session a response reaches, and under which id. -/

namespace FixProxy
open Codec

/-- A response as it goes to a client: the client's own id is in place of the server id,
and the order ids of execution reports and cancel rejects are the client's part of theirs. -/
def Codec.Response.addressed (name : MappingName) (clientId : String) : Response → Response
  | .businessMessageReject value => .businessMessageReject { value with businessRejectRefId := clientId }
  | .securityList value => .securityList { value with securityReqId := clientId }
  | .securityDefinition value => .securityDefinition { value with securityReqId := clientId }
  | .securityStatus value => .securityStatus { value with securityStatusReqId := clientId }
  | .marketDataRequestReject value => .marketDataRequestReject { value with mdReqId := clientId }
  | .marketDataSnapshotFullRefresh value => .marketDataSnapshotFullRefresh { value with mdReqId := clientId }
  | .marketDataIncrementalRefresh value => .marketDataIncrementalRefresh { value with mdReqId := clientId }
  | .orderCancelReject value => .orderCancelReject
      { value with clOrdId := clientId, origClOrdId := getClientClOrdId value.origClOrdId }
  | .orderMassCancelReport value => .orderMassCancelReport { value with clOrdId := clientId }
  | .executionReport value =>
    let report :=
      { value with clOrdId := getClientClOrdId value.clOrdId, origClOrdId := getClientClOrdId value.origClOrdId }
    match name with
    | .ordStatusReqId => .executionReport { report with ordStatusReqId := clientId }
    | .massStatusReqId => .executionReport { report with massStatusReqId := clientId }
    | _ => .executionReport report
  | .requestForPositionsAck value => .requestForPositionsAck { value with posReqId := clientId }
  | .positionReport value => .positionReport { value with posReqId := clientId }
  | .tradeCaptureReportRequestAck value => .tradeCaptureReportRequestAck { value with tradeRequestId := clientId }
  | .tradeCaptureReport value => .tradeCaptureReport { value with tradeRequestId := clientId }

namespace Controller
variable {controller : Controller} {name : MappingName} {session : Nat}

/-- A response that came under a server id is sent under the client's id of its entry,
to a session that is ready, or it is not sent. -/
def Delivered (name : MappingName) (serverId : String) (response : String → Response) (before after : Controller) :
    Prop :=
  after.log = before.log ∨
    ∃ session clientId keepAlive client msgSeqNum,
      before.findReqId name serverId = some (session, clientId, keepAlive) ∧
      before.sessions.find session = some client ∧ client.state = .ready ∧
      after.log = before.log ++ [.toClient session msgSeqNum (.response (response clientId))]

theorem log_removeReqId (name : MappingName) (reqId : String) (controller : Controller) :
    (controller.removeReqId name reqId).log = controller.log := by
  unfold removeReqId
  split
  · rfl
  · simp only
    split <;> rfl

theorem log_dispatchToClient {client : Client.Session} (held : controller.sessions.find session = some client)
    (ready : client.state = .ready) (response : Response) :
    (controller.dispatchToClient response session).log =
      controller.log ++ [.toClient session (client.outboundMsgSeqNum + 1) (.response response)] := by
  simp [dispatchToClient, sendToClient, held, ready]

theorem dispatchToClient_delivered {serverId clientId : String} {keepAlive : Bool}
    (found : controller.findReqId name serverId = some (session, clientId, keepAlive)) (response : String → Response) :
    Delivered name serverId response controller (controller.dispatchToClient (response clientId) session) := by
  unfold dispatchToClient
  cases held : controller.sessions.find session with
  | none => exact Or.inl rfl
  | some client =>
    simp only
    split
    · next ready =>
      exact Or.inr ⟨session, clientId, keepAlive, client, client.outboundMsgSeqNum + 1, found, held, ready,
        by simp [sendToClient, held]⟩
    · exact Or.inl rfl

private theorem Delivered.of_log {serverId : String} {response : String → Response} {before after last : Controller}
    (delivered : Delivered name serverId response before after) (same : last.log = after.log) :
    Delivered name serverId response before last := by
  unfold Delivered
  rw [same]
  exact delivered

theorem route_delivered (name : MappingName) (serverId : String) (response : String → Response) (remove : Bool → Bool)
    (controller : Controller) :
    Delivered name serverId response controller (controller.route name serverId response remove) := by
  unfold route
  split
  · exact Or.inl rfl
  · next found =>
    split
    · exact (dispatchToClient_delivered found response).of_log (log_removeReqId ..)
    · exact dispatchToClient_delivered found response

private theorem route_sends {serverId clientId : String} {keepAlive : Bool} {client : Client.Session}
    (found : controller.findReqId name serverId = some (session, clientId, keepAlive))
    (held : controller.sessions.find session = some client) (ready : client.state = .ready)
    (response : String → Response) (remove : Bool → Bool) :
    (controller.route name serverId response remove).log =
      controller.log ++ [.toClient session (client.outboundMsgSeqNum + 1) (.response (response clientId))] := by
  unfold route
  simp only [found]
  split
  · rw [log_removeReqId, log_dispatchToClient held ready]
  · exact log_dispatchToClient held ready _

private theorem delivered_ensureClOrdId {serverId : String} {response : String → Response} {clOrdId : String}
    {ordStatus : OrdStatus} {after : Controller}
    (delivered : Delivered name serverId response (controller.ensureClOrdId clOrdId ordStatus) after) :
    Delivered name serverId response controller after := by
  unfold ensureClOrdId at delivered
  split at delivered
  · exact delivered
  · exact delivered

/-- A response that goes through a mapping carries the client's id of the entry. A
rejected order carries the client's part of the server id instead. -/
theorem response_delivered (env : Env) {value : Response} (mapped : value.mapping = some name)
    (controller : Controller) :
    ∃ response : String → Response,
      (∀ clientId, (response clientId).id name = clientId ∨
        name = .clOrdId ∧ (response clientId).id name = getClientClOrdId (value.id name)) ∧
      Delivered name (value.id name) response controller (controller.response env value) := by
  cases value with
  | businessMessageReject value =>
    refine ⟨fun reqId => .businessMessageReject { value with businessRejectRefId := reqId }, fun _ => Or.inl rfl, ?_⟩
    have typed : businessMessageRejectMapping value.refMsgType = some name := mapped
    simp only [Controller.response, businessMessageReject, typed]
    split
    · exact Or.inl rfl
    · next found => exact dispatchToClient_delivered found fun reqId =>
        .businessMessageReject { value with businessRejectRefId := reqId }
  | executionReport value =>
    let report : ExecutionReport :=
      { value with clOrdId := getClientClOrdId value.clOrdId, origClOrdId := getClientClOrdId value.origClOrdId }
    have mapped : (if value.ordStatusReqId ≠ "" then some .ordStatusReqId
      else if value.massStatusReqId ≠ "" then some .massStatusReqId
      else if value.execType = .rejected then some .clOrdId else none) = some name := mapped
    change ∃ response : String → Response, _ ∧ Delivered name _ response controller (controller.executionReport env value)
    unfold executionReport
    simp only
    by_cases status : value.ordStatusReqId ≠ ""
    · rw [if_pos status] at mapped ⊢
      cases mapped
      exact ⟨fun reqId => .executionReport { report with ordStatusReqId := reqId }, fun _ => Or.inl rfl,
        delivered_ensureClOrdId (route_delivered ..)⟩
    · rw [if_neg status] at mapped ⊢
      by_cases massStatus : value.massStatusReqId ≠ ""
      · rw [if_pos massStatus] at mapped ⊢
        cases mapped
        have id clientId : Response.id .massStatusReqId
            (.executionReport { report with massStatusReqId := clientId }) = clientId := rfl
        exact ⟨fun reqId => .executionReport { report with massStatusReqId := reqId }, fun _ => Or.inl (id _),
          delivered_ensureClOrdId (route_delivered ..)⟩
      · rw [if_neg massStatus] at mapped ⊢
        by_cases rejected : value.execType = .rejected
        · rw [if_pos rejected] at mapped ⊢
          cases mapped
          have settled : isPending value.execType = false := by simp [isPending, rejected]
          rw [settled, if_neg Bool.false_ne_true]
          exact ⟨fun _ => .executionReport report, fun _ => Or.inr ⟨rfl, rfl⟩,
            (route_delivered ..).of_log (log_removeReqId ..)⟩
        · rw [if_neg rejected] at mapped
          cases mapped
  | requestForPositionsAck value =>
    cases mapped
    refine ⟨fun reqId => .requestForPositionsAck { value with posReqId := reqId }, fun _ => Or.inl rfl, ?_⟩
    change Delivered _ _ _ controller (controller.requestForPositionsAck value)
    unfold requestForPositionsAck
    split
    · exact Or.inl rfl
    · next session clientId keepAlive found =>
      simp only
      generalize (if (value.posReqResult != .valid || value.posReqStatus == .rejected) = true then 0
        else value.totalNumPosReports) = totalNumPosReports
      have passed : Delivered .posReqId value.posReqId
          (fun reqId => .requestForPositionsAck { value with posReqId := reqId }) controller
          (({ controller with totalNumPosReports } : Controller).dispatchToClient
            (.requestForPositionsAck { value with posReqId := clientId }) session) :=
        @dispatchToClient_delivered { controller with totalNumPosReports } .posReqId session value.posReqId clientId
          keepAlive found fun reqId => .requestForPositionsAck { value with posReqId := reqId }
      split
      · exact passed.of_log (log_removeReqId ..)
      · exact passed
  | _ =>
    cases mapped
    exact ⟨_, fun _ => Or.inl rfl, route_delivered ..⟩

private theorem ensureClOrdId_frame (clOrdId : String) (ordStatus : OrdStatus) (controller : Controller) :
    (controller.ensureClOrdId clOrdId ordStatus).subscriptions = controller.subscriptions ∧
      (controller.ensureClOrdId clOrdId ordStatus).sessions = controller.sessions ∧
      (controller.ensureClOrdId clOrdId ordStatus).log = controller.log := by
  unfold ensureClOrdId
  split <;> exact ⟨rfl, rfl, rfl⟩

private theorem ensureClOrdId_sends {serverId clientId : String} {keepAlive : Bool} {client : Client.Session}
    (found : controller.findReqId name serverId = some (session, clientId, keepAlive))
    (held : controller.sessions.find session = some client) (ready : client.state = .ready)
    (clOrdId : String) (ordStatus : OrdStatus) (response : String → Response) (remove : Bool → Bool) :
    ((controller.ensureClOrdId clOrdId ordStatus).route name serverId response remove).log =
      controller.log ++ [.toClient session (client.outboundMsgSeqNum + 1) (.response (response clientId))] := by
  obtain ⟨subscriptions, sessions, log⟩ := ensureClOrdId_frame clOrdId ordStatus controller
  have found : (controller.ensureClOrdId clOrdId ordStatus).findReqId name serverId = some (session, clientId, keepAlive) := by
    simpa only [findReqId, mapping, subscriptions] using found
  rw [route_sends found (sessions ▸ held) ready, log]

private theorem response_sends (env : Env) {value : Response} (mapped : value.mapping = some name) {clientId : String}
    {keepAlive : Bool} {client : Client.Session}
    (found : controller.findReqId name (value.id name) = some (session, clientId, keepAlive))
    (held : controller.sessions.find session = some client) (ready : client.state = .ready) :
    (controller.response env value).log =
      controller.log ++ [.toClient session (client.outboundMsgSeqNum + 1) (.response (value.addressed name clientId))] := by
  cases value with
  | businessMessageReject value =>
    have typed : businessMessageRejectMapping value.refMsgType = some name := mapped
    have found : controller.findReqId name value.businessRejectRefId = some (session, clientId, keepAlive) := found
    simp only [Controller.response, businessMessageReject, typed, found]
    exact log_dispatchToClient held ready _
  | executionReport value =>
    have mapped : (if value.ordStatusReqId ≠ "" then some .ordStatusReqId
      else if value.massStatusReqId ≠ "" then some .massStatusReqId
      else if value.execType = .rejected then some .clOrdId else none) = some name := mapped
    change (controller.executionReport env value).log = _
    unfold executionReport
    simp only
    by_cases status : value.ordStatusReqId ≠ ""
    · rw [if_pos status] at mapped ⊢
      cases mapped
      exact ensureClOrdId_sends found held ready ..
    · rw [if_neg status] at mapped ⊢
      by_cases massStatus : value.massStatusReqId ≠ ""
      · rw [if_pos massStatus] at mapped ⊢
        cases mapped
        exact ensureClOrdId_sends found held ready ..
      · rw [if_neg massStatus] at mapped ⊢
        by_cases rejected : value.execType = .rejected
        · rw [if_pos rejected] at mapped
          cases mapped
          have settled : isPending value.execType = false := by simp [isPending, rejected]
          rw [settled, if_neg Bool.false_ne_true, if_pos rejected, log_removeReqId]
          exact route_sends found held ready ..
        · rw [if_neg rejected] at mapped
          cases mapped
  | requestForPositionsAck value =>
    cases mapped
    have found : controller.findReqId .posReqId value.posReqId = some (session, clientId, keepAlive) := found
    change (controller.requestForPositionsAck value).log = _
    unfold requestForPositionsAck
    simp only [found]
    generalize (if (value.posReqResult != .valid || value.posReqStatus == .rejected) = true then 0
      else value.totalNumPosReports) = totalNumPosReports
    have sent := @log_dispatchToClient { controller with totalNumPosReports } session client held ready
      (.requestForPositionsAck { value with posReqId := clientId })
    split
    · rw [log_removeReqId]
      exact sent
    · exact sent
  | positionReport value =>
    cases mapped
    exact @route_sends { controller with totalNumPosReports := controller.totalNumPosReports - 1 } .posReqId session
      value.posReqId clientId keepAlive client found held ready
      (fun reqId => .positionReport { value with posReqId := reqId }) _
  | _ =>
    cases mapped
    exact route_sends found held ready ..

theorem response_session (env : Env) (answered : List String) (value : Response) (controller : Controller) :
    ((controller.response env value).view answered).session = (controller.view answered).session := by
  refine (response_moves env value controller).preserves
    (fun router => router.session = (controller.view answered).session) (fun before action after releases step same => ?_) rfl
  cases step with
  | release => exact same
  | tally => exact same
  | _ => exact releases.elim

end Controller

theorem World.Step.response {env : Env} {before after : World} {msgSeqNum : Nat} {value : Response}
    (step : Step env before (.serverRead msgSeqNum (.response value)) after) :
    after.controller = Controller.response env value { before.controller with
      serverSession := { before.controller.serverSession with inboundMsgSeqNum := msgSeqNum } } := by
  have performed := step.performed
  rw [FixProxy.step, Server.read, Server.parse, Outcome.done.injEq] at performed
  exact performed.symm

/-- What the event of a response sends to the session that its entry leads to. -/
theorem World.Step.delivers {env : Env} {before after : World} {msgSeqNum : Nat} {value : Response} {name : MappingName}
    {session : Nat} {clientId : String} {keepAlive : Bool} {client : Client.Session}
    (step : Step env before (.serverRead msgSeqNum (.response value)) after) (mapped : value.mapping = some name)
    (found : before.controller.findReqId name (value.id name) = some (session, clientId, keepAlive))
    (held : before.session session = some client) (ready : client.state = .ready) :
    after.controller.log = before.controller.log ++
      [.toClient session (client.outboundMsgSeqNum + 1) (.response (value.addressed name clientId))] := by
  rw [step.response]
  exact Controller.response_sends env mapped found held ready

end FixProxy
