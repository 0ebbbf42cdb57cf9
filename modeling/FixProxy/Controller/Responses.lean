import FixProxy.Client.Session

/-! The controller's handlers for what the upstream session passes on. -/

namespace FixProxy
open Codec

namespace Controller

/-- The mapping through which a business reject finds its client, by the type of
the rejected message. Every other type is taken for an internal issue. -/
def businessMessageRejectMapping : MsgType → Option MappingName
  | .tradeCaptureReportRequest => some .tradeRequestId
  | .orderMassStatusRequest => some .massStatusReqId
  | .requestForPositions => some .posReqId
  | .newOrderSingle => some .clOrdId
  | .orderCancelRequest => some .clOrdId
  | .orderCancelReplaceRequest => some .clOrdId
  | .orderStatusRequest => some .ordStatusReqId
  | .marketDataRequest => some .mdReqId
  | .marketDataSnapshotFullRefresh => some .mdReqId
  | .marketDataIncrementalRefresh => some .mdReqId
  | .marketDataRequestReject => some .mdReqId
  | .securityDefinitionRequest => some .securityReqId
  | .securityStatusRequest => some .securityStatusReqId
  | .tradingSessionStatusRequest => some .tradSesReqId
  | .securityListRequest => some .securityReqId
  | _ => none

def businessMessageReject (value : BusinessMessageReject) (controller : Controller) : Controller :=
  match businessMessageRejectMapping value.refMsgType with
  | none => controller
  | some name =>
    match controller.findReqId name value.businessRejectRefId with
    | none => controller
    | some (session, reqId, _) =>
      controller.dispatchToClient (.businessMessageReject { value with businessRejectRefId := reqId }) session

/-- The part shared by the handlers that route through a mapping: find the client,
pass the response on under the client's id, and drop the entry when `remove` says
so of its `keep_alive`. -/
def route (name : MappingName) (reqId : String) (response : String → Response) (remove : Bool → Bool)
    (controller : Controller) : Controller :=
  match controller.findReqId name reqId with
  | none => controller
  | some (session, clientReqId, keepAlive) =>
    let controller := controller.dispatchToClient (response clientReqId) session
    if remove keepAlive then controller.removeReqId name reqId else controller

def securityList (value : SecurityList) : Controller → Controller :=
  let failure := value.securityRequestResult != .valid
  route .securityReqId value.securityReqId
    (fun reqId => .securityList { value with securityReqId := reqId })
    fun keepAlive => failure || !keepAlive

def securityDefinition (value : SecurityDefinition) : Controller → Controller :=
  let failure := value.securityResponseType != .acceptSecurityProposalAsIs
  route .securityReqId value.securityReqId
    (fun reqId => .securityDefinition { value with securityReqId := reqId })
    fun keepAlive => failure || !keepAlive

/-- There is no way to detect a reject. -/
def securityStatus (value : SecurityStatus) : Controller → Controller :=
  route .securityStatusReqId value.securityStatusReqId
    (fun reqId => .securityStatus { value with securityStatusReqId := reqId })
    fun keepAlive => !keepAlive

def marketDataRequestReject (value : MarketDataRequestReject) : Controller → Controller :=
  route .mdReqId value.mdReqId
    (fun reqId => .marketDataRequestReject { value with mdReqId := reqId })
    fun _ => true

def marketDataSnapshotFullRefresh (value : MarketDataSnapshotFullRefresh) : Controller → Controller :=
  route .mdReqId value.mdReqId
    (fun reqId => .marketDataSnapshotFullRefresh { value with mdReqId := reqId })
    fun keepAlive => !keepAlive

def marketDataIncrementalRefresh (value : MarketDataIncrementalRefresh) : Controller → Controller :=
  route .mdReqId value.mdReqId
    (fun reqId => .marketDataIncrementalRefresh { value with mdReqId := reqId })
    fun _ => false

def orderCancelReject (value : OrderCancelReject) : Controller → Controller :=
  route .clOrdId value.clOrdId
    (fun reqId => .orderCancelReject
      { value with clOrdId := reqId, origClOrdId := getClientClOrdId value.origClOrdId })
    fun _ => true

def orderMassCancelReport (value : OrderMassCancelReport) : Controller → Controller :=
  route .massCancelClOrdId value.clOrdId
    (fun reqId => .orderMassCancelReport { value with clOrdId := reqId })
    fun _ => true

/-- A report answers an order status request, a mass status request, or it is about
an order action. Only a rejected action goes through the mapping; any other is
broadcast to the client named by its party. -/
def executionReport (env : Env) (value : ExecutionReport) (controller : Controller) : Controller :=
  let clientId := getClientFromParties value.noPartyIds
  let report :=
    { value with clOrdId := getClientClOrdId value.clOrdId, origClOrdId := getClientClOrdId value.origClOrdId }
  if value.ordStatusReqId ≠ "" then
    (controller.ensureClOrdId value.clOrdId value.ordStatus).route .ordStatusReqId value.ordStatusReqId
      (fun reqId => .executionReport { report with ordStatusReqId := reqId })
      fun _ => true
  else if value.massStatusReqId ≠ "" then
    (controller.ensureClOrdId value.clOrdId value.ordStatus).route .massStatusReqId value.massStatusReqId
      (fun reqId => .executionReport { report with massStatusReqId := reqId })
      fun _ => value.lastRptRequested
  else
    let pending := isPending value.execType
    let controller :=
      if value.execType = .rejected then
        controller.route .clOrdId value.clOrdId (fun _ => .executionReport report) fun _ => false
      else
        let controller :=
          if env.library.isOrderComplete value.ordStatus then controller.removeClOrdId env value.clOrdId
          else if pending then controller.ensureClOrdId value.clOrdId value.ordStatus
          else controller
        let controller :=
          if !pending && value.origClOrdId != "" then controller.removeClOrdId env value.origClOrdId
          else controller
        controller.broadcast (.executionReport report) clientId
    if pending then controller else controller.removeReqId .clOrdId value.clOrdId

/-- A positive number of announced reports keeps the entry; the number goes to a
counter that all position requests share. -/
def requestForPositionsAck (value : RequestForPositionsAck) (controller : Controller) : Controller :=
  match controller.findReqId .posReqId value.posReqId with
  | none => controller
  | some (session, reqId, _) =>
    let failure := value.posReqResult != .valid || value.posReqStatus == .rejected
    let totalNumPosReports := if failure then 0 else value.totalNumPosReports
    let remove := failure || value.totalNumPosReports == 0
    let controller := { controller with totalNumPosReports }
    let controller := controller.dispatchToClient
      (.requestForPositionsAck { value with posReqId := reqId }) session
    if remove then controller.removeReqId .posReqId value.posReqId else controller

/-- Any position report counts down the shared counter, even an undeliverable one. -/
def positionReport (value : PositionReport) (controller : Controller) : Controller :=
  let controller := { controller with totalNumPosReports := controller.totalNumPosReports - 1 }
  let failure := value.posReqResult != .valid
  controller.route .posReqId value.posReqId
    (fun reqId => .positionReport { value with posReqId := reqId })
    fun keepAlive => failure || (controller.totalNumPosReports == 0 && !keepAlive)

def tradeCaptureReportRequestAck (value : TradeCaptureReportRequestAck) : Controller → Controller :=
  route .tradeRequestId value.tradeRequestId
    (fun reqId => .tradeCaptureReportRequestAck { value with tradeRequestId := reqId })
    fun keepAlive => !keepAlive

def tradeCaptureReport (value : TradeCaptureReport) : Controller → Controller :=
  route .tradeRequestId value.tradeRequestId
    (fun reqId => .tradeCaptureReport { value with tradeRequestId := reqId })
    fun keepAlive => value.lastRptRequested && !keepAlive

/-- The handler a response is given to, by overload. -/
def response (env : Env) : Response → Controller → Controller
  | .businessMessageReject value => businessMessageReject value
  | .securityList value => securityList value
  | .securityDefinition value => securityDefinition value
  | .securityStatus value => securityStatus value
  | .marketDataRequestReject value => marketDataRequestReject value
  | .marketDataSnapshotFullRefresh value => marketDataSnapshotFullRefresh value
  | .marketDataIncrementalRefresh value => marketDataIncrementalRefresh value
  | .orderCancelReject value => orderCancelReject value
  | .orderMassCancelReport value => orderMassCancelReport value
  | .executionReport value => executionReport env value
  | .requestForPositionsAck value => requestForPositionsAck value
  | .positionReport value => positionReport value
  | .tradeCaptureReportRequestAck value => tradeCaptureReportRequestAck value
  | .tradeCaptureReport value => tradeCaptureReport value

/-- Both entries of a pending user request, dropped when its answer is handled. -/
def settleUserRequest (userRequestId : String) (session : Nat) (controller : Controller) : Controller :=
  let user := controller.subscriptions.user
  controller.setUser
    { user with
      clientToServer := user.clientToServer.erase session
      serverToClient := user.serverToClient.erase userRequestId }

def userResponse (env : Env) (value : UserResponse) (controller : Controller) : Outcome Controller :=
  match controller.subscriptions.user.serverToClient.find value.userRequestId with
  | none => .fatal "Unexpected"
  | some session =>
    match controller.sessions.find session with
    | some client =>
      let routed := match value.userStatus with
        | .loggedIn => controller.userAdd value.username session
        | .notLoggedIn => controller.userRemove value.username (client.state == Client.State.ready)
        | .other => .done controller
      routed.andThen fun controller =>
        Client.userResponse env value session (controller.settleUserRequest value.userRequestId session)
    | none => controller.userRemove value.username false

/-- `Disconnected` of the upstream session: every client session is closed. The
order table is not cleared. -/
def serverDisconnected (env : Env) (controller : Controller) : Outcome Controller :=
  Outcome.forEach controller.sessions.keys (Client.forceDisconnect env) { controller with ready := false }

end Controller
end FixProxy
