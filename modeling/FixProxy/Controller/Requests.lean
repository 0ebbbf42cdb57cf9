import FixProxy.Controller.Utilities

/-! The controller's handlers for what a client session passes on: the twelve
kinds of business request, user requests, and the end of a session. -/

namespace FixProxy
open Codec

namespace Texts

def orderIdNone := "NONE"
def validation := "VALIDATION"
def duplicateClOrdId := "DUPLICATE_CL_ORD_ID"
def duplicateOrdStatusReqId := "DUPLICATE_ORD_STATUS_REQ_ID"
def duplicateMassStatusReqId := "DUPLICATE_MASS_STATUS_REQ_ID"
def unknownSubscriptionRequestType := "UNKNOWN_SUBSCRIPTION_REQUEST_TYPE"
def duplicateMdReqId := "DUPLICATE_MD_REQ_ID"
def unknownMdReqId := "UNKNOWN_MD_REQ_ID"
def duplicatedPosReqId := "DUPLICATED_POS_REQ_ID"
def unknownPosReqId := "UNKNOWN_POS_REQ_ID"
def duplicateTradeRequestId := "DUPLICATE_TRADE_REQUEST_ID"
def unknownTradeRequestId := "UNKNOWN_TRADE_REQUEST_ID"

end Texts

namespace Controller

/-! Requests with a subscription type. -/

/-- The part shared by the six handlers with a subscription type: validation, the
lookup of the client's id, and the five-way switch. `dispatch` receives the
server id under which the client id is outstanding, and the new `keep_alive`. -/
def subscription (name : MappingName) (session : Nat) (reqId : String) (isValid : Bool)
    (type : SubscriptionRequestType) (invalid unknown duplicate missing : Controller → Controller)
    (dispatch : Option String → Bool → Controller → Outcome Controller) (controller : Controller) :
    Outcome Controller :=
  if !isValid then .done (invalid controller) else
  let controller := controller.touch name session
  let exists_ := controller.findClient name session reqId
  match type with
  | .undefined | .unknown => .done (unknown controller)
  | .snapshot =>
    if exists_.isSome then .done (duplicate controller) else dispatch exists_ false controller
  | .snapshotUpdates =>
    if exists_.isSome then .done (duplicate controller) else dispatch exists_ true controller
  | .unsubscribe =>
    if exists_.isSome then dispatch exists_ false controller else .done (missing controller)

/-- The `dispatch` of the security and market data handlers: whatever the type, the
request goes upstream under a new id. -/
def dispatchSubscription (name : MappingName) (session : Nat) (reqId : String) (request : String → Request)
    (exists_ : Option String) (keepAlive : Bool) (controller : Controller) : Outcome Controller :=
  let (requestId, controller) := controller.createRequestId
  (controller.dispatchToServer (.request (request requestId))).andThen fun controller =>
    -- note! *after* request has been sent
    if exists_.isSome then .done (controller.removeReqId name requestId)
    else .done (controller.addReqId name reqId requestId session keepAlive)

def rejectSecurityListRequest (request : SecurityListRequest) (session : Nat) (controller : Controller) : Controller :=
  let (requestId, controller) := controller.createRequestId
  controller.dispatchToClient (.securityList
    { securityReqId := request.securityReqId
      securityResponseId := requestId
      securityRequestResult := .invalidOrUnsupported }) session

def securityListRequest (request : SecurityListRequest) (session : Nat) : Controller → Outcome Controller :=
  let reject := rejectSecurityListRequest request session
  subscription .securityReqId session request.securityReqId request.isValid
    (getSubscriptionRequestType request.subscriptionRequestType) reject reject reject reject
    (dispatchSubscription .securityReqId session request.securityReqId fun requestId =>
      .securityListRequest { request with securityReqId := requestId })

def rejectSecurityDefinitionRequest (request : SecurityDefinitionRequest) (session : Nat)
    (controller : Controller) : Controller :=
  let (requestId, controller) := controller.createRequestId
  controller.dispatchToClient (.securityDefinition
    { securityReqId := request.securityReqId
      securityResponseId := requestId
      securityResponseType := .rejectSecurityProposal
      symbol := request.symbol
      securityExchange := request.securityExchange }) session

def securityDefinitionRequest (request : SecurityDefinitionRequest) (session : Nat) :
    Controller → Outcome Controller :=
  let reject := rejectSecurityDefinitionRequest request session
  subscription .securityReqId session request.securityReqId request.isValid
    (getSubscriptionRequestType request.subscriptionRequestType) reject reject reject reject
    (dispatchSubscription .securityReqId session request.securityReqId fun requestId =>
      .securityDefinitionRequest { request with securityReqId := requestId })

/-- The protocol has no proper reject here: the answer is an empty status. -/
def rejectSecurityStatusRequest (request : SecurityStatusRequest) (session : Nat)
    (controller : Controller) : Controller :=
  controller.dispatchToClient (.securityStatus
    { securityStatusReqId := request.securityStatusReqId
      symbol := request.symbol
      securityExchange := request.securityExchange
      tradingSessionId := ""
      unsolicitedIndicator := false
      securityTradingStatus := 0 }) session

def securityStatusRequest (request : SecurityStatusRequest) (session : Nat) : Controller → Outcome Controller :=
  let reject := rejectSecurityStatusRequest request session
  subscription .securityStatusReqId session request.securityStatusReqId request.isValid
    (getSubscriptionRequestType request.subscriptionRequestType) reject reject reject reject
    (dispatchSubscription .securityStatusReqId session request.securityStatusReqId fun requestId =>
      .securityStatusRequest { request with securityStatusReqId := requestId })

def rejectMarketDataRequest (request : MarketDataRequest) (session : Nat) (mdReqRejReason : MdReqRejReason)
    (text : String) (controller : Controller) : Controller :=
  controller.dispatchToClient (.marketDataRequestReject
    { mdReqId := request.mdReqId, mdReqRejReason, text }) session

/-- Unlike the other subscriptions, an undefined type is not read as a snapshot. -/
def marketDataRequest (request : MarketDataRequest) (session : Nat) : Controller → Outcome Controller :=
  let reject := rejectMarketDataRequest request session
  subscription .mdReqId session request.mdReqId request.isValid request.subscriptionRequestType
    (reject .unsupportedScope Texts.validation)
    (reject .unsupportedSubscriptionRequestType Texts.unknownSubscriptionRequestType)
    (reject .duplicateMdReqId Texts.duplicateMdReqId)
    (reject .unsupportedSubscriptionRequestType Texts.unknownMdReqId)
    (dispatchSubscription .mdReqId session request.mdReqId fun requestId =>
      .marketDataRequest { request with mdReqId := requestId })

def rejectRequestForPositions (request : RequestForPositions) (session : Nat) (text : String)
    (controller : Controller) : Controller :=
  let (requestId, controller) := controller.createRequestId
  controller.dispatchToClient (.requestForPositionsAck
    { posMaintRptId := requestId
      posReqId := request.posReqId
      totalNumPosReports := 0
      unsolicitedIndicator := false
      posReqResult := .invalidOrUnsupported
      posReqStatus := .rejected
      noPartyIds := request.noPartyIds
      account := request.account
      accountType := request.accountType
      text }) session

/-- An unsubscribe keeps the id of the subscription and only clears `keep_alive`. -/
def dispatchPositions (session : Nat) (request : RequestForPositions)
    (exists_ : Option String) (keepAlive : Bool) (controller : Controller) : Outcome Controller :=
  let (requestId, controller) := match exists_ with
    | some requestId => (requestId, controller)
    | none => controller.createRequestId
  (controller.dispatchToServer (.request
      (.requestForPositions { request with posReqId := requestId }))).andThen fun controller =>
    -- note! *after* request has been sent
    if exists_.isSome then
      let mapping := controller.mapping .posReqId
      if (mapping.serverToClient.find requestId).isSome then
        .done (controller.setMapping .posReqId
          { mapping with serverToClient :=
              mapping.serverToClient.update requestId (fun (session, reqId, _) => (session, reqId, keepAlive)) })
      else .fatal "Unexpected"
    else .done (controller.addReqId .posReqId request.posReqId requestId session keepAlive)

def requestForPositions (request : RequestForPositions) (session : Nat) : Controller → Outcome Controller :=
  let reject := rejectRequestForPositions request session
  subscription .posReqId session request.posReqId request.isValid
    (getSubscriptionRequestType request.subscriptionRequestType)
    (reject Texts.validation) (reject Texts.unknownSubscriptionRequestType)
    (reject Texts.duplicatedPosReqId) (reject Texts.unknownPosReqId)
    (dispatchPositions session request)

def rejectTradeCaptureReportRequest (request : TradeCaptureReportRequest) (session : Nat) (text : String)
    (controller : Controller) : Controller :=
  -- the id created here is not used
  let (_, controller) := controller.createRequestId
  controller.dispatchToClient (.tradeCaptureReportRequestAck
    { tradeRequestId := request.tradeRequestId
      tradeRequestType := request.tradeRequestType
      tradeRequestStatus := .rejected
      symbol := request.symbol
      securityExchange := request.securityExchange
      text }) session

def dispatchTrades (session : Nat) (request : TradeCaptureReportRequest)
    (exists_ : Option String) (keepAlive : Bool) (controller : Controller) : Outcome Controller :=
  let requestId := FixProxy.createRequestId (getClientFromParties request.noPartyIds) request.tradeRequestId
  (controller.dispatchToServer (.request
      (.tradeCaptureReportRequest { request with tradeRequestId := requestId }))).andThen fun controller =>
    -- note! *after* request has been sent
    if exists_.isSome then .done (controller.removeReqId .tradeRequestId requestId)
    else .done (controller.addReqId .tradeRequestId request.tradeRequestId requestId session keepAlive)

def tradeCaptureReportRequest (request : TradeCaptureReportRequest) (session : Nat) :
    Controller → Outcome Controller :=
  let reject := rejectTradeCaptureReportRequest request session
  subscription .tradeRequestId session request.tradeRequestId request.isValid
    (getSubscriptionRequestType request.subscriptionRequestType)
    (reject Texts.validation) (reject Texts.unknownSubscriptionRequestType)
    (reject Texts.duplicateTradeRequestId) (reject Texts.unknownTradeRequestId)
    (dispatchTrades session request)

/-! Orders. -/

/-- The part shared by the order handlers: validation, the check for a duplicate id,
and the request sent under an id made of the client's party and its own id. -/
def orderRequest (name : MappingName) (session : Nat) (reqId : String) (isValid : Bool)
    (invalid duplicate : Controller → Controller) (clientId : String) (request : String → Request)
    (keepAlive : Bool) (controller : Controller) : Outcome Controller :=
  if !isValid then .done (invalid controller) else
  let controller := controller.touch name session
  if (controller.findClient name session reqId).isSome then .done (duplicate controller) else
  let requestId := FixProxy.createRequestId clientId reqId
  (controller.dispatchToServer (.request (request requestId))).andThen fun controller =>
    -- note! *after* request has been sent
    .done (controller.addReqId name reqId requestId session keepAlive)

/-- An execution report that rejects a request without touching any order. -/
def rejectedExecutionReport (requestId : String) : ExecutionReport where
  orderId := requestId
  clOrdId := ""
  origClOrdId := ""
  ordStatusReqId := ""
  massStatusReqId := ""
  totNumReports := 0
  lastRptRequested := false
  noPartyIds := []
  execId := requestId
  execType := .orderStatus
  ordStatus := .rejected
  account := ""
  symbol := ""
  securityExchange := ""
  side := 0
  timeInForce := 0
  execInst := ""
  text := ""

def rejectOrderStatusRequest (request : OrderStatusRequest) (session : Nat) (text : String)
    (controller : Controller) : Controller :=
  let (requestId, controller) := controller.createRequestId
  controller.dispatchToClient (.executionReport
    { rejectedExecutionReport requestId with
      clOrdId := request.clOrdId
      ordStatusReqId := request.ordStatusReqId
      lastRptRequested := true
      noPartyIds := request.noPartyIds
      account := request.account
      symbol := request.symbol
      securityExchange := request.securityExchange
      side := request.side
      text }) session

/-- The request id is optional here: without one the request is sent under an id
that all such requests of a client share, and is entered on the server's side only. -/
def orderStatusRequest (request : OrderStatusRequest) (session : Nat) (controller : Controller) :
    Outcome Controller :=
  let reject := rejectOrderStatusRequest request session
  if !request.isValid then .done (reject Texts.validation controller) else
  let reqId := request.ordStatusReqId
  let controller := controller.touch .ordStatusReqId session
  if reqId ≠ "" ∧ (controller.findClient .ordStatusReqId session reqId).isSome then
    .done (reject Texts.duplicateOrdStatusReqId controller)
  else
  let clientId := getClientFromParties request.noPartyIds
  let requestId := FixProxy.createRequestId clientId reqId
  (controller.dispatchToServer (.request (.orderStatusRequest
      { request with
        ordStatusReqId := requestId
        clOrdId := FixProxy.createRequestId clientId request.clOrdId }))).andThen fun controller =>
    -- note! *after* request has been sent
    if reqId ≠ "" then .done (controller.addReqId .ordStatusReqId reqId requestId session false)
    else
      let mapping := controller.mapping .ordStatusReqId
      .done (controller.setMapping .ordStatusReqId
        { mapping with serverToClient := mapping.serverToClient.tryEmplace requestId (session, reqId, false) })

def rejectNewOrderSingle (request : NewOrderSingle) (session : Nat) (text : String)
    (controller : Controller) : Controller :=
  let (requestId, controller) := controller.createRequestId
  controller.dispatchToClient (.executionReport
    { rejectedExecutionReport requestId with
      clOrdId := request.clOrdId
      noPartyIds := request.noPartyIds
      account := request.account
      symbol := request.symbol
      securityExchange := request.securityExchange
      side := request.side
      timeInForce := request.timeInForce
      execInst := request.execInst
      text }) session

def newOrderSingle (request : NewOrderSingle) (session : Nat) : Controller → Outcome Controller :=
  let reject := rejectNewOrderSingle request session
  orderRequest .clOrdId session request.clOrdId request.isValid
    (reject Texts.validation) (reject Texts.duplicateClOrdId)
    (getClientFromParties request.noPartyIds)
    (fun requestId => .newOrderSingle { request with clOrdId := requestId }) true

/-- The reject of a replace or cancel request, which names both orders. -/
def rejectOrderCancel (clOrdId origClOrdId account : String) (cxlRejResponseTo : CxlRejResponseTo) (session : Nat)
    (cxlRejReason : CxlRejReason) (text : String) (controller : Controller) : Controller :=
  controller.dispatchToClient (.orderCancelReject
    { orderId := Texts.orderIdNone
      clOrdId
      origClOrdId
      ordStatus := .rejected
      account
      cxlRejResponseTo
      cxlRejReason
      text }) session

def orderCancelReplaceRequest (request : OrderCancelReplaceRequest) (session : Nat) :
    Controller → Outcome Controller :=
  let reject := rejectOrderCancel request.clOrdId request.origClOrdId request.account
    .orderCancelReplaceRequest session
  let clientId := getClientFromParties request.noPartyIds
  orderRequest .clOrdId session request.clOrdId request.isValid
    (reject .other Texts.validation) (reject .duplicateClOrdId Texts.duplicateClOrdId)
    clientId
    (fun requestId => .orderCancelReplaceRequest
      { request with
        clOrdId := requestId
        origClOrdId := FixProxy.createRequestId clientId request.origClOrdId }) true

/-- A duplicate is reported with the text of an order status request. -/
def orderCancelRequest (request : OrderCancelRequest) (session : Nat) : Controller → Outcome Controller :=
  let reject := rejectOrderCancel request.clOrdId request.origClOrdId request.account
    .orderCancelRequest session
  let clientId := getClientFromParties request.noPartyIds
  orderRequest .clOrdId session request.clOrdId request.isValid
    (reject .other Texts.validation) (reject .duplicateClOrdId Texts.duplicateOrdStatusReqId)
    clientId
    (fun requestId => .orderCancelRequest
      { request with
        clOrdId := requestId
        origClOrdId := FixProxy.createRequestId clientId request.origClOrdId }) true

def rejectOrderMassStatusRequest (request : OrderMassStatusRequest) (session : Nat) (text : String)
    (controller : Controller) : Controller :=
  let (requestId, controller) := controller.createRequestId
  controller.dispatchToClient (.executionReport
    { rejectedExecutionReport requestId with
      massStatusReqId := request.massStatusReqId
      lastRptRequested := true
      noPartyIds := request.noPartyIds
      account := request.account
      symbol := request.symbol
      securityExchange := request.securityExchange
      side := request.side
      text }) session

def orderMassStatusRequest (request : OrderMassStatusRequest) (session : Nat) : Controller → Outcome Controller :=
  let reject := rejectOrderMassStatusRequest request session
  orderRequest .massStatusReqId session request.massStatusReqId request.isValid
    (reject Texts.validation) (reject Texts.duplicateMassStatusReqId)
    (getClientFromParties request.noPartyIds)
    (fun requestId => .orderMassStatusRequest { request with massStatusReqId := requestId }) false

/-- The order id of the reject is the client's own order id. -/
def rejectOrderMassCancelRequest (request : OrderMassCancelRequest) (session : Nat) (text : String)
    (controller : Controller) : Controller :=
  controller.dispatchToClient (.orderMassCancelReport
    { clOrdId := request.clOrdId
      orderId := request.clOrdId
      massCancelRequestType := request.massCancelRequestType
      massCancelResponse := .cancelRequestRejected
      symbol := request.symbol
      securityExchange := request.securityExchange
      side := request.side
      text
      noPartyIds := request.noPartyIds }) session

def orderMassCancelRequest (request : OrderMassCancelRequest) (session : Nat) : Controller → Outcome Controller :=
  let reject := rejectOrderMassCancelRequest request session
  orderRequest .massCancelClOrdId session request.clOrdId request.isValid
    (reject Texts.validation) (reject Texts.duplicateClOrdId)
    (getClientFromParties request.noPartyIds)
    (fun requestId => .orderMassCancelRequest { request with clOrdId := requestId }) false

/-- The handler a request is given to, by overload. -/
def request : Request → Nat → Controller → Outcome Controller
  | .securityListRequest value => securityListRequest value
  | .securityDefinitionRequest value => securityDefinitionRequest value
  | .securityStatusRequest value => securityStatusRequest value
  | .marketDataRequest value => marketDataRequest value
  | .orderStatusRequest value => orderStatusRequest value
  | .newOrderSingle value => newOrderSingle value
  | .orderCancelReplaceRequest value => orderCancelReplaceRequest value
  | .orderCancelRequest value => orderCancelRequest value
  | .orderMassStatusRequest value => orderMassStatusRequest value
  | .orderMassCancelRequest value => orderMassCancelRequest value
  | .requestForPositions value => requestForPositions value
  | .tradeCaptureReportRequest value => tradeCaptureReportRequest value

/-! Users. -/

/-- What `NotReady` says when the client id of a logon already has a route. -/
def locked := "locked"

/-- Both maps are written before the request is sent. -/
def registerUserRequest (request : UserRequest) (session : Nat) (controller : Controller) : Outcome Controller :=
  let user := controller.subscriptions.user
  if (user.clientToServer.find session).getD "" = "" then
    (controller.setUser
      { user with
        clientToServer := user.clientToServer.assign session request.userRequestId
        serverToClient := user.serverToClient.tryEmplace request.userRequestId session }).dispatchToServer
      (.userRequest request)
  else .fatal "Unexpected"

def userRequest (request : UserRequest) (session : Nat) (controller : Controller) : Outcome Controller :=
  match request.userRequestType with
  | .logOnUser =>
    if controller.userIsLocked request.username then .thrown locked controller
    else controller.registerUserRequest request session
  | .logOffUser => controller.registerUserRequest request session
  | .other => .fatal "Unexpected: user_request"

/-! The end of a session. -/

/-- The implicit unsubscribe of a disconnect; the bridge ends all entry types. -/
def unsubscribeMarketData (reqId : String) (controller : Controller) : Outcome Controller :=
  if !controller.ready then .done controller else
  controller.dispatchToServer (.request (.marketDataRequest
    { mdReqId := reqId
      subscriptionRequestType := .unsubscribe
      noRelatedSym := []
      isValid := true }))

/-- The user part of the Disconnected handler: log off and release the route at once. -/
def releaseUser (session : Nat) (controller : Controller) : Outcome Controller :=
  match controller.subscriptions.user.sessionToClient.find session with
  | none => .done controller
  | some username =>
    let logOff : Outcome Controller :=
      if controller.ready then
        let (userRequestId, controller) := controller.createRequestId
        (controller.dispatchToServer (.userRequest
            { userRequestId, userRequestType := .logOffUser, username })).andThen fun controller =>
          let user := controller.subscriptions.user
          .done (controller.setUser
            { user with
              serverToClient := user.serverToClient.tryEmplace userRequestId session
              clientToServer := user.clientToServer.tryEmplace session userRequestId })
      else .done controller
    logOff.andThen fun controller =>
      let user := controller.subscriptions.user
      .done (controller.setUser
        { user with
          clientToSession := user.clientToSession.erase username
          sessionToClient := user.sessionToClient.erase session })

def ignore (_ : String) (controller : Controller) : Outcome Controller := .done controller

def sessionDisconnected (session : Nat) (controller : Controller) : Outcome Controller :=
  let controller := { controller with disconnects := controller.disconnects ++ [session] }
  (controller.clearReqIds .securityReqId session ignore).andThen fun controller =>
  (controller.clearReqIds .securityStatusReqId session ignore).andThen fun controller =>
  (controller.clearReqIds .tradSesReqId session ignore).andThen fun controller =>
  (controller.clearReqIds .mdReqId session unsubscribeMarketData).andThen fun controller =>
  (controller.clearReqIds .ordStatusReqId session ignore).andThen fun controller =>
  (controller.clearReqIds .massStatusReqId session ignore).andThen fun controller =>
  (controller.clearReqIds .posReqId session ignore).andThen fun controller =>
  (controller.clearReqIds .tradeRequestId session ignore).andThen fun controller =>
  (controller.clearReqIds .clOrdId session ignore).andThen fun controller =>
  (controller.clearReqIds .massCancelClOrdId session ignore).andThen fun controller =>
  controller.releaseUser session

end Controller
end FixProxy
