import FixProxy.Controller.Requests

/-! The client session: its state machine over inbound messages, timer events and
user responses. A session is named by its id; the handlers act on the whole
process because they call into the controller and back. -/

namespace FixProxy
open Codec

namespace Texts

def goodbye := "goodbye"
def missingHeartbeat := "MISSING HEARTBEAT"
def noLogon := "NO LOGON"
def unexpectedLogon := "UNEXPECTED LOGON"
def unexpectedMsgType := "UNEXPECTED MSG_TYPE"
def unknownTargetCompId := "UNKNOWN TARGET_COMP_ID"
def unsupportedMsgType := "UNSUPPORTED MSG_TYPE"
def unsupportedPartyIds := "UNSUPPORTED PARTY_IDS"
def userResponseTimeout := "USER_RESPONSE_TIMEOUT"
def invalidReqId := "INVALID_REQ_ID"
def invalidMdReqId := "INVALID_MD_REQ_ID"
def invalidClOrdId := "INVALID_CL_ORD_ID"
def invalidOrigClOrdId := "INVALID_ORIG_CL_ORD_ID"
def invalidLogonEncryptMethod := "INVALID_LOGON_ENCRYPT_METHOD"
def invalidLogonHeartBtInt := "INVALID_LOGON_HEART_BT_INT"
def invalidLogonResetSeqNumFlag := "INVALID_LOGON_RESET_SEQ_NUM_FLAG"

end Texts

def nanosecondsPerSecond : Int := 1000000000

namespace Client
variable (env : Env)

/-- The session that a handler runs on; a call to a session the manager no longer holds does nothing. -/
def withSession (session : Nat) (body : Session → Controller → Outcome Controller) (controller : Controller) :
    Outcome Controller :=
  match controller.sessions.find session with
  | none => .done controller
  | some client => body client controller

def setState (session : Nat) (state : State) (controller : Controller) : Controller :=
  controller.updateSession session fun client => { client with state }

/-! The end of a session. -/

/-- The last two lines of `make_zombie`. -/
def bury (session : Nat) (controller : Controller) : Controller :=
  let controller := setState session .zombie controller
  { controller with shared := controller.shared.sessionRemove session }

def makeZombie (session : Nat) : Controller → Outcome Controller :=
  withSession session fun client controller =>
    match client.state with
    | .waitingLogon => .done (bury session controller)
    | .waitingCreateRoute | .ready | .waitingRemoveRoute =>
      (controller.sessionDisconnected session).andThen fun controller => .done (bury session controller)
    | .zombie => .done controller

def close (session : Nat) : Controller → Outcome Controller :=
  withSession session fun client controller =>
    if client.state = .zombie then .done controller else
    let controller := { controller with log := controller.log ++ [.closeClient session] }
    let closed := if env.library.closeCallsBack session then makeZombie session controller else .done controller
    closed.andThen (makeZombie session)

def forceDisconnect (session : Nat) : Controller → Outcome Controller := close env session

section
variable {env} {session : Nat} {controller after : Controller}

/-- The session is no longer held, or it is a zombie. -/
def Stopped (session : Nat) (controller : Controller) : Prop :=
  ∀ client ∈ controller.sessions.find session, client.state = .zombie

private theorem stopped_bury (session : Nat) (controller : Controller) : Stopped session (bury session controller) := by
  intro client held
  have held : (controller.sessions.find session).map (fun client => { client with state := .zombie }) = some client := by
    simpa [bury, setState, Controller.updateSession] using held
  obtain ⟨older, -, rfl⟩ := Option.map_eq_some_iff.mp held
  rfl

theorem stopped_of_makeZombie (returned : makeZombie session controller = .done after) : Stopped session after := by
  unfold makeZombie withSession at returned
  cases held : controller.sessions.find session with
  | none =>
    rw [held] at returned
    cases returned
    simp [Stopped, held]
  | some client =>
    rw [held] at returned
    cases state : client.state with
    | waitingLogon =>
      simp only [state, Outcome.done.injEq] at returned
      exact returned ▸ stopped_bury session controller
    | zombie =>
      simp only [state, Outcome.done.injEq] at returned
      subst returned
      simp [Stopped, held, state]
    | _ =>
      simp only [state, Outcome.andThen_eq_done, Outcome.done.injEq] at returned
      obtain ⟨middle, -, rfl⟩ := returned
      exact stopped_bury session middle

theorem stopped_of_close (returned : close env session controller = .done after) : Stopped session after := by
  unfold close withSession at returned
  cases held : controller.sessions.find session with
  | none =>
    rw [held] at returned
    cases returned
    simp [Stopped, held]
  | some client =>
    rw [held] at returned
    by_cases ended : client.state = .zombie
    · simp only [ended, if_true, Outcome.done.injEq] at returned
      subst returned
      simp [Stopped, held, ended]
    · simp only [ended, if_false] at returned
      obtain ⟨middle, -, made⟩ := Outcome.andThen_eq_done.mp returned
      exact stopped_of_makeZombie made

end

def sendAndClose (session : Nat) (message : ToClient) (controller : Controller) : Outcome Controller :=
  close env session (controller.sendToClient session message)

def sendRejectAndClose (session : Nat) (header : Header) (msgType : MsgType) (text : String) :
    Controller → Outcome Controller :=
  sendAndClose env session (.reject { refSeqNum := header.msgSeqNum, text, refMsgType := msgType })

def sendBusinessMessageReject (session : Nat) (header : Header) (msgType : MsgType) (refId : String)
    (reason : BusinessRejectReason) (text : String) (controller : Controller) : Controller :=
  controller.sendToClient session (.response (.businessMessageReject
    { refSeqNum := header.msgSeqNum
      refMsgType := msgType
      businessRejectRefId := refId
      businessRejectReason := reason
      text }))

/-! Timer. -/

def timer (now : Nanoseconds) (session : Nat) : Controller → Outcome Controller :=
  withSession session fun client controller =>
    match client.state with
    | .waitingLogon => if client.logonTimeout < now then close env session controller else .done controller
    | .waitingCreateRoute =>
      if client.userResponseTimeout < now then
        sendAndClose env session (.logout Texts.userResponseTimeout) controller
      else .done controller
    | .ready =>
      if client.nextHeartbeat < now then
        let controller := controller.updateSession session fun client =>
          { client with nextHeartbeat := now + env.settings.clientHeartbeatFreq }
        if client.waitingForHeartbeat then
          sendAndClose env session (.logout Texts.missingHeartbeat) controller
        else
          let controller := controller.sendToClient session (.testRequest (toString now ++ "ns"))
          .done (controller.updateSession session fun client => { client with waitingForHeartbeat := true })
      else .done controller
    | .waitingRemoveRoute =>
      if client.userResponseTimeout < now then
        sendAndClose env session (.logout Texts.userResponseTimeout) controller
      else .done controller
    | .zombie => .done controller

/-! Answers to user requests. -/

def logonResponse : Logon where
  heartBtInt := (env.settings.clientHeartbeatFreq / nanosecondsPerSecond).toNat % 65536
  resetSeqNumFlag := false

def userResponse (response : UserResponse) (session : Nat) : Controller → Outcome Controller :=
  withSession session fun client controller =>
    let controller := controller.updateSession session fun client => { client with userResponseTimeout := 0 }
    match client.state with
    | .waitingLogon => .done controller
    | .waitingCreateRoute =>
      match response.userStatus with
      | .loggedIn =>
        .done (setState session .ready (controller.sendToClient session (.logon (logonResponse env))))
      | .notLoggedIn | .other => makeZombie session controller
    | .ready => .done controller
    | .waitingRemoveRoute =>
      match response.userStatus with
      | .notLoggedIn =>
        match controller.shared.sessionLogoutHelper session with
        | .ok shared => sendAndClose env session (.logout Texts.goodbye) { controller with shared }
        | .error _ => makeZombie session controller
      | .loggedIn | .other => makeZombie session controller
    | .zombie => .done controller

/-! Session level messages. -/

def testRequest (testReqId : String) (header : Header) (session : Nat) : Controller → Outcome Controller :=
  withSession session fun client controller =>
    match client.state with
    | .waitingLogon => sendRejectAndClose env session header .testRequest Texts.noLogon controller
    | .waitingCreateRoute | .ready => .done (controller.sendToClient session (.heartbeat testReqId))
    | .waitingRemoveRoute | .zombie => .done controller

def resendRequest (header : Header) (session : Nat) : Controller → Outcome Controller :=
  withSession session fun client controller =>
    match client.state with
    | .waitingLogon | .waitingCreateRoute =>
      sendRejectAndClose env session header .resendRequest Texts.noLogon controller
    | .ready => sendRejectAndClose env session header .resendRequest Texts.unsupportedMsgType controller
    | .waitingRemoveRoute => makeZombie session controller
    | .zombie => .done controller

def heartbeat (header : Header) (session : Nat) : Controller → Outcome Controller :=
  withSession session fun client controller =>
    match client.state with
    | .waitingLogon | .waitingCreateRoute =>
      sendRejectAndClose env session header .heartbeat Texts.noLogon controller
    | .ready => .done (controller.updateSession session fun client => { client with waitingForHeartbeat := false })
    | .waitingRemoveRoute | .zombie => .done controller

/-- What a logon is refused for before the credentials are looked at. -/
def validateLogon (logon : Logon) (header : Header) : Option String :=
  let heartBtInt := logon.heartBtInt * nanosecondsPerSecond
  if header.targetCompId ≠ env.settings.clientCompId then some Texts.unknownTargetCompId
  else if logon.encryptMethod ≠ .none then some Texts.invalidLogonEncryptMethod
  else if heartBtInt < env.settings.clientLogonHeartbeatMin ∨ heartBtInt > env.settings.clientLogonHeartbeatMax then
    some Texts.invalidLogonHeartBtInt
  else if !logon.resetSeqNumFlag then some Texts.invalidLogonResetSeqNumFlag
  else none

/-- The `success` continuation of a logon: the credentials were accepted. -/
def logonAccepted (logon : Logon) (header : Header) (now : Nanoseconds) (strategyId session : Nat)
    (controller : Controller) : Outcome Controller :=
  let partyId := toString strategyId
  let controller := controller.updateSession session fun client =>
    { client with username := logon.username, partyId }
  let (userRequestId, controller) := controller.createRequestId
  let requested := (controller.userRequest
      { userRequestId, userRequestType := .logOnUser, username := partyId } session).andThen fun controller =>
    .done (controller.updateSession session fun client =>
      { client with
        state := .waitingCreateRoute
        userResponseTimeout := now + env.settings.serverRequestTimeout })
  requested.recover fun what => sendRejectAndClose env session header .logon what

def logon (logon : Logon) (header : Header) (clock : Clock) (session : Nat) : Controller → Outcome Controller :=
  withSession session fun client controller =>
    match client.state with
    | .waitingLogon =>
      let controller := controller.updateSession session fun client => { client with compId := header.senderCompId }
      match validateLogon env logon header with
      | some text => sendRejectAndClose env session header .logon text controller
      | none =>
        match controller.shared.sessionLogonHelper env.library.toLibrary env.settings clock.realtime session
            logon.username logon.password logon.rawData with
        | .error reason => sendRejectAndClose env session header .logon reason controller
        | .ok (strategyId, shared) =>
          logonAccepted env logon header clock.system strategyId session { controller with shared }
    | .waitingCreateRoute | .ready =>
      sendRejectAndClose env session header .logon Texts.unexpectedLogon controller
    | .waitingRemoveRoute => makeZombie session controller
    | .zombie => .done controller

def logout (header : Header) (now : Nanoseconds) (session : Nat) : Controller → Outcome Controller :=
  withSession session fun client controller =>
    match client.state with
    | .waitingLogon | .waitingCreateRoute =>
      sendRejectAndClose env session header .logout Texts.noLogon controller
    | .ready =>
      let (userRequestId, controller) := controller.createRequestId
      (controller.userRequest
          { userRequestId, userRequestType := .logOffUser, username := client.partyId } session).andThen
        fun controller =>
          .done (controller.updateSession session fun client =>
            { client with
              state := .waitingRemoveRoute
              userResponseTimeout := now + env.settings.serverRequestTimeout })
    | .waitingRemoveRoute => makeZombie session controller
    | .zombie => .done controller

/-! Business messages. -/

/-- The state switch of every business request: only a ready session passes it on. -/
def business (msgType : MsgType) (header : Header) (session : Nat)
    (ready : Session → Controller → Outcome Controller) : Controller → Outcome Controller :=
  withSession session fun client controller =>
    match client.state with
    | .waitingLogon | .waitingCreateRoute =>
      sendRejectAndClose env session header msgType Texts.noLogon controller
    | .ready => ready client controller
    | .waitingRemoveRoute => makeZombie session controller
    | .zombie => .done controller

/-- `validate_req_id`, applied to each id in turn: the first invalid one is rejected with its text. -/
def validated (msgType : MsgType) (header : Header) (session : Nat) (ids : List (String × String))
    (next : Controller → Outcome Controller) (controller : Controller) : Outcome Controller :=
  match ids.find? (fun (id, _) => !env.library.isValidBase64 id) with
  | some (id, text) =>
    .done (sendBusinessMessageReject session header msgType id .other text controller)
  | none => next controller

/-- `add_party_ids`: the only party a request goes upstream with is the session's own.
A request that already names parties is rejected. -/
def addPartyIds (msgType : MsgType) (header : Header) (session : Nat) (client : Session)
    (noPartyIds : List Party) (refId text : String) (callback : List Party → Controller → Outcome Controller)
    (controller : Controller) : Outcome Controller :=
  if noPartyIds = [] then
    callback [{ partyId := client.partyId, partyIdSource := .proprietaryCustomCode, partyRole := .clientId }] controller
  else .done (sendBusinessMessageReject session header msgType refId .other text controller)

def securityListRequest (value : SecurityListRequest) (header : Header) (session : Nat) :
    Controller → Outcome Controller :=
  business env .securityListRequest header session fun _ =>
    validated env .securityListRequest header session [(value.securityReqId, Texts.invalidReqId)]
      (Controller.securityListRequest value session)

def securityDefinitionRequest (value : SecurityDefinitionRequest) (header : Header) (session : Nat) :
    Controller → Outcome Controller :=
  business env .securityDefinitionRequest header session fun _ =>
    validated env .securityDefinitionRequest header session [(value.securityReqId, Texts.invalidReqId)]
      (Controller.securityDefinitionRequest value session)

def securityStatusRequest (value : SecurityStatusRequest) (header : Header) (session : Nat) :
    Controller → Outcome Controller :=
  business env .securityStatusRequest header session fun _ =>
    validated env .securityStatusRequest header session [(value.securityStatusReqId, Texts.invalidReqId)]
      (Controller.securityStatusRequest value session)

def marketDataRequest (value : MarketDataRequest) (header : Header) (session : Nat) :
    Controller → Outcome Controller :=
  business env .marketDataRequest header session fun _ =>
    validated env .marketDataRequest header session [(value.mdReqId, Texts.invalidMdReqId)]
      (Controller.marketDataRequest value session)

/-- The parties are refused under the order's id although the request's own id was checked. -/
def orderStatusRequest (value : OrderStatusRequest) (header : Header) (session : Nat) :
    Controller → Outcome Controller :=
  business env .orderStatusRequest header session fun client =>
    validated env .orderStatusRequest header session [(value.ordStatusReqId, Texts.invalidReqId)]
      (addPartyIds .orderStatusRequest header session client value.noPartyIds value.clOrdId Texts.unsupportedPartyIds
        fun noPartyIds => Controller.orderStatusRequest { value with noPartyIds } session)

def orderMassStatusRequest (value : OrderMassStatusRequest) (header : Header) (session : Nat) :
    Controller → Outcome Controller :=
  business env .orderMassStatusRequest header session fun client =>
    validated env .orderMassStatusRequest header session [(value.massStatusReqId, Texts.invalidReqId)]
      (addPartyIds .orderMassStatusRequest header session client value.noPartyIds value.massStatusReqId
        Texts.unsupportedPartyIds
        fun noPartyIds => Controller.orderMassStatusRequest { value with noPartyIds } session)

def newOrderSingle (value : NewOrderSingle) (header : Header) (session : Nat) : Controller → Outcome Controller :=
  business env .newOrderSingle header session fun client =>
    validated env .newOrderSingle header session [(value.clOrdId, Texts.invalidClOrdId)]
      (addPartyIds .newOrderSingle header session client value.noPartyIds value.clOrdId Texts.unsupportedPartyIds
        fun noPartyIds => Controller.newOrderSingle { value with noPartyIds } session)

def orderCancelRequest (value : OrderCancelRequest) (header : Header) (session : Nat) :
    Controller → Outcome Controller :=
  business env .orderCancelRequest header session fun client =>
    validated env .orderCancelRequest header session
      [(value.clOrdId, Texts.invalidClOrdId), (value.origClOrdId, Texts.invalidOrigClOrdId)]
      (addPartyIds .orderCancelRequest header session client value.noPartyIds value.clOrdId Texts.unsupportedPartyIds
        fun noPartyIds => Controller.orderCancelRequest { value with noPartyIds } session)

def orderCancelReplaceRequest (value : OrderCancelReplaceRequest) (header : Header) (session : Nat) :
    Controller → Outcome Controller :=
  business env .orderCancelReplaceRequest header session fun client =>
    validated env .orderCancelReplaceRequest header session
      [(value.clOrdId, Texts.invalidClOrdId), (value.origClOrdId, Texts.invalidOrigClOrdId)]
      (addPartyIds .orderCancelReplaceRequest header session client value.noPartyIds value.clOrdId
        Texts.unsupportedPartyIds
        fun noPartyIds => Controller.orderCancelReplaceRequest { value with noPartyIds } session)

/-- The text of the party check is that of an unsupported message type. -/
def orderMassCancelRequest (value : OrderMassCancelRequest) (header : Header) (session : Nat) :
    Controller → Outcome Controller :=
  business env .orderMassCancelRequest header session fun client =>
    validated env .orderMassCancelRequest header session [(value.clOrdId, Texts.invalidClOrdId)]
      (addPartyIds .orderMassCancelRequest header session client value.noPartyIds value.clOrdId
        Texts.unsupportedMsgType
        fun noPartyIds => Controller.orderMassCancelRequest { value with noPartyIds } session)

def requestForPositions (value : RequestForPositions) (header : Header) (session : Nat) :
    Controller → Outcome Controller :=
  business env .requestForPositions header session fun client =>
    validated env .requestForPositions header session [(value.posReqId, Texts.invalidReqId)]
      (addPartyIds .requestForPositions header session client value.noPartyIds value.posReqId
        Texts.unsupportedPartyIds
        fun noPartyIds => Controller.requestForPositions { value with noPartyIds } session)

/-- The parties are refused under the order's id, with the text of an unsupported message type. -/
def tradeCaptureReportRequest (value : TradeCaptureReportRequest) (header : Header) (session : Nat) :
    Controller → Outcome Controller :=
  business env .tradeCaptureReportRequest header session fun client =>
    validated env .tradeCaptureReportRequest header session [(value.tradeRequestId, Texts.invalidReqId)]
      (addPartyIds .tradeCaptureReportRequest header session client value.noPartyIds value.clOrdId
        Texts.unsupportedMsgType
        fun noPartyIds => Controller.tradeCaptureReportRequest { value with noPartyIds } session)

def request : Request → Header → Nat → Controller → Outcome Controller
  | .securityListRequest value => securityListRequest env value
  | .securityDefinitionRequest value => securityDefinitionRequest env value
  | .securityStatusRequest value => securityStatusRequest env value
  | .marketDataRequest value => marketDataRequest env value
  | .orderStatusRequest value => orderStatusRequest env value
  | .newOrderSingle value => newOrderSingle env value
  | .orderCancelReplaceRequest value => orderCancelReplaceRequest env value
  | .orderCancelRequest value => orderCancelRequest env value
  | .orderMassStatusRequest value => orderMassStatusRequest env value
  | .orderMassCancelRequest value => orderMassCancelRequest env value
  | .requestForPositions value => requestForPositions env value
  | .tradeCaptureReportRequest value => tradeCaptureReportRequest env value

/-- `parse` and the handler it selects. Two replies are sent whatever the state. -/
def parse (message : FromClient) (header : Header) (clock : Clock) (session : Nat)
    (controller : Controller) : Outcome Controller :=
  let controller := controller.updateSession session fun client =>
    { client with compId := if client.compId = "" then header.senderCompId else client.compId }
  match message with
  | .testRequest testReqId => testRequest env testReqId header session controller
  | .resendRequest => resendRequest env header session controller
  | .reject => close env session controller
  | .heartbeat => heartbeat env header session controller
  | .logon value => logon env value header clock session controller
  | .logout => logout env header clock.system session controller
  | .tradingSessionStatusRequest tradSesReqId =>
    .done (sendBusinessMessageReject session header .tradingSessionStatusRequest tradSesReqId
      .unsupportedMessageType Texts.unexpectedMsgType controller)
  | .request value => request env value header session controller
  | .unexpected msgType =>
    .done (sendBusinessMessageReject session header msgType ""
      .unsupportedMessageType Texts.unexpectedMsgType controller)

/-- One message of a `Read` event. An exception of the handler closes the session. -/
def read (message : FromClient) (header : Header) (clock : Clock) (session : Nat) :
    Controller → Outcome Controller :=
  withSession session fun client controller =>
    if client.state = .zombie then .done controller else
    let controller := controller.updateSession session fun client =>
      { client with inboundMsgSeqNum := header.msgSeqNum }
    (parse env message header clock session controller).recover fun _ => close env session

/-- A `Read` event that ends in an exception of the reader or of a decoder. -/
def readError (session : Nat) : Controller → Outcome Controller := close env session

end Client
end FixProxy
