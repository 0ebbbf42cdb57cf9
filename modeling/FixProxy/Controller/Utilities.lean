import FixProxy.Controller.State

/-! The utilities of the controller: sending in both directions, the request-id
mappings, the order table and the user maps. -/

namespace FixProxy
open Codec

/-- `create_request_id(client_id, cl_ord_id)` -/
def createRequestId (clientId clOrdId : String) : String := "proxy-" ++ clientId ++ ":" ++ clOrdId

/-- The text after the first colon; without one the id is returned as it is. -/
def getClientClOrdId (clOrdId : String) : String :=
  if ':' ∈ clOrdId.toList then String.ofList ((clOrdId.toList.dropWhile (· ≠ ':')).drop 1) else clOrdId

def getClientFromParties (noPartyIds : List Party) : String :=
  match noPartyIds with
  | [item] =>
    if item.partyId ≠ "" ∧ item.partyIdSource = .proprietaryCustomCode ∧ item.partyRole = .clientId then
      item.partyId
    else ""
  | _ => ""

def isPending (execType : ExecType) : Bool :=
  execType == .pendingNew || execType == .pendingReplace || execType == .pendingCancel

def getSubscriptionRequestType (type : SubscriptionRequestType) : SubscriptionRequestType :=
  if type = .undefined then .snapshot else type

namespace Controller

/-- `Shared::create_request_id` -/
def createRequestId (controller : Controller) : String × Controller :=
  let (requestId, shared) := controller.shared.createRequestId
  (requestId, { controller with shared })

/-- `server::Session::send_helper` -/
def sendToServer (message : ToServer) (controller : Controller) : Controller :=
  let msgSeqNum := controller.serverSession.outboundMsgSeqNum + 1
  { controller with
    serverSession := { controller.serverSession with outboundMsgSeqNum := msgSeqNum }
    log := controller.log ++ [.toServer msgSeqNum message] }

/-- What `NotReady` says when the upstream session refuses to send. -/
def notReady := "not ready"

/-- `dispatch_to_server`, through `server::Session::send` -/
def dispatchToServer (message : ToServer) (controller : Controller) : Outcome Controller :=
  if controller.serverSession.state = .ready then .done (controller.sendToServer message)
  else .thrown notReady controller

def updateSession (session : Nat) (change : Client.Session → Client.Session) (controller : Controller) : Controller :=
  { controller with sessions := controller.sessions.update session change }

/-- `client::Session::send` -/
def sendToClient (session : Nat) (message : ToClient) (controller : Controller) : Controller :=
  match controller.sessions.find session with
  | none => controller
  | some client =>
    let msgSeqNum := client.outboundMsgSeqNum + 1
    { controller.updateSession session fun client => { client with outboundMsgSeqNum := msgSeqNum } with
      log := controller.log ++ [.toClient session msgSeqNum message] }

/-- `dispatch_to_client`: the session passes a response on only while it is ready. -/
def dispatchToClient (response : Response) (session : Nat) (controller : Controller) : Controller :=
  match controller.sessions.find session with
  | none => controller
  | some client =>
    if client.state = .ready then controller.sendToClient session (.response response) else controller

def broadcast (response : Response) (clientId : String) (controller : Controller) : Controller :=
  match controller.subscriptions.user.clientToSession.find clientId with
  | none => controller
  | some session => controller.dispatchToClient response session

/-! req_id -/

def mapping (controller : Controller) (name : MappingName) : Mapping := controller.subscriptions.mapping name

def setMapping (name : MappingName) (mapping : Mapping) (controller : Controller) : Controller :=
  { controller with subscriptions :=
      { controller.subscriptions with
        mapping := Function.update controller.subscriptions.mapping name mapping } }

def setUser (user : User) (controller : Controller) : Controller :=
  { controller with subscriptions := { controller.subscriptions with user } }

/-- `mapping.client_to_server[session_id]`: looking up adds an empty inner map. -/
def touch (name : MappingName) (session : Nat) (controller : Controller) : Controller :=
  let mapping := controller.mapping name
  controller.setMapping name
    { mapping with clientToServer := mapping.clientToServer.tryEmplace session ∅ }

/-- The server id under which a session has a client id outstanding. -/
def findClient (name : MappingName) (session : Nat) (reqId : String) (controller : Controller) : Option String :=
  ((controller.mapping name).clientToServer.find session).bind (·.find reqId)

def findReqId (name : MappingName) (reqId : String) (controller : Controller) : Option (Nat × String × Bool) :=
  (controller.mapping name).serverToClient.find reqId

def addReqId (name : MappingName) (reqId requestId : String) (session : Nat) (keepAlive : Bool)
    (controller : Controller) : Controller :=
  let mapping := controller.mapping name
  let clientToServer := (mapping.clientToServer.find session).getD ∅
  controller.setMapping name
    { clientToServer := mapping.clientToServer.assign session (clientToServer.tryEmplace reqId requestId)
      serverToClient := mapping.serverToClient.tryEmplace requestId (session, reqId, keepAlive) }

/-- `remove_req_id`; its result is only logged. -/
def removeReqId (name : MappingName) (reqId : String) (controller : Controller) : Controller :=
  if reqId = "" then controller else
  let mapping := controller.mapping name
  match mapping.serverToClient.find reqId with
  | none => controller
  | some (session, clientReqId, _) =>
    let clientToServer := match mapping.clientToServer.find session with
      | none => mapping.clientToServer
      | some inner =>
        let inner := inner.erase clientReqId
        if inner.toList.isEmpty then mapping.clientToServer.erase session
        else mapping.clientToServer.assign session inner
    controller.setMapping name { clientToServer, serverToClient := mapping.serverToClient.erase reqId }

def clearReqIds (name : MappingName) (session : Nat) (callback : String → Controller → Outcome Controller)
    (controller : Controller) : Outcome Controller :=
  match (controller.mapping name).clientToServer.find session with
  | none => .done controller
  | some inner =>
    let body (reqId : String) (controller : Controller) : Outcome Controller :=
      (callback reqId controller).andThen fun controller =>
        let mapping := controller.mapping name
        .done (controller.setMapping name { mapping with serverToClient := mapping.serverToClient.erase reqId })
    (Outcome.forEach (inner.toList.map (·.2)) body controller).andThen fun controller =>
      let mapping := controller.mapping name
      .done (controller.setMapping name { mapping with clientToServer := mapping.clientToServer.erase session })

/-! cl_ord_id -/

def ensureClOrdId (clOrdId : String) (ordStatus : OrdStatus) (controller : Controller) : Controller :=
  if clOrdId = "" then controller
  else { controller with clOrdId := controller.clOrdId.assign clOrdId ordStatus }

def removeClOrdId (env : Env) (clOrdId : String) (controller : Controller) : Controller :=
  if clOrdId = "" then controller
  else if env.settings.testDisableRemoveClOrdId then controller
  else { controller with clOrdId := controller.clOrdId.erase clOrdId }

/-! user -/

def userAdd (username : String) (session : Nat) (controller : Controller) : Outcome Controller :=
  let user := controller.subscriptions.user
  if (user.clientToSession.find username).isSome then .fatal "Unexpected"
  else if (user.sessionToClient.find session).isSome then .fatal "Unexpected"
  else .done (controller.setUser
    { user with
      clientToSession := user.clientToSession.tryEmplace username session
      sessionToClient := user.sessionToClient.tryEmplace session username })

def userRemove (username : String) (ready : Bool) (controller : Controller) : Outcome Controller :=
  let user := controller.subscriptions.user
  match user.clientToSession.find username with
  | some session =>
    .done (controller.setUser
      { user with
        sessionToClient := user.sessionToClient.erase session
        clientToSession := user.clientToSession.erase username })
  | none => if ready then .fatal "Unexpected: client_id" else .done controller

def userIsLocked (username : String) (controller : Controller) : Bool :=
  (controller.subscriptions.user.clientToSession.find username).isSome

end Controller
end FixProxy
