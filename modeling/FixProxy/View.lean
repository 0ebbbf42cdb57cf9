import FixProxy.Router

/-! The router that a process implements, and what the operations of the program
do to it. Messages, timeouts and sequence numbers are not part of the view. -/

namespace FixProxy
open Codec

namespace Map
variable {κ : Type u} {ν : Type v} [DecidableEq κ] (map : Map κ ν) (key : κ) (value : ν)

@[simp] theorem find_assign_fun : (map.assign key value).find = Function.update map.find key (some value) := by
  funext other
  simp [Function.update_apply]

@[simp] theorem find_erase_fun : (map.erase key).find = Function.update map.find key none := by
  funext other
  simp [Function.update_apply]

@[simp] theorem find_tryEmplace_fun : (map.tryEmplace key value).find = emplace map.find key value := by
  funext other
  simp [emplace, Function.update_apply]

@[simp] theorem find_update_fun (change : ν → ν) :
    (map.update key change).find = Function.update map.find key ((map.find key).map change) := by
  funext other
  simp [Function.update_apply]

end Map

/-! Mappings as indexes. -/

def Mapping.toIndex (mapping : Mapping) : Index Nat String String Bool where
  entry := mapping.serverToClient.find
  key session reqId := (mapping.clientToServer.find session).bind (·.find reqId)
  present session := (mapping.clientToServer.find session).isSome

def Client.Session.shape (client : Client.Session) : Client.State × String := (client.state, client.partyId)

/-- The router behind a controller, given the ids answered so far. -/
def Controller.view (answered : List String) (controller : Controller) : Router where
  session session := (controller.sessions.find session).map Client.Session.shape
  route := controller.subscriptions.user.clientToSession.find
  owner := controller.subscriptions.user.sessionToClient.find
  pending := controller.subscriptions.user.serverToClient.find
  waiting := controller.subscriptions.user.clientToServer.find
  index name := (controller.mapping name).toIndex
  orders := controller.clOrdId.find
  reports := controller.totalNumPosReports
  upstream := controller.serverSession.state
  ready := controller.ready
  asked := controller.userRequests
  answered := answered
  lastSession := controller.shared.nextSessionId
  lastRequest := controller.shared.nextRequestId
  doomed := controller.shared.sessionsToRemove

def World.view (world : World) : Router := world.controller.view world.answered

namespace Mapping
variable (mapping : Mapping) (session : Nat) (reqId requestId : String) (keepAlive : Bool)

private theorem toIndex_touch :
    toIndex { mapping with clientToServer := mapping.clientToServer.tryEmplace session ∅ } =
      mapping.toIndex.touch session := by
  apply Index.ext
  · rfl
  · funext other reqId
    by_cases same : other = session
    · subst other
      cases held : mapping.clientToServer.find session <;> simp [toIndex, Index.touch, held]
    · simp [toIndex, Index.touch, same]
  · funext other
    by_cases same : other = session
    · subst other
      simp [toIndex, Index.touch]
    · simp [toIndex, Index.touch, same]

theorem toIndex_enter :
    toIndex { mapping with serverToClient := mapping.serverToClient.tryEmplace requestId (session, reqId, keepAlive) } =
      mapping.toIndex.enter requestId session reqId keepAlive := by
  simp [toIndex, Index.enter]

private theorem toIndex_add :
    toIndex
      { clientToServer := mapping.clientToServer.assign session
          (((mapping.clientToServer.find session).getD ∅).tryEmplace reqId requestId)
        serverToClient := mapping.serverToClient.tryEmplace requestId (session, reqId, keepAlive) } =
      mapping.toIndex.add requestId session reqId keepAlive := by
  apply Index.ext
  · simp [toIndex, Index.add]
  · funext other name
    by_cases same : other = session
    · subst other
      cases held : mapping.clientToServer.find session <;>
        simp [toIndex, Index.add, emplace, held, Function.update_apply]
    · simp [toIndex, Index.add, same]
  · funext other
    by_cases same : other = session
    · subst other
      simp [toIndex, Index.add]
    · simp [toIndex, Index.add, same]

theorem toIndex_retain :
    toIndex { mapping with serverToClient :=
        mapping.serverToClient.update requestId fun (session, reqId, _) => (session, reqId, keepAlive) } =
      mapping.toIndex.retain requestId keepAlive := by
  simp [toIndex, Index.retain]

/-- What `remove_req_id` leaves of a mapping whose entry it has found. -/
def without (reqId : String) (session : Nat) (clientReqId : String) (mapping : Mapping) : Mapping where
  clientToServer := match mapping.clientToServer.find session with
    | none => mapping.clientToServer
    | some inner =>
      let inner := inner.erase clientReqId
      if inner.toList.isEmpty then mapping.clientToServer.erase session
      else mapping.clientToServer.assign session inner
  serverToClient := mapping.serverToClient.erase reqId

private theorem toIndex_without (found : mapping.serverToClient.find requestId = some (session, reqId, keepAlive)) :
    toIndex (mapping.without requestId session reqId) = mapping.toIndex.release requestId := by
  have entry : mapping.toIndex.entry requestId = some (session, reqId, keepAlive) := found
  simp only [Index.release, entry]
  cases held : mapping.clientToServer.find session with
  | none =>
    apply Index.ext
    · simp [toIndex, without]
    · funext other name
      by_cases same : other = session
      · subst other
        simp [toIndex, without, held]
      · simp [toIndex, without, held, same]
    · funext other
      by_cases same : other = session
      · subst other
        simp [toIndex, without, held]
      · simp [toIndex, without, held, same]
  | some inner =>
    by_cases empty : (inner.erase reqId).toList.isEmpty
    · have gone := Map.isEmpty_toList.mp empty
      apply Index.ext
      · simp [toIndex, without]
      · funext other name
        by_cases same : other = session
        · subst other
          simpa [toIndex, without, held, empty, Function.update_apply] using (gone name).symm
        · simp [toIndex, without, held, empty, same]
      · funext other
        by_cases same : other = session
        · subst other
          simpa [toIndex, without, held, empty] using gone
        · simp [toIndex, without, held, empty, same]
    · have kept := mt Map.isEmpty_toList.mpr empty
      apply Index.ext
      · simp [toIndex, without]
      · funext other name
        by_cases same : other = session
        · subst other
          simp [toIndex, without, held, empty, Function.update_apply]
        · simp [toIndex, without, held, empty, same]
      · funext other
        by_cases same : other = session
        · subst other
          simpa [toIndex, without, held, empty, Option.isSome_iff_ne_none] using kept
        · simp [toIndex, without, held, empty, same]

end Mapping

/-! Controllers. -/

namespace Controller
variable (answered : List String) (controller : Controller)

section Sending

theorem view_congr {left right : Controller} (sessions : left.sessions = right.sessions)
    (subscriptions : left.subscriptions = right.subscriptions) (orders : left.clOrdId = right.clOrdId)
    (reports : left.totalNumPosReports = right.totalNumPosReports)
    (upstream : left.serverSession.state = right.serverSession.state) (ready : left.ready = right.ready)
    (asked : left.userRequests = right.userRequests)
    (lastSession : left.shared.nextSessionId = right.shared.nextSessionId)
    (lastRequest : left.shared.nextRequestId = right.shared.nextRequestId)
    (doomed : left.shared.sessionsToRemove = right.shared.sessionsToRemove) :
    left.view answered = right.view answered := by
  simp only [view, mapping, sessions, subscriptions, orders, reports, upstream, ready, asked, lastSession,
    lastRequest, doomed]

private theorem view_updateSession (session : Nat) (change : Client.Session → Client.Session) :
    (controller.updateSession session change).view answered =
      { controller.view answered with
        session := Function.update (controller.view answered).session session
          ((controller.sessions.find session).map fun client => (change client).shape) } := by
  simp only [view, updateSession, Map.find_update_fun]
  congr 1
  funext other
  by_cases same : other = session
  · subst other
    simp [Function.comp_def]
  · simp [same]

theorem view_updateSession_quiet (session : Nat) (change : Client.Session → Client.Session)
    (quiet : ∀ client, (change client).shape = client.shape) :
    (controller.updateSession session change).view answered = controller.view answered := by
  rw [view_updateSession]
  simp only [quiet]
  congr 1
  exact Function.update_eq_self _ _

theorem view_updateSession_held {session : Nat} {client : Client.Session}
    (held : controller.sessions.find session = some client) (change : Client.Session → Client.Session) :
    (controller.updateSession session change).view answered =
      { controller.view answered with
        session := Function.update (controller.view answered).session session (some (change client).shape) } := by
  rw [view_updateSession, held]
  rfl

theorem view_sendToServer {message : ToServer} (quiet : ∀ request, message ≠ .userRequest request) :
    (controller.sendToServer message).view answered = controller.view answered := by
  apply view_congr <;> try rfl
  cases message with
  | userRequest request => exact absurd rfl (quiet request)
  | _ => simp [userRequests, sendToServer, Output.userRequest?]

@[simp] theorem view_sendToServer_userRequest (request : UserRequest) :
    (controller.sendToServer (.userRequest request)).view answered =
      { controller.view answered with asked := (controller.view answered).asked ++ [request] } := by
  simp only [view, sendToServer, userRequests, List.filterMap_append]
  rfl

@[simp] theorem view_sendToClient (session : Nat) (message : ToClient) :
    (controller.sendToClient session message).view answered = controller.view answered := by
  unfold sendToClient
  cases held : controller.sessions.find session with
  | none => rfl
  | some client =>
    rw [← view_updateSession_quiet answered controller session
      (fun client' => { client' with outboundMsgSeqNum := client.outboundMsgSeqNum + 1 }) fun _ => rfl]
    apply view_congr <;> try rfl
    simp [userRequests, updateSession, Output.userRequest?]

@[simp] theorem view_dispatchToClient (response : Response) (session : Nat) :
    (controller.dispatchToClient response session).view answered = controller.view answered := by
  unfold dispatchToClient
  split
  · rfl
  · split
    · simp
    · rfl

@[simp] theorem view_broadcast (response : Response) (clientId : String) :
    (controller.broadcast response clientId).view answered = controller.view answered := by
  unfold broadcast
  split <;> simp

@[simp] theorem view_createRequestId :
    controller.createRequestId.2.view answered =
      { controller.view answered with lastRequest := (controller.view answered).lastRequest + 1 } := rfl

theorem createRequestId_fst : controller.createRequestId.1 = (controller.view answered).nextId := rfl

end Sending

section Mappings
variable (name : MappingName) (session : Nat) (reqId requestId : String) (keepAlive : Bool)

theorem view_setMapping {mapping : Mapping} {index : Index Nat String String Bool} (changed : mapping.toIndex = index) :
    (controller.setMapping name mapping).view answered =
      (controller.view answered).setIndex name index := by
  subst changed
  simp only [view, setMapping, Router.setIndex]
  congr 1
  funext other
  by_cases same : other = name
  · subst other
    simp [Controller.mapping]
  · simp [Controller.mapping, same]

@[simp] theorem view_touch :
    (controller.touch name session).view answered =
      (controller.view answered).setIndex name (((controller.view answered).index name).touch session) :=
  view_setMapping _ _ _ (Mapping.toIndex_touch _ _)

theorem index_touch :
    ((controller.touch name session).view answered).index name =
      ((controller.view answered).index name).touch session := by
  rw [view_touch]
  exact Function.update_self ..

@[simp] theorem view_addReqId :
    (controller.addReqId name reqId requestId session keepAlive).view answered =
      (controller.view answered).setIndex name (((controller.view answered).index name).add requestId session reqId keepAlive) :=
  view_setMapping _ _ _ (Mapping.toIndex_add _ _ _ _ _)

theorem removeReqId_of_none (missing : controller.findReqId name reqId = none) :
    controller.removeReqId name reqId = controller := by
  unfold removeReqId
  split
  · rfl
  · simp only [findReqId] at missing
    simp [missing]

private theorem removeReqId_of_some {session : Nat} {clientReqId : String} {keepAlive : Bool} (nonempty : reqId ≠ "")
    (found : controller.findReqId name reqId = some (session, clientReqId, keepAlive)) :
    controller.removeReqId name reqId =
      controller.setMapping name ((controller.mapping name).without reqId session clientReqId) := by
  unfold removeReqId
  rw [if_neg nonempty]
  simp only [findReqId] at found
  simp only [found]
  rfl

theorem view_removeReqId (nonempty : reqId ≠ "") :
    (controller.removeReqId name reqId).view answered =
      (controller.view answered).setIndex name (((controller.view answered).index name).release reqId) := by
  cases found : controller.findReqId name reqId with
  | none =>
    have entry : ((controller.view answered).index name).entry reqId = none := found
    have unchanged : ((controller.view answered).index name).release reqId = (controller.view answered).index name := by
      simp [Index.release, entry]
    rw [removeReqId_of_none _ _ _ found, unchanged, Router.setIndex_self]
  | some entry =>
    rw [removeReqId_of_some _ _ _ nonempty found]
    exact view_setMapping answered controller name (Mapping.toIndex_without _ _ _ _ _ found)

theorem findClient_eq :
    controller.findClient name session reqId = ((controller.view answered).index name).key session reqId := rfl

theorem findReqId_eq : controller.findReqId name reqId = ((controller.view answered).index name).entry reqId := rfl

end Mappings
end Controller
end FixProxy
