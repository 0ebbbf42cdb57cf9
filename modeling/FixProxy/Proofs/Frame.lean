import FixProxy.Step

/-! What every handler keeps. The handlers are made of a few operations; a transitive relation
between the controller before and after that holds of each of these holds of whole calls,
however they end. -/

namespace FixProxy
open Codec

/-- Sent for a client, or by the controller for a client that goes. -/
def Codec.ToServer.Relayed : ToServer → Prop
  | .userRequest _ | .request _ => True
  | .logon _ | .logout _ | .heartbeat _ | .testRequest _ => False

/-- What the supervision of a session goes by: its deadline, and whether it waits for a heartbeat. -/
def Client.Session.vigil (client : Client.Session) : Nanoseconds × Bool := (client.nextHeartbeat, client.waitingForHeartbeat)

namespace Shared
variable {shared after : Shared} {session : Nat}

/-! The credentials are not touched by who logs on or off. -/

theorem credentials_sessionRemove (session : Nat) (shared : Shared) :
    (shared.sessionRemove session).usernameToPasswordAndStrategyId = shared.usernameToPasswordAndStrategyId := by
  unfold sessionRemove sessionRemoveHelper
  split <;> rfl

private theorem credentials_sessionLogonHelper {library : Crypto.Library} {settings : Settings} {now : BitVec 64}
    {username password rawData : String} {strategyId : Nat}
    (accepted : shared.sessionLogonHelper library settings now session username password rawData = .ok (strategyId, after)) :
    after.usernameToPasswordAndStrategyId = shared.usernameToPasswordAndStrategyId := by
  unfold sessionLogonHelper at accepted
  split at accepted
  · cases accepted
  · split at accepted
    · cases accepted
    · split at accepted
      · cases accepted
      · cases accepted
        rfl

private theorem credentials_sessionLogoutHelper (released : shared.sessionLogoutHelper session = .ok after) :
    after.usernameToPasswordAndStrategyId = shared.usernameToPasswordAndStrategyId := by
  unfold sessionLogoutHelper at released
  split at released
  · cases released
  · cases released
    rfl

end Shared

/-- A relation that the operations of the handlers keep, but for the supervision of a session.
Only sending counts the messages of a session. -/
class Frame (R : Controller → Controller → Prop) : Prop extends IsTrans Controller R where
  inner {first last : Controller} (sessions : last.sessions = first.sessions) (log : last.log = first.log)
    (serverSession : last.serverSession = first.serverSession)
    (credentials : last.shared.usernameToPasswordAndStrategyId = first.shared.usernameToPasswordAndStrategyId) :
    R first last
  record {change : Client.Session → Client.Session} (session : Nat) (controller : Controller)
    (quiet : ∀ client, (change client).vigil = client.vigil)
    (counted : ∀ client, (change client).outboundMsgSeqNum = client.outboundMsgSeqNum) :
    R controller (controller.updateSession session change)
  say (session : Nat) (message : ToClient) (controller : Controller) : R controller (controller.sendToClient session message)
  shut (session : Nat) (controller : Controller) : R controller { controller with log := controller.log ++ [.closeClient session] }
  relay {message : ToServer} (relayed : message.Relayed) : Outcome.Keeping R (Controller.dispatchToServer message)

variable {R : Controller → Controller → Prop} [Frame R]

theorem Frame.refl (controller : Controller) : R controller controller := Frame.inner rfl rfl rfl rfl

theorem Frame.chain {first middle last : Controller} (head : R first middle) (rest : R middle last) : R first last :=
  IsTrans.trans _ _ _ head rest

namespace Controller
open Outcome (Keeping Every)

private theorem frame_dispatchToClient (response : Response) (session : Nat) (controller : Controller) :
    R controller (controller.dispatchToClient response session) := by
  unfold dispatchToClient
  split
  · exact Frame.refl controller
  · split
    · exact Frame.say ..
    · exact Frame.refl controller

private theorem frame_broadcast (response : Response) (clientId : String) (controller : Controller) :
    R controller (controller.broadcast response clientId) := by
  unfold broadcast
  split
  · exact Frame.refl controller
  · exact frame_dispatchToClient ..

private theorem frame_removeReqId (name : MappingName) (reqId : String) (controller : Controller) :
    R controller (controller.removeReqId name reqId) := by
  unfold removeReqId
  split
  · exact Frame.refl controller
  · simp only
    split
    · exact Frame.refl controller
    · exact Frame.inner rfl rfl rfl rfl

private theorem frame_ensureClOrdId (clOrdId : String) (ordStatus : OrdStatus) (controller : Controller) :
    R controller (controller.ensureClOrdId clOrdId ordStatus) := by
  unfold ensureClOrdId
  split <;> exact Frame.inner rfl rfl rfl rfl

private theorem frame_removeClOrdId (env : Env) (clOrdId : String) (controller : Controller) :
    R controller (controller.removeClOrdId env clOrdId) := by
  unfold removeClOrdId
  split
  · exact Frame.refl controller
  · split <;> exact Frame.inner rfl rfl rfl rfl

private theorem frame_route (name : MappingName) (reqId : String) (response : String → Response) (remove : Bool → Bool)
    (controller : Controller) : R controller (controller.route name reqId response remove) := by
  unfold route
  split
  · exact Frame.refl controller
  · simp only
    split
    · exact Frame.chain (frame_dispatchToClient ..) (frame_removeReqId ..)
    · exact frame_dispatchToClient ..

/-! Requests. -/

private theorem keeping_forward (sent : Request) : Keeping R (dispatchToServer (.request sent)) :=
  @Frame.relay R _ (.request sent) trivial

private theorem keeping_ask (value : UserRequest) : Keeping R (dispatchToServer (.userRequest value)) :=
  @Frame.relay R _ (.userRequest value) trivial

def Framed (R : Controller → Controller → Prop) (reject : Controller → Controller) : Prop :=
  ∀ controller, R controller (reject controller)

private theorem framed_reject {reject : Controller → Controller} {session : Nat}
    (answers : ∀ controller, ∃ response, reject controller = controller.dispatchToClient response session) : Framed R reject := by
  intro controller
  obtain ⟨response, same⟩ := answers controller
  rw [same]
  exact frame_dispatchToClient ..

private theorem framed_drawing {reject : Controller → Controller} {session : Nat}
    (answers : ∀ controller, ∃ response, reject controller = controller.createRequestId.2.dispatchToClient response session) :
    Framed R reject := by
  intro controller
  obtain ⟨response, same⟩ := answers controller
  have drawn : R controller controller.createRequestId.2 := Frame.inner rfl rfl rfl rfl
  rw [same]
  exact Frame.chain drawn (frame_dispatchToClient ..)

private theorem frame_touch (name : MappingName) (session : Nat) (controller : Controller) :
    R controller (controller.touch name session) := Frame.inner rfl rfl rfl rfl

private theorem keeping_subscription {name : MappingName} {session : Nat} {reqId : String} {isValid : Bool}
    {type : SubscriptionRequestType} {invalid unknown duplicate missing : Controller → Controller}
    {dispatch : Option String → Bool → Controller → Outcome Controller}
    (quietInvalid : Framed R invalid) (quietUnknown : Framed R unknown) (quietDuplicate : Framed R duplicate)
    (quietMissing : Framed R missing) (dispatched : ∀ existing keepAlive, Keeping R (dispatch existing keepAlive)) :
    Keeping R (subscription name session reqId isValid type invalid unknown duplicate missing dispatch) := by
  intro controller
  have touched : R controller _ := frame_touch name session controller
  unfold subscription
  split
  · exact quietInvalid controller
  · simp only
    split
    · exact Frame.chain touched (quietUnknown _)
    · exact Frame.chain touched (quietUnknown _)
    · split
      · exact Frame.chain touched (quietDuplicate _)
      · exact Every.before touched (dispatched ..)
    · split
      · exact Frame.chain touched (quietDuplicate _)
      · exact Every.before touched (dispatched ..)
    · split
      · exact Every.before touched (dispatched ..)
      · exact Frame.chain touched (quietMissing _)

private theorem keeping_dispatchSubscription (name : MappingName) (session : Nat) (reqId : String) (sent : String → Request)
    (existing : Option String) (keepAlive : Bool) :
    Keeping R (dispatchSubscription name session reqId sent existing keepAlive) := by
  intro controller
  have drawn : R controller controller.createRequestId.2 := Frame.inner rfl rfl rfl rfl
  refine Every.before drawn (Every.andThen (keeping_forward _ _) fun after => ?_)
  split
  · exact frame_removeReqId ..
  · exact Frame.inner rfl rfl rfl rfl

private theorem keeping_dispatchPositions (session : Nat) (value : RequestForPositions) (existing : Option String)
    (keepAlive : Bool) : Keeping R (dispatchPositions session value existing keepAlive) := by
  intro controller
  unfold dispatchPositions
  have entered (controller : Controller) (serverId : String) (flagged : Nat × String × Bool → Nat × String × Bool) :
      ((controller.dispatchToServer (.request (.requestForPositions { value with posReqId := serverId }))).andThen
        fun controller =>
          if existing.isSome then
            let mapping := controller.mapping .posReqId
            if (mapping.serverToClient.find serverId).isSome then
              .done (controller.setMapping .posReqId
                { mapping with serverToClient := mapping.serverToClient.update serverId flagged })
            else .fatal "Unexpected"
          else .done (controller.addReqId .posReqId value.posReqId serverId session keepAlive)).Every
        (R controller) := by
    refine Every.andThen (keeping_forward _ _) fun after => ?_
    split
    · simp only
      split
      · exact Frame.inner rfl rfl rfl rfl
      · trivial
    · exact Frame.inner rfl rfl rfl rfl
  cases existing with
  | some serverId => exact entered controller serverId _
  | none =>
    have drawn : R controller controller.createRequestId.2 := Frame.inner rfl rfl rfl rfl
    exact Every.before drawn (entered _ _ _)

private theorem keeping_dispatchTrades (session : Nat) (value : TradeCaptureReportRequest) (existing : Option String)
    (keepAlive : Bool) : Keeping R (dispatchTrades session value existing keepAlive) := by
  intro controller
  refine Every.andThen (keeping_forward _ _) fun after => ?_
  split
  · exact frame_removeReqId ..
  · exact Frame.inner rfl rfl rfl rfl

private theorem keeping_orderRequest {name : MappingName} {session : Nat} {reqId : String} {isValid : Bool}
    {invalid duplicate : Controller → Controller} {clientId : String} {sent : String → Request} {keepAlive : Bool}
    (quietInvalid : Framed R invalid) (quietDuplicate : Framed R duplicate) :
    Keeping R (orderRequest name session reqId isValid invalid duplicate clientId sent keepAlive) := by
  intro controller
  have touched : R controller _ := frame_touch name session controller
  unfold orderRequest
  split
  · exact quietInvalid controller
  · simp only
    split
    · exact Frame.chain touched (quietDuplicate _)
    · refine Every.before touched (Every.andThen (keeping_forward _ _) fun after => ?_)
      exact Frame.inner rfl rfl rfl rfl

private theorem keeping_orderStatusRequest (value : OrderStatusRequest) (session : Nat) :
    Keeping R (orderStatusRequest value session) := by
  intro controller
  have quiet (text : String) : Framed R (rejectOrderStatusRequest value session text) := framed_drawing fun _ => ⟨_, rfl⟩
  have touched : R controller _ := frame_touch .ordStatusReqId session controller
  unfold orderStatusRequest
  simp only
  split
  · exact quiet _ controller
  · split
    · exact Frame.chain touched (quiet _ _)
    · refine Every.before touched (Every.andThen (keeping_forward _ _) fun after => ?_)
      split <;> exact Frame.inner rfl rfl rfl rfl

private theorem keeping_request (value : Request) (session : Nat) : Keeping R (request value session) := by
  cases value with
  | securityListRequest value =>
    have quiet : Framed R (rejectSecurityListRequest value session) := framed_drawing fun _ => ⟨_, rfl⟩
    exact keeping_subscription quiet quiet quiet quiet (keeping_dispatchSubscription _ _ _ _)
  | securityDefinitionRequest value =>
    have quiet : Framed R (rejectSecurityDefinitionRequest value session) := framed_drawing fun _ => ⟨_, rfl⟩
    exact keeping_subscription quiet quiet quiet quiet (keeping_dispatchSubscription _ _ _ _)
  | securityStatusRequest value =>
    have quiet : Framed R (rejectSecurityStatusRequest value session) := framed_reject fun _ => ⟨_, rfl⟩
    exact keeping_subscription quiet quiet quiet quiet (keeping_dispatchSubscription _ _ _ _)
  | marketDataRequest value =>
    have quiet reason text : Framed R (rejectMarketDataRequest value session reason text) := framed_reject fun _ => ⟨_, rfl⟩
    exact keeping_subscription (quiet _ _) (quiet _ _) (quiet _ _) (quiet _ _) (keeping_dispatchSubscription _ _ _ _)
  | orderStatusRequest value => exact keeping_orderStatusRequest value session
  | newOrderSingle value =>
    have quiet text : Framed R (rejectNewOrderSingle value session text) := framed_drawing fun _ => ⟨_, rfl⟩
    unfold request newOrderSingle
    exact keeping_orderRequest (quiet _) (quiet _)
  | orderCancelReplaceRequest value =>
    have quiet reason text : Framed R (rejectOrderCancel value.clOrdId value.origClOrdId value.account
        .orderCancelReplaceRequest session reason text) := framed_reject fun _ => ⟨_, rfl⟩
    unfold request orderCancelReplaceRequest
    exact keeping_orderRequest (quiet _ _) (quiet _ _)
  | orderCancelRequest value =>
    have quiet reason text : Framed R (rejectOrderCancel value.clOrdId value.origClOrdId value.account
        .orderCancelRequest session reason text) := framed_reject fun _ => ⟨_, rfl⟩
    unfold request orderCancelRequest
    exact keeping_orderRequest (quiet _ _) (quiet _ _)
  | orderMassStatusRequest value =>
    have quiet text : Framed R (rejectOrderMassStatusRequest value session text) := framed_drawing fun _ => ⟨_, rfl⟩
    unfold request orderMassStatusRequest
    exact keeping_orderRequest (quiet _) (quiet _)
  | orderMassCancelRequest value =>
    have quiet text : Framed R (rejectOrderMassCancelRequest value session text) := framed_reject fun _ => ⟨_, rfl⟩
    unfold request orderMassCancelRequest
    exact keeping_orderRequest (quiet _) (quiet _)
  | requestForPositions value =>
    have quiet text : Framed R (rejectRequestForPositions value session text) := framed_drawing fun _ => ⟨_, rfl⟩
    exact keeping_subscription (quiet _) (quiet _) (quiet _) (quiet _) (keeping_dispatchPositions session value)
  | tradeCaptureReportRequest value =>
    have quiet text : Framed R (rejectTradeCaptureReportRequest value session text) := framed_drawing fun _ => ⟨_, rfl⟩
    exact keeping_subscription (quiet _) (quiet _) (quiet _) (quiet _) (keeping_dispatchTrades session value)

/-! Users, and the end of a session. -/

private theorem keeping_registerUserRequest (value : UserRequest) (session : Nat) :
    Keeping R (registerUserRequest value session) := by
  intro controller
  unfold registerUserRequest
  simp only
  split
  · refine Every.before ?_ (keeping_ask value _)
    exact Frame.inner rfl rfl rfl rfl
  · trivial

private theorem keeping_userRequest (value : UserRequest) (session : Nat) : Keeping R (userRequest value session) := by
  intro controller
  unfold userRequest
  split
  · split
    · exact Frame.refl controller
    · exact keeping_registerUserRequest ..
  · exact keeping_registerUserRequest ..
  · trivial

private theorem keeping_unsubscribeMarketData (reqId : String) : Keeping R (unsubscribeMarketData reqId) := by
  intro controller
  unfold unsubscribeMarketData
  split
  · exact Frame.refl controller
  · exact keeping_forward ..

private theorem keeping_clearReqIds (name : MappingName) (session : Nat) {callback : String → Controller → Outcome Controller}
    (keeping : ∀ reqId, Keeping R (callback reqId)) : Keeping R (clearReqIds name session callback) := by
  intro controller
  unfold clearReqIds
  split
  · exact Frame.refl controller
  · refine Every.andThen (Keeping.forEach Frame.refl (fun reqId controller => ?_) controller) fun after => Frame.inner rfl rfl rfl rfl
    exact Every.andThen (keeping reqId controller) fun after => Frame.inner rfl rfl rfl rfl

private theorem keeping_releaseUser (session : Nat) : Keeping R (releaseUser session) := by
  intro controller
  unfold releaseUser
  split
  · exact Frame.refl controller
  · refine Every.andThen ?_ fun after => Frame.inner rfl rfl rfl rfl
    split
    · have drawn : R controller controller.createRequestId.2 := Frame.inner rfl rfl rfl rfl
      refine Every.before drawn ?_
      exact Every.andThen (keeping_ask _ _) fun after => Frame.inner rfl rfl rfl rfl
    · exact Frame.refl controller

private theorem keeping_sessionDisconnected (session : Nat) : Keeping R (sessionDisconnected session) := by
  have cleared (name : MappingName) : Keeping R (clearReqIds name session ignore) :=
    keeping_clearReqIds name session fun _ controller => Frame.refl controller
  intro controller
  have told : R controller { controller with disconnects := controller.disconnects ++ [session] } :=
    Frame.inner rfl rfl rfl rfl
  refine Every.before told ?_
  refine Every.andThen (cleared ..) fun _ => Every.andThen (cleared ..) fun _ => Every.andThen (cleared ..) fun _ => ?_
  refine Every.andThen (keeping_clearReqIds .mdReqId session keeping_unsubscribeMarketData _) fun _ => ?_
  refine Every.andThen (cleared ..) fun _ => Every.andThen (cleared ..) fun _ => Every.andThen (cleared ..) fun _ => ?_
  refine Every.andThen (cleared ..) fun _ => Every.andThen (cleared ..) fun _ => Every.andThen (cleared ..) fun _ => ?_
  exact keeping_releaseUser ..

end Controller

namespace Client
open Outcome (Keeping Every)
variable {session : Nat}

theorem keeping_withSession {body : Session → Controller → Outcome Controller}
    (keeping : ∀ client, Keeping R (body client)) : Keeping R (withSession session body) := by
  intro controller
  unfold withSession
  split
  · exact Frame.refl controller
  · exact keeping _ controller

private theorem frame_bury (session : Nat) (controller : Controller) : R controller (bury session controller) := by
  have buried : R controller (setState session .zombie controller) :=
    Frame.record session controller (fun _ => rfl) fun _ => rfl
  exact Frame.chain buried (Frame.inner rfl rfl rfl (Shared.credentials_sessionRemove ..))

theorem keeping_makeZombie (session : Nat) : Keeping R (makeZombie session) := by
  refine keeping_withSession fun client controller => ?_
  cases client.state with
  | waitingLogon => exact frame_bury session controller
  | zombie => exact Frame.refl controller
  | _ => exact (Controller.keeping_sessionDisconnected session controller).andThen fun after => frame_bury session after

theorem keeping_close (env : Env) (session : Nat) : Keeping R (close env session) := by
  refine keeping_withSession fun client controller => ?_
  simp only
  split
  · exact Frame.refl controller
  · refine Every.before (Frame.shut session controller) (Every.andThen ?_ (keeping_makeZombie session))
    split
    · exact keeping_makeZombie session _
    · exact Frame.refl _

theorem keeping_sendAndClose (env : Env) (session : Nat) (message : ToClient) :
    Keeping R (sendAndClose env session message) :=
  fun controller => Every.before (Frame.say session message controller) (keeping_close env session _)

theorem every_timer {env : Env} {now : Nanoseconds} {session : Nat} {controller : Controller}
    (idle : ∀ client, controller.sessions.find session = some client → client.state = .ready → ¬ client.nextHeartbeat < now) :
    (timer env now session controller).Every (R controller) := by
  have timeout {condition : Prop} [Decidable condition] {call : Controller → Outcome Controller} (keeping : Keeping R call) :
      (if condition then call controller else .done controller).Every (R controller) := by
    split
    · exact keeping controller
    · exact Frame.refl controller
  unfold timer withSession
  cases held : controller.sessions.find session with
  | none => exact Frame.refl controller
  | some client =>
    simp only
    cases state : client.state with
    | waitingLogon => exact timeout (keeping_close env session)
    | waitingCreateRoute => exact timeout (keeping_sendAndClose env session _)
    | ready =>
      simp only [if_neg (idle client held state)]
      exact Frame.refl controller
    | waitingRemoveRoute => exact timeout (keeping_sendAndClose env session _)
    | zombie => exact Frame.refl controller

theorem timer_due (env : Env) {now : Nanoseconds} {session : Nat} {client : Session} {controller : Controller}
    (held : controller.sessions.find session = some client) (ready : client.state = .ready)
    (due : client.nextHeartbeat < now) : timer env now session controller =
      let timed := controller.updateSession session fun client =>
        { client with nextHeartbeat := now + env.settings.clientHeartbeatFreq }
      if client.waitingForHeartbeat then sendAndClose env session (.logout Texts.missingHeartbeat) timed
      else .done ((timed.sendToClient session (.testRequest (toString now ++ "ns"))).updateSession session fun client =>
        { client with waitingForHeartbeat := true }) := by
  simp only [timer, withSession, held, ready, if_pos due]

theorem keeping_userResponse (env : Env) (value : UserResponse) (session : Nat) :
    Keeping R (userResponse env value session) := by
  refine keeping_withSession fun client controller => ?_
  have timed : R controller (controller.updateSession session fun client => { client with userResponseTimeout := 0 }) :=
    Frame.record session controller (fun _ => rfl) fun _ => rfl
  refine Every.before timed ?_
  generalize controller.updateSession session (fun client => { client with userResponseTimeout := 0 }) = controller
  cases client.state with
  | waitingCreateRoute =>
    simp only
    cases value.userStatus with
    | loggedIn =>
      have welcomed := Frame.say session (.logon (logonResponse env)) controller (R := R)
      exact Frame.chain welcomed (Frame.record session _ (fun _ => rfl) fun _ => rfl)
    | _ => exact keeping_makeZombie session controller
  | waitingRemoveRoute =>
    simp only
    cases value.userStatus with
    | notLoggedIn =>
      simp only
      split
      · next shared logout =>
        have released : R controller { controller with shared } :=
          Frame.inner rfl rfl rfl (Shared.credentials_sessionLogoutHelper logout)
        exact Every.before released (keeping_sendAndClose env session _ _)
      · exact keeping_makeZombie session controller
    | _ => exact keeping_makeZombie session controller
  | _ => exact Frame.refl controller

private theorem keeping_logonAccepted (env : Env) (value : Logon) (header : Header) (now : Nanoseconds)
    (strategyId session : Nat) :
    Keeping R (logonAccepted env value header now strategyId session) := by
  intro controller
  refine Every.recover ?_ fun what => keeping_sendAndClose env session _
  have named : R controller (controller.updateSession session fun client =>
      { client with username := value.username, partyId := toString strategyId }) :=
    Frame.record session controller (fun _ => rfl) fun _ => rfl
  refine Every.before named ?_
  generalize (controller.updateSession session fun client =>
    { client with username := value.username, partyId := toString strategyId }) = controller
  have drawn : R controller controller.createRequestId.2 := Frame.inner rfl rfl rfl rfl
  refine Every.before drawn ?_
  refine Every.andThen (Controller.keeping_userRequest ..) fun after => ?_
  exact Frame.record session after (fun _ => rfl) fun _ => rfl

private theorem keeping_logon (env : Env) (value : Logon) (header : Header) (clock : Clock) (session : Nat) :
    Keeping R (logon env value header clock session) := by
  refine keeping_withSession fun client controller => ?_
  cases client.state with
  | waitingLogon =>
    have named : R controller (controller.updateSession session fun client =>
        { client with compId := header.senderCompId }) := Frame.record session controller (fun _ => rfl) fun _ => rfl
    refine Every.before named ?_
    generalize controller.updateSession session (fun client => { client with compId := header.senderCompId }) = controller
    simp only
    split
    · exact keeping_sendAndClose ..
    · split
      · exact keeping_sendAndClose ..
      · next strategyId shared accepted =>
        have enrolled : R controller { controller with shared } :=
          Frame.inner rfl rfl rfl (Shared.credentials_sessionLogonHelper accepted)
        exact Every.before enrolled (keeping_logonAccepted env value header clock.system strategyId session _)
  | waitingRemoveRoute => exact keeping_makeZombie session controller
  | zombie => exact Frame.refl controller
  | _ => exact keeping_sendAndClose ..

private theorem keeping_logout (env : Env) (header : Header) (now : Nanoseconds) (session : Nat) :
    Keeping R (logout env header now session) := by
  refine keeping_withSession fun client controller => ?_
  cases client.state with
  | ready =>
    have drawn : R controller controller.createRequestId.2 := Frame.inner rfl rfl rfl rfl
    refine Every.before drawn ?_
    refine Every.andThen (Controller.keeping_userRequest ..) fun after => ?_
    exact Frame.record session after (fun _ => rfl) fun _ => rfl
  | waitingRemoveRoute => exact keeping_makeZombie session controller
  | zombie => exact Frame.refl controller
  | _ => exact keeping_sendAndClose ..

private theorem keeping_testRequest (env : Env) (testReqId : String) (header : Header) (session : Nat) :
    Keeping R (testRequest env testReqId header session) := by
  refine keeping_withSession fun client controller => ?_
  cases client.state with
  | waitingLogon => exact keeping_sendAndClose ..
  | waitingCreateRoute => exact Frame.say ..
  | ready => exact Frame.say ..
  | _ => exact Frame.refl controller

private theorem keeping_resendRequest (env : Env) (header : Header) (session : Nat) :
    Keeping R (resendRequest env header session) := by
  refine keeping_withSession fun client controller => ?_
  cases client.state with
  | waitingRemoveRoute => exact keeping_makeZombie ..
  | zombie => exact Frame.refl controller
  | _ => exact keeping_sendAndClose ..

private theorem keeping_business {env : Env} {msgType : MsgType} {header : Header}
    {ready : Session → Controller → Outcome Controller} (keeping : ∀ client, Keeping R (ready client)) :
    Keeping R (business env msgType header session ready) := by
  refine keeping_withSession fun client controller => ?_
  cases client.state with
  | ready => exact keeping client controller
  | waitingRemoveRoute => exact keeping_makeZombie ..
  | zombie => exact Frame.refl controller
  | _ => exact keeping_sendAndClose ..

private theorem frame_sendBusinessMessageReject (header : Header) (msgType : MsgType) (refId : String)
    (reason : BusinessRejectReason) (text : String) (controller : Controller) :
    R controller (sendBusinessMessageReject session header msgType refId reason text controller) :=
  Frame.say ..

private theorem keeping_validated {env : Env} {msgType : MsgType} {header : Header} {ids : List (String × String)}
    {next : Controller → Outcome Controller} (keeping : Keeping R next) :
    Keeping R (validated env msgType header session ids next) := by
  intro controller
  unfold validated
  split
  · exact frame_sendBusinessMessageReject ..
  · exact keeping controller

private theorem keeping_addPartyIds {msgType : MsgType} {header : Header} {client : Session} {noPartyIds : List Party}
    {refId text : String} {callback : List Party → Controller → Outcome Controller}
    (keeping : ∀ parties, Keeping R (callback parties)) :
    Keeping R (addPartyIds msgType header session client noPartyIds refId text callback) := by
  intro controller
  unfold addPartyIds
  split
  · exact keeping _ controller
  · exact frame_sendBusinessMessageReject ..

private theorem keeping_request (env : Env) (value : Request) (header : Header) (session : Nat) :
    Keeping R (Client.request env value header session) := by
  cases value with
  | securityListRequest value =>
    exact keeping_business fun _ => keeping_validated (Controller.keeping_request (.securityListRequest value) session)
  | securityDefinitionRequest value =>
    exact keeping_business fun _ => keeping_validated (Controller.keeping_request (.securityDefinitionRequest value) session)
  | securityStatusRequest value =>
    exact keeping_business fun _ => keeping_validated (Controller.keeping_request (.securityStatusRequest value) session)
  | marketDataRequest value =>
    exact keeping_business fun _ => keeping_validated (Controller.keeping_request (.marketDataRequest value) session)
  | orderStatusRequest value =>
    exact keeping_business fun _ => keeping_validated (keeping_addPartyIds fun noPartyIds =>
      Controller.keeping_request (.orderStatusRequest { value with noPartyIds }) session)
  | newOrderSingle value =>
    exact keeping_business fun _ => keeping_validated (keeping_addPartyIds fun noPartyIds =>
      Controller.keeping_request (.newOrderSingle { value with noPartyIds }) session)
  | orderCancelReplaceRequest value =>
    exact keeping_business fun _ => keeping_validated (keeping_addPartyIds fun noPartyIds =>
      Controller.keeping_request (.orderCancelReplaceRequest { value with noPartyIds }) session)
  | orderCancelRequest value =>
    exact keeping_business fun _ => keeping_validated (keeping_addPartyIds fun noPartyIds =>
      Controller.keeping_request (.orderCancelRequest { value with noPartyIds }) session)
  | orderMassStatusRequest value =>
    exact keeping_business fun _ => keeping_validated (keeping_addPartyIds fun noPartyIds =>
      Controller.keeping_request (.orderMassStatusRequest { value with noPartyIds }) session)
  | orderMassCancelRequest value =>
    exact keeping_business fun _ => keeping_validated (keeping_addPartyIds fun noPartyIds =>
      Controller.keeping_request (.orderMassCancelRequest { value with noPartyIds }) session)
  | requestForPositions value =>
    exact keeping_business fun _ => keeping_validated (keeping_addPartyIds fun noPartyIds =>
      Controller.keeping_request (.requestForPositions { value with noPartyIds }) session)
  | tradeCaptureReportRequest value =>
    exact keeping_business fun _ => keeping_validated (keeping_addPartyIds fun noPartyIds =>
      Controller.keeping_request (.tradeCaptureReportRequest { value with noPartyIds }) session)

/-- A message, given what the handler of the heartbeat keeps. -/
theorem keeping_read (env : Env) {message : FromClient} {header : Header} (clock : Clock) {session : Nat}
    (beats : message = .heartbeat → Keeping R (heartbeat env header session)) :
    Keeping R (read env message header clock session) := by
  refine keeping_withSession fun client controller => ?_
  simp only
  split
  · exact Frame.refl controller
  refine Every.recover ?_ fun what => keeping_close env session
  have received : R controller (controller.updateSession session fun client =>
      { client with inboundMsgSeqNum := header.msgSeqNum }) :=
    Frame.record session controller (fun _ => rfl) fun _ => rfl
  refine Every.before received ?_
  generalize controller.updateSession session (fun client => { client with inboundMsgSeqNum := header.msgSeqNum }) = controller
  have named : R controller (controller.updateSession session fun client =>
      { client with compId := if client.compId = "" then header.senderCompId else client.compId }) :=
    Frame.record session controller (fun _ => rfl) fun _ => rfl
  refine Every.before named ?_
  cases message with
  | testRequest => exact keeping_testRequest ..
  | resendRequest => exact keeping_resendRequest ..
  | reject => exact keeping_close ..
  | heartbeat => exact beats rfl _
  | logon => exact keeping_logon ..
  | logout => exact keeping_logout ..
  | request => exact keeping_request ..
  | _ => exact frame_sendBusinessMessageReject ..

end Client

namespace Controller
open Outcome (Keeping Every)

/-! What the upstream session passes on. -/

theorem frame_response (env : Env) (value : Response) (controller : Controller) :
    R controller (controller.response env value) := by
  have counted (total : Nat) : R controller { controller with totalNumPosReports := total } := Frame.inner rfl rfl rfl rfl
  cases value with
  | businessMessageReject value =>
    simp only [response, businessMessageReject]
    split
    · exact Frame.refl controller
    · split
      · exact Frame.refl controller
      · exact frame_dispatchToClient ..
  | executionReport value =>
    simp only [response, executionReport]
    have settled (pending : Bool) {handled : Controller} (framed : R controller handled) :
        R controller (if pending then handled else handled.removeReqId .clOrdId value.clOrdId) := by
      cases pending with
      | true => exact framed
      | false => exact Frame.chain framed (frame_removeReqId ..)
    split
    · exact Frame.chain (frame_ensureClOrdId value.clOrdId value.ordStatus controller) (frame_route ..)
    · split
      · exact Frame.chain (frame_ensureClOrdId value.clOrdId value.ordStatus controller) (frame_route ..)
      · refine settled _ ?_
        split
        · exact frame_route ..
        · refine Frame.chain ?_ (frame_broadcast ..)
          have recorded : R controller (if env.library.isOrderComplete value.ordStatus then
              controller.removeClOrdId env value.clOrdId
            else if isPending value.execType then controller.ensureClOrdId value.clOrdId value.ordStatus
            else controller) := by
            split
            · exact frame_removeClOrdId ..
            · split
              · exact frame_ensureClOrdId ..
              · exact Frame.refl controller
          split
          · exact Frame.chain recorded (frame_removeClOrdId ..)
          · exact recorded
  | requestForPositionsAck value =>
    simp only [response, requestForPositionsAck]
    split
    · exact Frame.refl controller
    · next session reqId _ _ =>
      have passed (total : Nat) := Frame.chain (counted total) (frame_dispatchToClient
        (.requestForPositionsAck { value with posReqId := reqId }) session _)
      split
      · exact Frame.chain (passed _) (frame_removeReqId ..)
      · exact passed _
  | positionReport value => exact Frame.chain (counted (controller.totalNumPosReports - 1)) (frame_route ..)
  | _ => exact frame_route ..

private theorem keeping_userAdd (username : String) (session : Nat) : Keeping R (userAdd username session) := by
  intro controller
  unfold userAdd
  simp only
  split
  · trivial
  · split
    · trivial
    · exact Frame.inner rfl rfl rfl rfl

private theorem keeping_userRemove (username : String) (ready : Bool) : Keeping R (userRemove username ready) := by
  intro controller
  unfold userRemove
  simp only
  split
  · exact Frame.inner rfl rfl rfl rfl
  · split
    · trivial
    · exact Frame.refl controller

theorem keeping_userResponse (env : Env) (value : UserResponse) : Keeping R (userResponse env value) := by
  intro controller
  unfold userResponse
  split
  · trivial
  · next session _ =>
    split
    · refine Every.andThen ?_ fun after => ?_
      · split
        · exact keeping_userAdd ..
        · exact keeping_userRemove ..
        · exact Frame.refl controller
      · have settled : R after (after.settleUserRequest value.userRequestId session) := Frame.inner rfl rfl rfl rfl
        exact Every.before settled (Client.keeping_userResponse env value session _)
    · exact keeping_userRemove ..

end Controller
end FixProxy
