import FixProxy.Proofs.Reachable

/-! What becomes of a request of a session that is ready: the session refuses it
itself, or the controller handles it under the session's own party. What the
controller's handlers have in common is said here once. -/

namespace FixProxy
open Codec
open Router (Moves Closes)

/-- The request with a party, where it can name one. -/
def Codec.Request.stamped (noPartyIds : List Party) : Request → Request
  | .orderStatusRequest value => .orderStatusRequest { value with noPartyIds }
  | .newOrderSingle value => .newOrderSingle { value with noPartyIds }
  | .orderCancelReplaceRequest value => .orderCancelReplaceRequest { value with noPartyIds }
  | .orderCancelRequest value => .orderCancelRequest { value with noPartyIds }
  | .orderMassStatusRequest value => .orderMassStatusRequest { value with noPartyIds }
  | .orderMassCancelRequest value => .orderMassCancelRequest { value with noPartyIds }
  | .requestForPositions value => .requestForPositions { value with noPartyIds }
  | .tradeCaptureReportRequest value => .tradeCaptureReportRequest { value with noPartyIds }
  | request => request

def Codec.Request.Unparted (request : Request) : Prop := ∀ parties, request.parties = some parties → parties = []

namespace Client
variable {env : Env} {answered : List String} {controller : Controller} {session : Nat} {client : Session}
  {header : Header}

def ownParties (client : Session) : List Party :=
  [{ partyId := client.partyId, partyIdSource := .proprietaryCustomCode, partyRole := .clientId }]

/-- A request is refused by the session, or passed on. -/
def Refused (session : Nat) (header : Header) (controller : Controller) (outcome : Outcome Controller) : Prop :=
  ∃ msgType refId reason text,
    outcome = .done (sendBusinessMessageReject session header msgType refId reason text controller)

def RefusedAs (msgType : MsgType) (session : Nat) (header : Header) (controller : Controller)
    (outcome : Outcome Controller) : Prop :=
  ∃ refId reason text,
    outcome = .done (sendBusinessMessageReject session header msgType refId reason text controller)

variable {last : Outcome Controller} {named : Prop} {msgType : MsgType}

private theorem business_ready {handler : Session → Controller → Outcome Controller}
    (found : controller.sessions.find session = some client) (ready : client.state = .ready)
    (handled : RefusedAs msgType session header controller (handler client controller) ∨
      named ∧ handler client controller = last) :
    RefusedAs msgType session header controller (business env msgType header session handler controller) ∨
      named ∧ business env msgType header session handler controller = last := by
  simpa only [business, withSession, found, ready] using handled

private theorem validated_ready {ids : List (String × String)} {next : Controller → Outcome Controller}
    (handled : RefusedAs msgType session header controller (next controller) ∨ named ∧ next controller = last) :
    RefusedAs msgType session header controller (validated env msgType header session ids next controller) ∨
      named ∧ validated env msgType header session ids next controller = last := by
  unfold validated
  split
  · exact Or.inl ⟨_, _, _, rfl⟩
  · exact handled

private theorem addPartyIds_ready {noPartyIds : List Party} {refId text : String}
    (callback : List Party → Controller → Outcome Controller) :
    RefusedAs msgType session header controller
        (addPartyIds msgType header session client noPartyIds refId text callback controller) ∨
      (∀ parties, some noPartyIds = some parties → parties = []) ∧
        addPartyIds msgType header session client noPartyIds refId text callback controller =
          callback (ownParties client) controller := by
  unfold addPartyIds
  split
  · next none =>
    refine Or.inr ⟨fun parties named => ?_, rfl⟩
    rw [← Option.some.inj named, none]
  · exact Or.inl ⟨_, _, _, rfl⟩

theorem request_refused (value : Request) (found : controller.sessions.find session = some client)
    (ready : client.state = .ready) :
    RefusedAs value.msgType session header controller (Client.request env value header session controller) ∨
      value.Unparted ∧ Client.request env value header session controller =
        Controller.request (value.stamped (ownParties client)) session controller := by
  cases value with
  | securityListRequest | securityDefinitionRequest | securityStatusRequest | marketDataRequest =>
    exact business_ready found ready (validated_ready (Or.inr ⟨by simp [Request.Unparted, Request.parties], rfl⟩))
  | orderStatusRequest value =>
    exact business_ready found ready (validated_ready (addPartyIds_ready fun noPartyIds =>
      Controller.orderStatusRequest { value with noPartyIds } session))
  | newOrderSingle value =>
    exact business_ready found ready (validated_ready (addPartyIds_ready fun noPartyIds =>
      Controller.newOrderSingle { value with noPartyIds } session))
  | orderCancelReplaceRequest value =>
    exact business_ready found ready (validated_ready (addPartyIds_ready fun noPartyIds =>
      Controller.orderCancelReplaceRequest { value with noPartyIds } session))
  | orderCancelRequest value =>
    exact business_ready found ready (validated_ready (addPartyIds_ready fun noPartyIds =>
      Controller.orderCancelRequest { value with noPartyIds } session))
  | orderMassStatusRequest value =>
    exact business_ready found ready (validated_ready (addPartyIds_ready fun noPartyIds =>
      Controller.orderMassStatusRequest { value with noPartyIds } session))
  | orderMassCancelRequest value =>
    exact business_ready found ready (validated_ready (addPartyIds_ready fun noPartyIds =>
      Controller.orderMassCancelRequest { value with noPartyIds } session))
  | requestForPositions value =>
    exact business_ready found ready (validated_ready (addPartyIds_ready fun noPartyIds =>
      Controller.requestForPositions { value with noPartyIds } session))
  | tradeCaptureReportRequest value =>
    exact business_ready found ready (validated_ready (addPartyIds_ready fun noPartyIds =>
      Controller.tradeCaptureReportRequest { value with noPartyIds } session))

theorem request_ready (value : Request) (found : controller.sessions.find session = some client)
    (ready : client.state = .ready) :
    Refused session header controller (Client.request env value header session controller) ∨
      value.Unparted ∧ Client.request env value header session controller =
        Controller.request (value.stamped (ownParties client)) session controller :=
  (request_refused value found ready).imp_left fun ⟨refId, reason, text, refused⟩ => ⟨_, refId, reason, text, refused⟩

/-- What the handlers of a message see of the process: the counters and the sender of
the message are recorded first. -/
def received (header : Header) (session : Nat) (controller : Controller) : Controller :=
  (controller.updateSession session fun client => { client with inboundMsgSeqNum := header.msgSeqNum }).updateSession
    session fun client => { client with compId := if client.compId = "" then header.senderCompId else client.compId }

theorem received_find (found : controller.sessions.find session = some client) :
    ∃ seen, (received header session controller).sessions.find session = some seen ∧ seen.state = client.state ∧
      seen.partyId = client.partyId := by
  refine ⟨{ client with
    inboundMsgSeqNum := header.msgSeqNum
    compId := if client.compId = "" then header.senderCompId else client.compId }, ?_, rfl, rfl⟩
  simp [received, Controller.updateSession, found]

theorem view_received (answered : List String) :
    (received header session controller).view answered = controller.view answered := by
  unfold received
  refine (Controller.view_updateSession_quiet _ _ _ _ ?_).trans (Controller.view_updateSession_quiet _ _ _ _ ?_)
  · exact fun _ => rfl
  · exact fun _ => rfl

theorem read_ready (value : Request) {clock : Clock} (found : controller.sessions.find session = some client)
    (ready : client.state = .ready) :
    read env (.request value) header clock session controller =
      (Client.request env value header session (received header session controller)).recover fun _ =>
        close env session := by
  simp only [read, withSession, found, ready]
  rfl

private theorem readRequest_leaves (env : Env) (request : Request) (header : Header) (clock : Clock)
    (consistent : (controller.view answered).Consistent) :
    (read env (.request request) header clock session controller).Leaves
      (fun after => Moves (fun _ action => Closes session action ∨ Router.Preliminary session action)
          (controller.view answered) (after.view answered) ∨
        Router.Performs session request (controller.view answered).session controller.log after.log
          (controller.view answered) (after.view answered)) fun _ => False := by
  refine withSession_leaves answered (Or.inl (.refl _)) fun client found held => ?_
  split
  · exact Or.inl (.refl _)
  · have quiet : (received header session controller).view answered = controller.view answered := view_received answered
    have log : (received header session controller).log = controller.log := rfl
    show ((Client.request env request header session (received header session controller)).recover fun _ =>
      close env session).Leaves _ _
    generalize received header session controller = named at quiet log
    rw [← quiet, ← log]
    rw [← quiet] at consistent
    refine Outcome.Leaves.recover (Outcome.Leaves.mono (fun _ passes => ?_) (fun _ moves => moves)
      (request_passes env request header consistent)) ?_
    · rcases passes with closes | performs
      · exact Or.inl (closes.mono fun _ _ => Or.inl)
      · exact Or.inr performs
    · rintro what after ⟨-, prelude⟩
      refine Outcome.Leaves.mono (fun last closes => Or.inl ?_) (fun _ never => never)
        (close_yields env (prelude.sound consistent.sound))
      exact (prelude.mono fun _ _ => Or.inr).trans (closes.mono fun _ _ => Or.inl)

theorem stamped_kindred (value : Request) (parties : List Party) : Kindred (value.stamped parties) value := by
  cases value <;> exact ⟨rfl, rfl⟩

theorem stamped_parties {value : Request} {parties named : List Party}
    (names : (value.stamped parties).parties = some named) : named = parties := by
  cases value <;> cases names <;> rfl

private theorem request_handles_ready (value : Request) (consistent : (controller.view answered).Consistent)
    (found : controller.sessions.find session = some client) (ready : client.state = .ready) :
    Controller.Handles answered session value controller (Client.request env value header session controller) := by
  obtain ⟨msgType, refId, reason, text, refused⟩ | ⟨-, passed⟩ := @request_ready env controller session client header value
    found ready
  · rw [refused]
    exact .refused (.of_eq (Controller.view_sendToClient ..)) (Controller.sendToClient_replied ..)
  · have held : (controller.view answered).session session = some (.ready, client.partyId) := by
      simp [Controller.view, found, Session.shape, ready]
    have handles := Controller.request_handles (value.stamped (ownParties client))
      (fun parties named => by rw [stamped_parties named]; exact getClientFromParties_own client.partyId) held
      (prepared_of_consistent consistent)
    rw [passed]
    exact Outcome.Leaves.mono (fun _ performs => performs_of_kindred (stamped_kindred value _) performs)
      (fun _ thrown => thrown) handles

end Client

namespace World
variable {env : Env} {before after : World} {session : Nat} {clock : Clock} {header : Header} {request : Request}

theorem Step.performs (step : Step env before (.read session clock header (.request request)) after)
    (consistent : before.view.Consistent) :
    Moves (fun _ action => Closes session action ∨ Router.Preliminary session action) before.view after.view ∨
      Router.Performs session request before.view.session before.controller.log after.controller.log
        before.view after.view := by
  have leaves := @Client.readRequest_leaves before.answered before.controller session env request header clock consistent
  have same : after.answered = before.answered := by
    rw [step.answered]
    simp [Input.answer]
  have performed := step.performed
  rw [FixProxy.step] at performed
  rw [performed] at leaves
  simp only [World.view, same]
  exact leaves

/-- The request of a session that is ready. -/
theorem Step.performs_ready {client : Client.Session}
    (step : Step env before (.read session clock header (.request request)) after)
    (consistent : before.view.Consistent) (held : before.session session = some client) (ready : client.state = .ready) :
    Router.Performs session request before.view.session before.controller.log after.controller.log
      before.view after.view := by
  have same : after.answered = before.answered := by
    rw [step.answered]
    simp [Input.answer]
  have quiet : (Client.received header session before.controller).view before.answered = before.view :=
    Client.view_received before.answered
  obtain ⟨seen, found, state, -⟩ : ∃ seen,
      (Client.received header session before.controller).sessions.find session = some seen ∧ seen.state = client.state ∧
        seen.partyId = client.partyId := Client.received_find held
  have handles : Controller.Handles before.answered session request (Client.received header session before.controller)
      (Client.request env request header session (Client.received header session before.controller)) :=
    Client.request_handles_ready request (by rw [quiet]; exact consistent) found (state.trans ready)
  have performed := step.performed
  rw [FixProxy.step, Client.read_ready request held ready] at performed
  cases outcome : Client.request env request header session (Client.received header session before.controller) with
  | done last =>
    rw [outcome, Outcome.recover_done, Outcome.done.injEq] at performed
    rw [outcome] at handles
    subst performed
    have performs : Router.Performs session request
        ((Client.received header session before.controller).view before.answered).session before.controller.log
        after.controller.log ((Client.received header session before.controller).view before.answered)
        (after.controller.view before.answered) := handles
    rw [quiet] at performs
    simp only [World.view, same]
    exact performs
  | thrown what last =>
    rw [outcome] at handles
    have upstream := consistent.sound.connected session .ready client.partyId (ready ▸ view_session held) trivial
    exact absurd (quiet ▸ upstream) handles.1
  | fatal what =>
    rw [outcome] at handles
    exact handles.elim

end World
end FixProxy
