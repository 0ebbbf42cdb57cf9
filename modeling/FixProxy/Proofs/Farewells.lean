import FixProxy.Deployment
import FixProxy.Proofs.Reachable
import FixProxy.Proofs.Relay

/-! The end of a session, message by message: what upstream is told, and that nothing
of the session is left. It cannot fail half-way, whatever it is called from. -/

namespace FixProxy
open Codec

namespace Controller
variable {controller before middle after : Controller} {session : Nat} {messages more : List ToServer}

/-- What ends one market data subscription. -/
def unsubscribes (reqId : String) : ToServer :=
  .request (.marketDataRequest { mdReqId := reqId, subscriptionRequestType := .unsubscribe, noRelatedSym := [], isValid := true })

def serverIds (name : MappingName) (session : Nat) (controller : Controller) : List String :=
  match (controller.mapping name).clientToServer.find session with
  | none => []
  | some inner => inner.toList.map (·.2)

def logsOff (session : Nat) (controller : Controller) : List ToServer :=
  match controller.subscriptions.user.sessionToClient.find session with
  | none => []
  | some username => [.userRequest { userRequestId := controller.createRequestId.1, userRequestType := .logOffUser, username }]

/-- All that upstream is told when a session goes. -/
def partings (session : Nat) (controller : Controller) : List ToServer :=
  if controller.ready then (controller.serverIds .mdReqId session).map unsubscribes ++ controller.logsOff session else []

def sendAll (messages : List ToServer) (controller : Controller) : Controller :=
  messages.foldl (fun controller message => controller.sendToServer message) controller

theorem sendAll_append : controller.sendAll (messages ++ more) = (controller.sendAll messages).sendAll more :=
  List.foldl_append ..

theorem sendAll_subscriptions (subscriptions : Subscriptions) (messages : List ToServer) (controller : Controller) :
    ({ controller with subscriptions } : Controller).sendAll messages = { controller.sendAll messages with subscriptions } := by
  induction messages generalizing controller with
  | nil => rfl
  | cons message rest ih => exact ih (controller.sendToServer message)

theorem sendAll_eq (messages : List ToServer) (controller : Controller) :
    controller.sendAll messages =
      { controller with
        serverSession :=
          { controller.serverSession with
            outboundMsgSeqNum := controller.serverSession.outboundMsgSeqNum + messages.length }
        log := controller.log ++ numbered controller.serverSession.outboundMsgSeqNum messages } := by
  induction messages generalizing controller with
  | nil => simp [sendAll, numbered]
  | cons message rest ih =>
    refine (ih (controller.sendToServer message)).trans ?_
    simp only [sendToServer, numbered, List.length_cons, List.append_assoc, List.singleton_append]
    congr 2
    omega

def Clears (messages : List ToServer) (before after : Controller) : Prop :=
  ∃ mapping, after = { before.sendAll messages with subscriptions := { before.subscriptions with mapping } }

theorem Clears.trans (head : Clears messages before middle) (rest : Clears more middle after) :
    Clears (messages ++ more) before after := by
  obtain ⟨mapping, rfl⟩ := head
  obtain ⟨mapping', rfl⟩ := rest
  refine ⟨mapping', ?_⟩
  rw [sendAll_append, sendAll_subscriptions]

/-- A callback that sends some messages for an id, as long as the readiness is what it was. -/
def Calls (ready : Bool) (upstream : Server.State) (callback : String → Controller → Outcome Controller)
    (messages : String → List ToServer) : Prop :=
  ∀ reqId controller, controller.ready = ready → controller.serverSession.state = upstream →
    callback reqId controller = .done (controller.sendAll (messages reqId))

private theorem ignore_calls (ready : Bool) (upstream : Server.State) : Calls ready upstream ignore fun _ => [] :=
  fun _ _ _ _ => rfl

private theorem unsubscribeMarketData_calls {ready : Bool} {upstream : Server.State}
    (prepared : ready = true → upstream = .ready) :
    Calls ready upstream unsubscribeMarketData fun reqId => if ready then [unsubscribes reqId] else [] := by
  intro reqId controller readiness state
  unfold unsubscribeMarketData
  cases ready with
  | false => simp [readiness, sendAll]
  | true =>
    rw [prepared rfl] at state
    simp [readiness, dispatchToServer, state, sendAll, unsubscribes]

private theorem clears_sendAll (messages : List ToServer) (controller : Controller) :
    Clears messages controller (controller.sendAll messages) :=
  ⟨controller.subscriptions.mapping, by rw [sendAll_eq]⟩

theorem Clears.setMapping (clears : Clears messages before after) (name : MappingName) (mapping : Mapping) :
    Clears messages before (after.setMapping name mapping) := by
  obtain ⟨others, rfl⟩ := clears
  exact ⟨Function.update others name mapping, rfl⟩

private theorem forEach_clears (name : MappingName) {callback : String → Controller → Outcome Controller}
    {sent : String → List ToServer} {ready : Bool} {upstream : Server.State} (calls : Calls ready upstream callback sent)
    (ids : List String) (controller : Controller) (readiness : controller.ready = ready)
    (state : controller.serverSession.state = upstream) :
    ∃ after, Outcome.forEach ids (fun reqId controller =>
      (callback reqId controller).andThen fun controller =>
        .done (controller.setMapping name
          { controller.mapping name with
            serverToClient := (controller.mapping name).serverToClient.erase reqId })) controller = .done after ∧
      Clears (ids.flatMap sent) controller after ∧ ∀ other, other ≠ name → after.mapping other = controller.mapping other := by
  induction ids generalizing controller with
  | nil => exact ⟨controller, rfl, ⟨_, rfl⟩, fun _ _ => rfl⟩
  | cons id rest ih =>
    have called := calls id controller readiness state
    have sending := sendAll_eq (sent id) controller
    have cleared := (clears_sendAll (sent id) controller).setMapping name
      { (controller.sendAll (sent id)).mapping name with
        serverToClient := ((controller.sendAll (sent id)).mapping name).serverToClient.erase id }
    obtain ⟨after, loop, clears, others⟩ := ih ((controller.sendAll (sent id)).setMapping name
        { (controller.sendAll (sent id)).mapping name with
          serverToClient := ((controller.sendAll (sent id)).mapping name).serverToClient.erase id })
      (by rw [sending]; exact readiness) (by rw [sending]; exact state)
    refine ⟨after, ?_, ?_, fun other different => (others other different).trans ?_⟩
    · simp only [Outcome.forEach, called, Outcome.andThen_done]
      exact loop
    · rw [List.flatMap_cons]
      exact cleared.trans clears
    · rw [sending]
      exact Function.update_of_ne different ..

private theorem clearReqIds_clears (name : MappingName) (session : Nat) {callback : String → Controller → Outcome Controller}
    {sent : String → List ToServer} (calls : Calls controller.ready controller.serverSession.state callback sent)
    (next : Controller → Outcome Controller) :
    ∃ after, (controller.clearReqIds name session callback).andThen next = next after ∧
      Clears ((controller.serverIds name session).flatMap sent) controller after ∧
      ∀ other, other ≠ name → after.mapping other = controller.mapping other := by
  unfold clearReqIds serverIds
  cases (controller.mapping name).clientToServer.find session with
  | none => exact ⟨controller, rfl, ⟨_, rfl⟩, fun _ _ => rfl⟩
  | some inner =>
    obtain ⟨looped, loop, clears, others⟩ := forEach_clears name calls (inner.toList.map (·.2)) controller rfl rfl
    refine ⟨_, by simp only [loop, Outcome.andThen_done]; rfl, clears.setMapping name _, fun other different => ?_⟩
    · exact (Function.update_of_ne different ..).trans (others other different)

theorem Clears.ignored (clears : Clears messages before controller) (name : MappingName) (session : Nat)
    (next : Controller → Outcome Controller) :
    ∃ after, (controller.clearReqIds name session ignore).andThen next = next after ∧ Clears messages before after ∧
      ∀ other, other ≠ name → after.mapping other = controller.mapping other := by
  obtain ⟨after, call, cleared, others⟩ := clearReqIds_clears name session (ignore_calls _ _) next
  refine ⟨after, call, ?_, others⟩
  have both := clears.trans cleared
  rw [List.flatMap_eq_nil_iff.mpr (fun _ _ => rfl), List.append_nil] at both
  exact both

theorem Clears.ready (clears : Clears messages before after) :
    after.ready = before.ready ∧ after.serverSession.state = before.serverSession.state := by
  obtain ⟨mapping, rfl⟩ := clears
  rw [sendAll_eq]
  exact ⟨rfl, rfl⟩

/-- The ten clearing calls together, up to the release of the user. -/
theorem sessionDisconnected_clears (session : Nat) (prepared : controller.ready = true → controller.serverSession.state = .ready) :
    ∃ after, controller.sessionDisconnected session = after.releaseUser session ∧
      Clears (if controller.ready then (controller.serverIds .mdReqId session).map unsubscribes else [])
        { controller with disconnects := controller.disconnects ++ [session] } after := by
  unfold sessionDisconnected
  simp only
  have start : Clears [] { controller with disconnects := controller.disconnects ++ [session] }
      { controller with disconnects := controller.disconnects ++ [session] } := ⟨_, rfl⟩
  obtain ⟨first, call, clears, others⟩ := start.ignored .securityReqId session _
  rw [call]
  obtain ⟨second, call, clears, others'⟩ := clears.ignored .securityStatusReqId session _
  rw [call]
  obtain ⟨third, call, clears, others''⟩ := clears.ignored .tradSesReqId session _
  rw [call]
  have same : third.serverIds .mdReqId session = controller.serverIds .mdReqId session := by
    unfold serverIds
    rw [others'' .mdReqId (by decide), others' .mdReqId (by decide), others .mdReqId (by decide)]
    rfl
  obtain ⟨ready, upstream⟩ := clears.ready
  obtain ⟨told, call, tells, -⟩ := clearReqIds_clears .mdReqId session
    (unsubscribeMarketData_calls (by rw [ready, upstream]; exact prepared)) _
  rw [call]
  have clears := clears.trans tells
  obtain ⟨_, call, clears, -⟩ := clears.ignored .ordStatusReqId session _
  rw [call]
  obtain ⟨_, call, clears, -⟩ := clears.ignored .massStatusReqId session _
  rw [call]
  obtain ⟨_, call, clears, -⟩ := clears.ignored .posReqId session _
  rw [call]
  obtain ⟨_, call, clears, -⟩ := clears.ignored .tradeRequestId session _
  rw [call]
  obtain ⟨_, call, clears, -⟩ := clears.ignored .clOrdId session _
  rw [call]
  obtain ⟨after, call, clears, -⟩ := clears.ignored .massCancelClOrdId session _
  refine ⟨after, call, ?_⟩
  have sent (ids : List String) : (ids.flatMap fun reqId => if controller.ready then [unsubscribes reqId] else []) =
      if controller.ready then ids.map unsubscribes else [] := by
    cases controller.ready with
    | false => exact List.flatMap_eq_nil_iff.mpr fun _ _ => rfl
    | true => exact List.map_eq_flatMap.symm
  rw [same, ready, List.nil_append, sent] at clears
  exact clears

private theorem releaseUser_sends (session : Nat)
    (prepared : controller.ready = true → controller.serverSession.state = .ready) :
    ∃ after, controller.releaseUser session = .done after ∧
      after.log = controller.log ++ numbered controller.serverSession.outboundMsgSeqNum
        (if controller.ready then controller.logsOff session else []) ∧
      after.serverSession.outboundMsgSeqNum = controller.serverSession.outboundMsgSeqNum +
        (if controller.ready then controller.logsOff session else []).length ∧
      after.sessions = controller.sessions := by
  unfold releaseUser logsOff
  cases controller.subscriptions.user.sessionToClient.find session with
  | none => exact ⟨controller, rfl, by simp [numbered], by simp, rfl⟩
  | some username =>
    cases ready : controller.ready with
    | false => exact ⟨_, rfl, by simp [numbered, setUser], by simp [setUser], rfl⟩
    | true =>
      have accepted : controller.createRequestId.2.serverSession.state = .ready := prepared ready
      refine ⟨_, by simp only [if_true, dispatchToServer, accepted, Outcome.andThen_done]; rfl, ?_, ?_, ?_⟩
      all_goals rfl

/-- What the end of a session leaves: upstream was told, and nothing of the session is there. -/
structure Departed (session : Nat) (before after : Controller) : Prop where
  told : after.log = before.log ++ numbered before.serverSession.outboundMsgSeqNum (before.partings session)
  next : after.serverSession.outboundMsgSeqNum =
    before.serverSession.outboundMsgSeqNum + (before.partings session).length
  sessions : after.sessions = before.sessions
  mappings : ∀ name, (after.mapping name).clientToServer.find session = none
  ids : ∀ name clientId id, before.findClient name session clientId = some id → after.findReqId name id = none
  owner : after.subscriptions.user.sessionToClient.find session = none
  routes : ∀ username, after.subscriptions.user.clientToSession.find username ≠ some session

theorem sessionDisconnected_view (session : Nat) (prepared : (controller.view []).Prepared) :
    ∃ after, controller.sessionDisconnected session = .done after ∧
      (after.view []).index = (fun name => ((controller.view []).index name).clear session) ∧
      (after.view []).owner session = none ∧
      ∀ username, (after.view []).route username =
        if (controller.view []).owner session = some username then none else (controller.view []).route username := by
  obtain ⟨cleared, call, view⟩ := sessionDisconnected_eq session prepared
  have owner : (cleared.view []).owner = (controller.view []).owner := by rw [view, Controller.cleared]
  have index : (cleared.view []).index = fun name => ((controller.view []).index name).clear session := by
    rw [view, Controller.cleared]
  have route : (cleared.view []).route = (controller.view []).route := by rw [view, Controller.cleared]
  have ready : (cleared.view []).ready = (controller.view []).ready := by rw [view, Controller.cleared]
  have upstream : (cleared.view []).upstream = (controller.view []).upstream := by rw [view, Controller.cleared]
  by_cases silent : (cleared.view []).owner session = none ∨ (cleared.view []).ready = false
  · obtain ⟨after, release, shape⟩ := releaseUser_silent session silent
    refine ⟨after, call.trans release, ?_, ?_, fun username => ?_⟩
    · rw [shape]
      exact index
    · rw [shape]
      exact Function.update_self ..
    · rw [shape, owner, route]
  · simp only [not_or, Bool.not_eq_false] at silent
    obtain ⟨owned, isReady⟩ := silent
    obtain ⟨username, owns⟩ := Option.ne_none_iff_exists'.mp owned
    obtain ⟨after, release, shape⟩ := releaseUser_asking owns isReady
      (upstream.trans (prepared (ready.symm.trans isReady)))
    refine ⟨after, call.trans release, ?_, ?_, fun other => ?_⟩
    · rw [shape]
      exact index
    · rw [shape]
      exact Function.update_self ..
    · rw [shape, ← owner, owns, route]
      simp [Function.update_apply, eq_comm]

/-- The Disconnected handler returns, whatever it finds, and leaves nothing. -/
private theorem sessionDisconnected_departs (session : Nat) (prepared : (controller.view []).Prepared)
    (inverse : (controller.view []).Inverse) :
    ∃ after, controller.sessionDisconnected session = .done after ∧ Departed session controller after := by
  obtain ⟨cleared, call, clears⟩ := sessionDisconnected_clears session prepared
  obtain ⟨ready, state⟩ := clears.ready
  have same : cleared.logsOff session = controller.logsOff session := by
    obtain ⟨mapping, rfl⟩ := clears
    rw [sendAll_eq]
    rfl
  obtain ⟨after, release, log, next, sessions⟩ := releaseUser_sends session (by rw [ready, state]; exact prepared)
  obtain ⟨last, call', index, owner, routes⟩ := sessionDisconnected_view session prepared
  obtain rfl : last = after := Outcome.done.inj (call'.symm.trans (call.trans release))
  have partings : controller.partings session =
      (if controller.ready then (controller.serverIds .mdReqId session).map unsubscribes else []) ++
        if controller.ready then controller.logsOff session else [] := by
    unfold partings
    split <;> rfl
  have told : cleared.log = controller.log ++ numbered controller.serverSession.outboundMsgSeqNum
        (if controller.ready then (controller.serverIds .mdReqId session).map unsubscribes else []) ∧
      cleared.serverSession.outboundMsgSeqNum = controller.serverSession.outboundMsgSeqNum +
        (if controller.ready then (controller.serverIds .mdReqId session).map unsubscribes else []).length ∧
      cleared.sessions = controller.sessions := by
    obtain ⟨mapping, rfl⟩ := clears
    rw [sendAll_eq]
    exact ⟨rfl, rfl, rfl⟩
  have readiness : cleared.ready = controller.ready := ready
  rw [readiness, same] at log next
  refine ⟨last, call', ?_, ?_, sessions.trans told.2.2, fun name => ?_, fun name clientId id key => ?_, owner,
    fun username => ?_⟩
  · rw [log, told.1, told.2.1, partings, numbered_append, List.append_assoc]
  · rw [next, told.2.1, partings, List.length_append, Nat.add_assoc]
  · have absent : ¬ ((last.view []).index name).present session := by
      rw [index]
      exact fun present => present.2 rfl
    exact Option.not_isSome_iff_eq_none.mp absent
  · have gone : ((last.view []).index name).entry id = none := by
      rw [index]
      exact if_pos ⟨clientId, key⟩
    exact gone
  · have route : (last.view []).route username ≠ some session := by
      rw [routes]
      split
      · exact fun named => nomatch named
      · next other => exact fun named => other ((inverse username session).mp named)
    exact route

/-- Another state of the same event: a session wrote its own record, its username, or to
its client in between. -/
structure Beside (controller inside : Controller) : Prop where
  subscriptions : inside.subscriptions = controller.subscriptions
  ready : inside.ready = controller.ready
  serverSession : inside.serverSession = controller.serverSession
  nextRequestId : inside.shared.nextRequestId = controller.shared.nextRequestId
  sentUp : inside.sentUp = controller.sentUp

theorem Beside.trans {first middle last : Controller} (head : Beside first middle) (rest : Beside middle last) :
    Beside first last :=
  ⟨rest.subscriptions.trans head.subscriptions, rest.ready.trans head.ready, rest.serverSession.trans head.serverSession,
    rest.nextRequestId.trans head.nextRequestId, rest.sentUp.trans head.sentUp⟩

theorem Beside.prepared {inside : Controller} (beside : Beside controller inside) (prepared : (controller.view []).Prepared) :
    (inside.view []).Prepared := by
  intro ready
  have readied : controller.ready = true := beside.ready.symm.trans ready
  exact (congrArg Server.Session.state beside.serverSession).trans (prepared readied)

theorem Beside.inverse {inside : Controller} (beside : Beside controller inside) (inverse : (controller.view []).Inverse) :
    (inside.view []).Inverse := by
  intro username session
  simp only [view, beside.subscriptions]
  exact inverse username session

/-- What the answer to a user request does to the routes, before the session learns of it. -/
def routes (value : UserResponse) (session : Nat) (client : Client.Session) (controller : Controller) : Outcome Controller :=
  match value.userStatus with
  | .loggedIn => controller.userAdd value.username session
  | .notLoggedIn => controller.userRemove value.username (client.state == Client.State.ready)
  | .other => .done controller

private theorem userResponse_routes (env : Env) {value : UserResponse} {client : Client.Session}
    (pending : controller.subscriptions.user.serverToClient.find value.userRequestId = some session)
    (held : controller.sessions.find session = some client) :
    controller.userResponse env value = (controller.routes value session client).andThen fun controller =>
      Client.userResponse env value session (controller.settleUserRequest value.userRequestId session) := by
  unfold userResponse
  rw [pending]
  simp only [held]
  rfl

private theorem routes_inverse {value : UserResponse} {client : Client.Session} {routed : Controller}
    (performed : controller.routes value session client = .done routed) (inverse : (controller.view []).Inverse)
    (prepared : (controller.view []).Prepared) :
    (routed.view []).Inverse ∧ (routed.view []).Prepared ∧ routed.sessions = controller.sessions := by
  unfold routes at performed
  split at performed
  · obtain ⟨free, unowned, sessions, view⟩ := userAdd_done [] performed
    rw [view]
    refine ⟨fun username other => ?_, prepared, sessions⟩
    have inverse := inverse username other
    simp only [Function.update_apply]
    by_cases named : username = value.username
    · subst named
      have unrouted : (controller.view []).owner other ≠ some value.username := fun owned => by
        rw [inverse.mpr owned] at free
        cases free
      by_cases own : other = session
      · simp [own]
      · simp [own, Ne.symm own, unrouted]
    · by_cases own : other = session
      · subst own
        have unrouted : (controller.view []).route username ≠ some other := fun route => by
          rw [inverse.mp route] at unowned
          cases unowned
        simp [named, Ne.symm named, unrouted]
      · simpa [named, own] using inverse
  · obtain ⟨sessions, view⟩ := userRemove_done [] performed
    rw [view]
    refine ⟨fun username other => ?_, prepared, sessions⟩
    have inverse' := inverse username other
    simp only [Function.update_apply]
    by_cases named : username = value.username
    · subst named
      simp only [if_true, reduceCtorEq, false_iff]
      split
      · exact fun never => nomatch never
      · next elsewhere => exact fun owned => elsewhere (inverse'.mpr owned)
    · simp only [named, if_false]
      split
      · next routed =>
        refine iff_of_false (fun route => named ?_) (fun never => nomatch never)
        exact Option.some.inj ((inverse'.mp route).symm.trans ((inverse value.username other).mp routed))
      · exact inverse'
  · obtain rfl := Outcome.done.inj performed
    exact ⟨inverse, prepared, rfl⟩

end Controller

namespace Client
open Controller (Departed Beside sessionDisconnected_departs)
variable {controller : Controller} {session : Nat} {client : Session}

private theorem makeZombie_departs (held : controller.sessions.find session = some client) (active : client.state.Active)
    (prepared : (controller.view []).Prepared) (inverse : (controller.view []).Inverse) :
    ∃ after, controller.sessionDisconnected session = .done after ∧ Departed session controller after ∧
      makeZombie session controller = .done (bury session after) := by
  obtain ⟨after, call, departed⟩ := sessionDisconnected_departs session prepared inverse
  refine ⟨after, call, departed, ?_⟩
  unfold makeZombie withSession
  rw [held]
  simp only
  cases state : client.state with
  | waitingLogon => exact absurd active (by simp [state, State.Active])
  | zombie => exact absurd active (by simp [state, State.Active])
  | _ => simp only [call, Outcome.andThen_done]

theorem makeZombie_buried (held : controller.sessions.find session = some client) :
    makeZombie session (bury session controller) = .done (bury session controller) := by
  have buried : (bury session controller).sessions.find session = some { client with state := .zombie } := by
    simp [bury, setState, Controller.updateSession, held]
  unfold makeZombie withSession
  rw [buried]

/-- Closing a connection signals the end of its session once, from a state of the same event. -/
theorem close_departs (env : Env) (held : controller.sessions.find session = some client) (active : client.state.Active)
    (prepared : (controller.view []).Prepared) (inverse : (controller.view []).Inverse) :
    ∃ inside after, Beside controller inside ∧ inside.sessionDisconnected session = .done after ∧
      Departed session inside after ∧ close env session controller = .done (bury session after) := by
  have shut : Beside controller { controller with log := controller.log ++ [.closeClient session] } :=
    ⟨rfl, rfl, rfl, rfl, by simp [Controller.sentUp, Output.goesUp]⟩
  obtain ⟨after, call, departed, zombie⟩ := @makeZombie_departs
    { controller with log := controller.log ++ [.closeClient session] } session client held active
    (shut.prepared prepared) (shut.inverse inverse)
  refine ⟨_, after, shut, call, departed, ?_⟩
  have alive : client.state ≠ .zombie := (State.active_iff.mp active).2
  unfold close withSession
  rw [held]
  simp only [alive, if_false]
  cases env.library.closeCallsBack session with
  | false => simpa using zombie
  | true =>
    have found : after.sessions.find session = some client := by
      rw [departed.sessions]
      exact held
    simp only [if_true, zombie, Outcome.andThen_done]
    exact makeZombie_buried found

private theorem sendAndClose_departs (env : Env) (message : ToClient) (held : controller.sessions.find session = some client)
    (active : client.state.Active) (prepared : (controller.view []).Prepared) (inverse : (controller.view []).Inverse) :
    ∃ inside after, Beside controller inside ∧ inside.sessionDisconnected session = .done after ∧
      Departed session inside after ∧ sendAndClose env session message controller = .done (bury session after) := by
  have sent : Beside controller (controller.sendToClient session message) := by
    have said := (Controller.mute_sendToClient session message controller).sentUp
    unfold Controller.sendToClient at said ⊢
    split <;> exact ⟨rfl, rfl, rfl, rfl, by simp_all⟩
  have found : (controller.sendToClient session message).sessions.find session =
      some { client with outboundMsgSeqNum := client.outboundMsgSeqNum + 1 } := by
    simp [Controller.sendToClient, held, Controller.updateSession]
  obtain ⟨inside, after, beside, departs⟩ := close_departs env found active (sent.prepared prepared) (sent.inverse inverse)
  exact ⟨inside, after, sent.trans beside, departs⟩

/-- The states and the answers with which a session ends. -/
def Dismisses (state : State) (status : UserStatus) : Prop :=
  state = .waitingCreateRoute ∧ status ≠ .loggedIn ∨ state = .waitingRemoveRoute

private theorem userResponse_departs (env : Env) {value : UserResponse}
    (held : controller.sessions.find session = some client)
    (dismisses : Dismisses client.state value.userStatus) (prepared : (controller.view []).Prepared)
    (inverse : (controller.view []).Inverse) :
    ∃ inside after, Beside controller inside ∧ inside.sessionDisconnected session = .done after ∧
      Departed session inside after ∧ userResponse env value session controller = .done (bury session after) := by
  have timed : Beside controller (controller.updateSession session fun client => { client with userResponseTimeout := 0 }) :=
    ⟨rfl, rfl, rfl, rfl, rfl⟩
  have heldTimed : (controller.updateSession session fun client =>
      { client with userResponseTimeout := 0 }).sessions.find session = some { client with userResponseTimeout := 0 } := by
    simp [Controller.updateSession, held]
  have active : client.state.Active := by
    rcases dismisses with ⟨waiting, -⟩ | waiting
    · exact waiting ▸ trivial
    · exact waiting ▸ trivial
  obtain ⟨after, call, departed, zombie⟩ := makeZombie_departs heldTimed active (timed.prepared prepared) (timed.inverse inverse)
  have vanishes : ∃ inside last, Beside controller inside ∧ inside.sessionDisconnected session = .done last ∧
      Departed session inside last ∧ makeZombie session (controller.updateSession session fun client =>
        { client with userResponseTimeout := 0 }) = .done (bury session last) :=
    ⟨_, after, timed, call, departed, zombie⟩
  unfold userResponse withSession
  rw [held]
  simp only
  rcases dismisses with ⟨waiting, refused⟩ | waiting
  · rw [waiting]
    cases status : value.userStatus with
    | loggedIn => exact absurd status refused
    | notLoggedIn => exact vanishes
    | other => exact vanishes
  · rw [waiting]
    cases value.userStatus with
    | notLoggedIn =>
      simp only
      split
      · next shared released =>
        have freed : Beside (controller.updateSession session fun client => { client with userResponseTimeout := 0 })
            { controller.updateSession session fun client => { client with userResponseTimeout := 0 } with shared } :=
          ⟨rfl, rfl, rfl, (sessionLogoutHelper_frame released).2.2, rfl⟩
        have beside := timed.trans freed
        obtain ⟨inside, last, closing, departs⟩ := @sendAndClose_departs
          { controller.updateSession session fun client => { client with userResponseTimeout := 0 } with shared } session _
          env (.logout Texts.goodbye) heldTimed active (beside.prepared prepared) (beside.inverse inverse)
        exact ⟨inside, last, beside.trans closing, departs⟩
      · exact vanishes
    | _ => exact vanishes

end Client

/-- What the handler of an upstream message finds: the number is recorded first. -/
def Server.received (msgSeqNum : Nat) (controller : Controller) : Controller :=
  { controller with serverSession := { controller.serverSession with inboundMsgSeqNum := msgSeqNum } }

namespace World
open Client (forceDisconnect bury Dismisses)
open Controller (Departed Beside)
variable {env : Env} {world : World}

private theorem loss_departs (reachable : Reachable env world) (earlier : List Nat) (session : Nat) :
    ∃ middle, Outcome.forEach earlier (forceDisconnect env) { world.controller with ready := false } = .done middle ∧
      ∀ client, middle.sessions.find session = some client → client.state.Active →
        ∃ inside after, Beside middle inside ∧ inside.sessionDisconnected session = .done after ∧
          Departed session inside after ∧ inside.partings session = [] ∧
          forceDisconnect env session middle = .done (bury session after) := by
  have consistent := consistent_of_reachable reachable
  have refusing : (({ world.controller with ready := false } : Controller).view world.answered).Consistent :=
    Router.consistent_step .unready consistent
  obtain ⟨middle, loop, moves, -⟩ := Client.closeAll env earlier _ refusing.sound
  refine ⟨middle, loop, fun client held active => ?_⟩
  have unready : middle.ready = false := moves.preserves (fun router => router.ready = false)
    (fun before action after closes step same => by
      obtain ⟨closed, rfl | ends⟩ := closes
      · cases step
        exact same
      · cases step with
        | retire => exact same
        | retireAsking => exact same
        | _ => exact ends.elim) rfl
  have prepared : (middle.view []).Prepared := fun ready => by
    have readied : middle.ready = true := ready
    rw [unready] at readied
    cases readied
  obtain ⟨inside, after, beside, call, departed, closed⟩ :=
    Client.close_departs env held active prepared (moves.consistent refusing).inverse
  refine ⟨inside, after, beside, call, departed, ?_, closed⟩
  unfold Controller.partings
  rw [beside.ready, unready]
  rfl

private theorem answer_departs (reachable : Reachable env world) {msgSeqNum session : Nat} {value : UserResponse}
    {client : Client.Session} {routed : Controller}
    (pending : world.controller.subscriptions.user.serverToClient.find value.userRequestId = some session)
    (held : world.session session = some client) (dismisses : Dismisses client.state value.userStatus)
    (performed : (Server.received msgSeqNum world.controller).routes value session client = .done routed) :
    ∃ inside after, Beside (routed.settleUserRequest value.userRequestId session) inside ∧
      inside.sessionDisconnected session = .done after ∧ Departed session inside after ∧
      step env (.serverRead msgSeqNum (.userResponse value)) world.controller = .done (bury session after) := by
  have consistent := consistent_of_reachable reachable
  obtain ⟨inverse, prepared, sessions⟩ := Controller.routes_inverse performed consistent.inverse consistent.sound.prepared
  have found : (routed.settleUserRequest value.userRequestId session).sessions.find session = some client := by
    rw [show (routed.settleUserRequest value.userRequestId session).sessions = routed.sessions from rfl, sessions]
    exact held
  obtain ⟨inside, after, beside, call, departed, ended⟩ := Client.userResponse_departs env found dismisses prepared inverse
  refine ⟨inside, after, beside, call, departed, ?_⟩
  have handled := @Controller.userResponse_routes (Server.received msgSeqNum world.controller) session env value client
    pending held
  rw [performed, Outcome.andThen_done] at handled
  exact handled.trans ended

/-- The Disconnected handler: it returns, upstream is told what it must be told, and nothing
of the session is left; also in the middle of the loss of the upstream connection, and of an
answer to the session itself. -/
theorem departures_complete (reachable : Reachable env world) :
    (world.controller.ready = true → world.controller.serverSession.state = .ready) ∧
    (∀ session, ∃ after, world.controller.sessionDisconnected session = .done after ∧
      Departed session world.controller after) ∧
    (∀ earlier session later, world.controller.sessions.keys = earlier ++ session :: later →
      ∃ middle, Outcome.forEach earlier (forceDisconnect env) { world.controller with ready := false } = .done middle ∧
        ∀ client, middle.sessions.find session = some client → client.state.Active →
          ∃ inside after, Beside middle inside ∧ inside.sessionDisconnected session = .done after ∧
            Departed session inside after ∧ inside.partings session = [] ∧
            forceDisconnect env session middle = .done (bury session after)) ∧
    ∀ msgSeqNum value session client routed,
      world.controller.subscriptions.user.serverToClient.find value.userRequestId = some session →
      world.session session = some client → Dismisses client.state value.userStatus →
      (Server.received msgSeqNum world.controller).routes value session client = .done routed →
      ∃ inside after, Beside (routed.settleUserRequest value.userRequestId session) inside ∧
        inside.sessionDisconnected session = .done after ∧ Departed session inside after ∧
        step env (.serverRead msgSeqNum (.userResponse value)) world.controller = .done (bury session after) := by
  have consistent := consistent_of_reachable reachable
  refine ⟨consistent.sound.prepared, fun session => ?_, fun earlier session later _ => ?_, ?_⟩
  · exact Controller.sessionDisconnected_departs session consistent.sound.prepared consistent.inverse
  · exact loss_departs reachable earlier session
  · intro msgSeqNum value session client routed pending held dismisses performed
    exact answer_departs reachable pending held dismisses performed

/-- A client with a market data subscription goes. -/
theorem departures_complete_subscribed : ∃ world after, Reachable Deployment.env world ∧
    world.controller.sessionDisconnected 1 = .done after ∧
    after.log = world.controller.log ++ [.toServer 4 (Controller.unsubscribes "proxy-2"),
      .toServer 5 (.userRequest { userRequestId := "proxy-3", userRequestType := .logOffUser, username := "1" })] := by
  obtain ⟨world, runs, checked⟩ := exists_run_of_replay Regular Deployment.env Deployment.users 0 Deployment.subscribed
    (fun world => numbered world.controller.serverSession.outboundMsgSeqNum (world.controller.partings 1) ==
      [.toServer 4 (Controller.unsubscribes "proxy-2"),
        .toServer 5 (.userRequest { userRequestId := "proxy-3", userRequestType := .logOffUser, username := "1" })])
    (by decide +kernel)
  obtain ⟨after, call, departed⟩ := (departures_complete (reachable_of_runsUnder runs)).2.1 1
  refine ⟨world, after, reachable_of_runsUnder runs, call, ?_⟩
  rw [departed.told, beq_iff_eq.mp checked]

end World
end FixProxy
