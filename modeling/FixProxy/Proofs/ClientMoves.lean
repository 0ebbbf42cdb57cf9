import FixProxy.Proofs.RequestMoves

/-! What an event at one client session does to the router: it logs the session on
or off, it forwards a request, or it ends the session. No exception leaves the
handler of an inbound message. -/

namespace FixProxy
open Codec

namespace Client
open Router (Moves Closes Step)
variable {answered : List String} {controller : Controller} {session : Nat}

/-- A call that at most ends the session, and returns. -/
def Yields (answered : List String) (session : Nat) (before : Controller) (outcome : Outcome Controller) : Prop :=
  outcome.Leaves (fun after => Moves (fun _ => Closes session) (before.view answered) (after.view answered))
    fun _ => False

theorem yields_done {after : Controller} (quiet : after.view answered = controller.view answered) :
    Yields answered session controller (.done after) :=
  .of_eq quiet

private theorem yields_of_ended {outcome : Outcome Controller}
    (ends : ∃ after, outcome = .done after ∧ Ended session (controller.view answered) (after.view answered)) :
    Yields answered session controller outcome := by
  obtain ⟨after, rfl, ended⟩ := ends
  exact Router.moves_of_ended ended

theorem close_yields (env : Env) (sound : (controller.view answered).Sound) :
    Yields answered session controller (close env session controller) :=
  yields_of_ended (close_ends env session sound)

theorem makeZombie_yields (sound : (controller.view answered).Sound) :
    Yields answered session controller (makeZombie session controller) :=
  yields_of_ended (makeZombie_ends session sound)

theorem sendAndClose_yields (env : Env) (message : ToClient) (sound : (controller.view answered).Sound) :
    Yields answered session controller (sendAndClose env session message controller) :=
  yields_of_ended (sendAndClose_ends env session message sound)

/-- A quiet change first does not matter. -/
theorem yields_after {changed : Controller} {outcome : Outcome Controller}
    (quiet : changed.view answered = controller.view answered)
    (yields : Yields answered session changed outcome) : Yields answered session controller outcome := by
  unfold Yields at *
  rwa [quiet] at yields

theorem withSession_leaves (answered : List String) {body : Session → Controller → Outcome Controller} {returned thrown : Controller → Prop}
    (absent : returned controller)
    (runs : ∀ client, controller.sessions.find session = some client →
      (controller.view answered).session session = some (client.state, client.partyId) →
      (body client controller).Leaves returned thrown) :
    (withSession session body controller).Leaves returned thrown := by
  unfold withSession
  cases found : controller.sessions.find session with
  | none => exact absent
  | some client => exact runs client found (by simp [Controller.view, found, Client.Session.shape])

theorem withSession_yields {body : Session → Controller → Outcome Controller}
    (runs : ∀ client, controller.sessions.find session = some client →
      (controller.view answered).session session = some (client.state, client.partyId) →
      Yields answered session controller (body client controller)) :
    Yields answered session controller (withSession session body controller) :=
  withSession_leaves answered (.refl _) runs

/-! Session level messages. -/

private theorem testRequest_yields (env : Env) (testReqId : String) (header : Header)
    (sound : (controller.view answered).Sound) :
    Yields answered session controller (testRequest env testReqId header session controller) := by
  refine withSession_yields fun client found held => ?_
  cases client.state with
  | waitingLogon => exact sendAndClose_yields env _ sound
  | waitingCreateRoute => exact yields_done (by simp)
  | ready => exact yields_done (by simp)
  | waitingRemoveRoute => exact yields_done rfl
  | zombie => exact yields_done rfl

private theorem resendRequest_yields (env : Env) (header : Header) (sound : (controller.view answered).Sound) :
    Yields answered session controller (resendRequest env header session controller) := by
  refine withSession_yields fun client found held => ?_
  cases client.state with
  | waitingLogon => exact sendAndClose_yields env _ sound
  | waitingCreateRoute => exact sendAndClose_yields env _ sound
  | ready => exact sendAndClose_yields env _ sound
  | waitingRemoveRoute => exact makeZombie_yields sound
  | zombie => exact yields_done rfl

private theorem heartbeat_yields (env : Env) (header : Header) (sound : (controller.view answered).Sound) :
    Yields answered session controller (heartbeat env header session controller) := by
  refine withSession_yields fun client found held => ?_
  cases client.state with
  | waitingLogon => exact sendAndClose_yields env _ sound
  | waitingCreateRoute => exact sendAndClose_yields env _ sound
  | ready => exact yields_done (Controller.view_updateSession_quiet _ _ _ _ fun _ => rfl)
  | waitingRemoveRoute => exact yields_done rfl
  | zombie => exact yields_done rfl

theorem timer_yields (env : Env) (now : Nanoseconds) (sound : (controller.view answered).Sound) :
    Yields answered session controller (timer env now session controller) := by
  refine withSession_yields fun client found held => ?_
  have idle : Yields answered session controller (.done controller) := yields_done rfl
  cases client.state with
  | waitingLogon =>
    simp only
    split
    · exact close_yields env sound
    · exact idle
  | waitingCreateRoute =>
    simp only
    split
    · exact sendAndClose_yields env _ sound
    · exact idle
  | ready =>
    simp only
    split
    · have quiet := Controller.view_updateSession_quiet answered controller session
        (fun client => { client with nextHeartbeat := now + env.settings.clientHeartbeatFreq }) fun _ => rfl
      refine yields_after quiet ?_
      split
      · exact sendAndClose_yields env _ (quiet ▸ sound)
      · refine yields_done ((Controller.view_updateSession_quiet _ _ _ _ ?_).trans (Controller.view_sendToClient ..))
        exact fun _ => rfl
    · exact idle
  | waitingRemoveRoute =>
    simp only
    split
    · exact sendAndClose_yields env _ sound
    · exact idle
  | zombie => exact idle

/-! Logging on and off. -/

private theorem registerUserRequest_leaves (answered : List String) (request : UserRequest) {session : Nat}
    {controller : Controller} (idle : (controller.view answered).waiting session = none) :
    (controller.registerUserRequest request session).Leaves
      (fun after => controller.serverSession.state = .ready ∧ after.sessions = controller.sessions ∧
        after.view answered =
          { controller.view answered with
            waiting := Function.update (controller.view answered).waiting session (some request.userRequestId)
            pending := emplace (controller.view answered).pending request.userRequestId session
            asked := (controller.view answered).asked ++ [request] })
      (fun after => controller.serverSession.state ≠ .ready ∧ after.sessions = controller.sessions ∧
        after.view answered =
          { controller.view answered with
            waiting := Function.update (controller.view answered).waiting session (some request.userRequestId)
            pending := emplace (controller.view answered).pending request.userRequestId session }) := by
  unfold Controller.registerUserRequest
  simp only
  split
  · unfold Controller.dispatchToServer
    split
    · next accepted =>
      refine ⟨accepted, rfl, ?_⟩
      rw [Controller.view_sendToServer_userRequest, Controller.view_setUser]
      simp only [Map.find_assign_fun, Map.find_tryEmplace_fun]
      rfl
    · next refused =>
      refine ⟨refused, rfl, ?_⟩
      rw [Controller.view_setUser]
      simp only [Map.find_assign_fun, Map.find_tryEmplace_fun]
      rfl
  · next waits =>
    have free : controller.subscriptions.user.clientToServer.find session = none := idle
    simp [free] at waits

def LogsOn (session : Nat) (action : Action) : Prop :=
  action = .allocate ∨ (∃ party, action = .nominate session party) ∨ (∃ party, action = .logOn session party) ∨
    action = .strand session

/-- The actions of a logon whose credentials are accepted, by the router it finds. -/
def Enlists (session : Nat) (party : String) (first router : Router) : Action → Prop
  | .allocate => True
  | .nominate other given => other = session ∧ given = party
  | .logOn other given => other = session ∧ given = party ∧ first.route party = none ∧ router.asked = first.asked
  | .strand other => other = session ∧ first.route party = none ∧ first.upstream ≠ .ready
  | _ => False

theorem logsOn_of_enlists {party : String} {first router : Router} {action : Action}
    (enlists : Enlists session party first router action) : LogsOn session action := by
  cases action with
  | allocate => exact Or.inl rfl
  | nominate other given => exact Or.inr (Or.inl ⟨given, by rw [enlists.1]⟩)
  | logOn other given => exact Or.inr (Or.inr (Or.inl ⟨given, by rw [enlists.1]⟩))
  | strand other => exact Or.inr (Or.inr (Or.inr (by rw [enlists.1])))
  | _ => exact enlists.elim

private theorem logonAccepted_leaves (env : Env) (logon : Logon) (header : Header) (now : Nanoseconds) (strategyId : Nat)
    {client : Session} (found : controller.sessions.find session = some client) (arriving : client.state = .waitingLogon)
    (sound : (controller.view answered).Sound) (idle : (controller.view answered).waiting session = none) :
    (logonAccepted env logon header now strategyId session controller).Leaves
      (fun after => Moves
        (fun router action =>
          Closes session action ∨ Enlists session (toString strategyId) (controller.view answered) router action)
        (controller.view answered) (after.view answered)) fun _ => False := by
  have nominated := Controller.view_updateSession_held answered controller found
    fun client => { client with username := logon.username, partyId := toString strategyId }
  have held : (controller.view answered).session session = some (.waitingLogon, client.partyId) := by
    simp [Controller.view, found, Client.Session.shape, arriving]
  unfold logonAccepted
  simp only
  generalize changed : controller.updateSession session (fun client =>
    { client with username := logon.username, partyId := toString strategyId }) = named at nominated ⊢
  have foundNamed : named.sessions.find session =
      some { client with username := logon.username, partyId := toString strategyId } := by
    rw [← changed]
    simp [Controller.updateSession, found]
  have nominate : Step (controller.view answered) (.nominate session (toString strategyId)) (named.view answered) := by
    rw [nominated]
    simp only [Client.Session.shape, arriving]
    exact .nominate held
  have arrivingNamed : (named.view answered).session session = some (.waitingLogon, toString strategyId) := by
    simp [Controller.view, foundNamed, Client.Session.shape, arriving]
  have drawn := Controller.view_createRequestId answered named
  have idleDrawn : (named.createRequestId.2.view answered).waiting session = none := by
    rw [drawn, nominated]
    exact idle
  have soundNamed := Router.sound_step nominate sound
  have soundDrawn : (named.createRequestId.2.view answered).Sound := by
    rw [drawn]
    exact Router.sound_step .allocate soundNamed
  have start : Moves
      (fun router action =>
          Closes session action ∨ Enlists session (toString strategyId) (controller.view answered) router action)
      (controller.view answered) (named.view answered) := .single (.nominate session (toString strategyId)) (Or.inr ⟨rfl, rfl⟩) nominate
  have routes : (named.view answered).route = (controller.view answered).route := by rw [nominated]
  have connection : named.serverSession = controller.serverSession := by
    rw [← changed]
    rfl
  refine Outcome.Leaves.mono (fun after moves => start.trans moves) (fun _ never => never) ?_
  unfold Controller.userRequest
  simp only
  cases locked : named.createRequestId.2.userIsLocked (toString strategyId) with
  | true =>
    simp only [if_true]
    have allocate : Moves
        (fun router action =>
          Closes session action ∨ Enlists session (toString strategyId) (controller.view answered) router action)
        (named.view answered) (named.createRequestId.2.view answered) :=
      .single .allocate (Or.inr trivial) (by rw [drawn]; exact .allocate)
    exact Outcome.Leaves.mono (fun after moves => allocate.trans (moves.mono fun _ _ => Or.inl)) (fun _ never => never)
      (sendAndClose_yields env _ soundDrawn)
  | false =>
    have unlocked : (named.view answered).route (toString strategyId) = none := by
      cases taken : (named.view answered).route (toString strategyId) with
      | none => rfl
      | some other =>
        have held : named.createRequestId.2.subscriptions.user.clientToSession.find (toString strategyId) = some other :=
          taken
        rw [Controller.userIsLocked, held] at locked
        cases locked
    have free : (controller.view answered).route (toString strategyId) = none := by rw [← routes, unlocked]
    have state : (controller.view answered).upstream = named.createRequestId.2.serverSession.state := by
      have drawnConnection : named.createRequestId.2.serverSession = named.serverSession := rfl
      rw [drawnConnection, connection]
      rfl
    simp only [Bool.false_eq_true, if_false]
    refine Outcome.Leaves.recover (Outcome.Leaves.andThen (registerUserRequest_leaves answered _ idleDrawn) ?_) ?_
    · rintro after - ⟨accepted, sessions, view⟩
      have foundAfter : after.sessions.find session =
          some { client with username := logon.username, partyId := toString strategyId } := by
        rw [sessions]
        exact foundNamed
      have routed := Controller.view_updateSession_held answered after foundAfter fun client =>
        { client with
          state := .waitingCreateRoute
          userResponseTimeout := now + env.settings.serverRequestTimeout }
      rw [view, drawn] at routed
      have silent : (named.view answered).asked = (controller.view answered).asked := by rw [nominated]
      refine .single (.logOn session (toString strategyId)) (Or.inr ⟨rfl, rfl, free, silent⟩) ?_
      rw [routed]
      exact .logOn arrivingNamed (plain_toString strategyId) unlocked accepted
    · rintro what after ⟨refused, -, view⟩
      rw [drawn] at view
      have soundAfter : (after.view answered).Sound := by
        rw [view]
        exact ⟨soundNamed.known, soundNamed.connected, soundNamed.prepared, soundNamed.doomed⟩
      obtain ⟨last, call, ended⟩ := sendAndClose_ends env session
        (.reject { refSeqNum := header.msgSeqNum, text := what, refMsgType := .logon }) soundAfter
      have buried : last.view answered =
          { after.view answered with
            session := Function.update (after.view answered).session session (some (.zombie, toString strategyId))
            doomed := (after.view answered).doomed.insert session } := by
        have stillArriving : (after.view answered).session session = some (.waitingLogon, toString strategyId) := by
          rw [view]
          exact arrivingNamed
        simpa [Ended, stillArriving] using ended
      unfold sendRejectAndClose
      rw [call]
      refine .single (.strand session) (Or.inr ⟨rfl, free, fun ready => refused (state.symm.trans ready)⟩) ?_
      rw [buried, view]
      exact .strand arrivingNamed unlocked refused

private theorem sessionLogonHelper_frame {library : Crypto.Library} {settings : Settings} {now : BitVec 64} {session : Nat}
    {username password rawData : String} {strategyId : Nat} {shared after : Shared}
    (accepted : shared.sessionLogonHelper library settings now session username password rawData =
      .ok (strategyId, after)) :
    after.sessionsToRemove = shared.sessionsToRemove ∧ after.nextSessionId = shared.nextSessionId ∧
      after.nextRequestId = shared.nextRequestId := by
  unfold Shared.sessionLogonHelper at accepted
  split at accepted
  · cases accepted
  · split at accepted
    · cases accepted
    · split at accepted
      · cases accepted
      · simp only [Except.ok.injEq, Prod.mk.injEq] at accepted
        obtain ⟨-, rfl⟩ := accepted
        exact ⟨rfl, rfl, rfl⟩

theorem sessionLogoutHelper_frame {session : Nat} {shared after : Shared}
    (accepted : shared.sessionLogoutHelper session = .ok after) :
    after.sessionsToRemove = shared.sessionsToRemove ∧ after.nextSessionId = shared.nextSessionId ∧
      after.nextRequestId = shared.nextRequestId := by
  unfold Shared.sessionLogoutHelper at accepted
  split at accepted
  · cases accepted
  · simp only [Except.ok.injEq] at accepted
    subst accepted
    exact ⟨rfl, rfl, rfl⟩

/-- Who is logged on under which username is not part of the view. -/
theorem view_shared (answered : List String) {shared : Shared}
    (frame : shared.sessionsToRemove = controller.shared.sessionsToRemove ∧
      shared.nextSessionId = controller.shared.nextSessionId ∧ shared.nextRequestId = controller.shared.nextRequestId) :
    ({ controller with shared } : Controller).view answered = controller.view answered := by
  obtain ⟨doomed, lastSession, lastRequest⟩ := frame
  simp only [Controller.view, doomed, lastSession, lastRequest]
  rfl

/-- The credentials of a session that has not logged on yet are accepted. -/
def Accepted (env : Env) (value : Logon) (header : Header) (clock : Clock) (session : Nat) (controller : Controller)
    (strategyId : Nat) : Prop :=
  ∃ client shared, controller.sessions.find session = some client ∧ client.state = .waitingLogon ∧
    validateLogon env value header = none ∧
    controller.shared.sessionLogonHelper env.library.toLibrary env.settings clock.realtime session
      value.username value.password value.rawData = .ok (strategyId, shared)

theorem logon_enlists (env : Env) (value : Logon) (header : Header) (clock : Clock)
    (consistent : (controller.view answered).Consistent) :
    (logon env value header clock session controller).Leaves
      (fun after => Moves
        (fun router action => Closes session action ∨
          ∃ strategyId, Accepted env value header clock session controller strategyId ∧
            Enlists session (toString strategyId) (controller.view answered) router action)
        (controller.view answered) (after.view answered)) fun _ => False := by
  have ends {outcome : Outcome Controller} (yields : Yields answered session controller outcome) :
      outcome.Leaves (fun after => Moves
        (fun router action => Closes session action ∨
          ∃ strategyId, Accepted env value header clock session controller strategyId ∧
            Enlists session (toString strategyId) (controller.view answered) router action)
        (controller.view answered) (after.view answered)) fun _ => False :=
    Outcome.Leaves.mono (fun after moves => moves.mono fun _ _ => Or.inl) (fun _ never => never) yields
  have sound := consistent.sound
  refine withSession_leaves answered (.refl _) fun client found held => ?_
  cases state : client.state with
  | waitingLogon =>
    have quiet := Controller.view_updateSession_quiet answered controller session
      (fun client => { client with compId := header.senderCompId }) fun _ => rfl
    have foundNamed : (controller.updateSession session fun client =>
        { client with compId := header.senderCompId }).sessions.find session =
        some { client with compId := header.senderCompId } := by
      simp [Controller.updateSession, found]
    have credentials : (controller.updateSession session fun client =>
        { client with compId := header.senderCompId }).shared = controller.shared := rfl
    simp only
    generalize (controller.updateSession session fun client =>
      { client with compId := header.senderCompId }) = named at quiet foundNamed credentials ⊢
    have soundNamed : (named.view answered).Sound := quiet ▸ sound
    split
    · exact ends (yields_after quiet (sendAndClose_yields env _ soundNamed))
    · next valid =>
      split
      · exact ends (yields_after quiet (sendAndClose_yields env _ soundNamed))
      · next strategyId shared accepted =>
        have same := view_shared answered (sessionLogonHelper_frame accepted)
        have arriving : (controller.view answered).session session = some (.waitingLogon, client.partyId) := state ▸ held
        have granted : Accepted env value header clock session controller strategyId :=
          ⟨client, shared, found, state, valid, credentials ▸ accepted⟩
        have logged := @logonAccepted_leaves answered { named with shared } session env value header clock.system
          strategyId _ foundNamed state (by rw [same]; exact soundNamed)
          (by rw [same, quiet]; exact consistent.accounted.idle session client.partyId (Or.inl arriving))
        rw [same, quiet] at logged
        refine Outcome.Leaves.mono (fun after moves => moves.mono fun _ _ permitted => ?_) (fun _ never => never) logged
        exact permitted.imp id fun enlists => ⟨strategyId, granted, enlists⟩
  | waitingCreateRoute => exact ends (sendAndClose_yields env _ sound)
  | ready => exact ends (sendAndClose_yields env _ sound)
  | waitingRemoveRoute => exact ends (makeZombie_yields sound)
  | zombie => exact ends (yields_done rfl)

theorem logon_leaves (env : Env) (value : Logon) (header : Header) (clock : Clock)
    (consistent : (controller.view answered).Consistent) :
    (logon env value header clock session controller).Leaves
      (fun after => Moves (fun _ action => Closes session action ∨ LogsOn session action)
        (controller.view answered) (after.view answered)) fun _ => False := by
  refine Outcome.Leaves.mono (fun after moves => moves.mono fun _ _ permitted => ?_) (fun _ never => never)
    (logon_enlists env value header clock consistent)
  rcases permitted with closes | ⟨strategyId, -, enlists⟩
  · exact Or.inl closes
  · exact Or.inr (logsOn_of_enlists enlists)

theorem logout_leaves (env : Env) (header : Header) (now : Nanoseconds)
    (consistent : (controller.view answered).Consistent) :
    (logout env header now session controller).Leaves
      (fun after => Moves (fun _ action => Closes session action ∨ action = .logOff session)
        (controller.view answered) (after.view answered)) fun _ => False := by
  have ends {outcome : Outcome Controller} (yields : Yields answered session controller outcome) :
      outcome.Leaves (fun after => Moves (fun _ action => Closes session action ∨ action = .logOff session)
        (controller.view answered) (after.view answered)) fun _ => False :=
    Outcome.Leaves.mono (fun after moves => moves.mono fun _ _ => Or.inl) (fun _ never => never) yields
  have sound := consistent.sound
  refine withSession_leaves answered (.refl _) fun client found held => ?_
  cases state : client.state with
  | waitingLogon => exact ends (sendAndClose_yields env _ sound)
  | waitingCreateRoute => exact ends (sendAndClose_yields env _ sound)
  | ready =>
    rw [state] at held
    have upstream := sound.connected session .ready client.partyId held trivial
    have drawn := Controller.view_createRequestId answered controller
    have idle : (controller.createRequestId.2.view answered).waiting session = none := by
      rw [drawn]
      exact consistent.accounted.idle session client.partyId (Or.inr held)
    unfold Controller.userRequest
    simp only
    refine Outcome.Leaves.andThen (Outcome.Leaves.mono (fun _ leaves => leaves) ?_
      (registerUserRequest_leaves answered _ idle)) ?_
    · rintro after ⟨refused, -⟩
      exact refused upstream
    · rintro after - ⟨-, sessions, view⟩
      have foundAfter : after.sessions.find session = some client := by
        rw [sessions]
        exact found
      have departed := Controller.view_updateSession_held answered after foundAfter fun client =>
        { client with
          state := .waitingRemoveRoute
          userResponseTimeout := now + env.settings.serverRequestTimeout }
      rw [view, drawn] at departed
      refine .single (.logOff session) (Or.inr rfl) ?_
      rw [departed]
      exact .logOff held upstream
  | waitingRemoveRoute => exact ends (makeZombie_yields sound)
  | zombie => exact ends (yields_done rfl)

/-! Business messages. -/

theorem getClientFromParties_own (party : String) :
    getClientFromParties [{ partyId := party, partyIdSource := .proprietaryCustomCode, partyRole := .clientId }] =
      party := by
  by_cases empty : party = "" <;> simp [getClientFromParties, empty]

/-- What a business request leaves: it is handled, or the session ends. -/
def Passes (answered : List String) (session : Nat) (request : Request) (before : Controller)
    (outcome : Outcome Controller) : Prop :=
  outcome.Leaves
    (fun after => Moves (fun _ => Closes session) (before.view answered) (after.view answered) ∨
      Router.Performs session request (before.view answered).session before.log after.log
        (before.view answered) (after.view answered))
    (fun after => (before.view answered).upstream ≠ .ready ∧
      Moves (fun _ => Router.Preliminary session) (before.view answered) (after.view answered))

variable {request : Request}

private theorem passes_of_yields {outcome : Outcome Controller} (yields : Yields answered session controller outcome) :
    Passes answered session request controller outcome :=
  Outcome.Leaves.mono (fun _ => Or.inl) (fun _ never => never.elim) yields

/-- The request the controller handles is the client's in its id and its type. -/
def Kindred (handled request : Request) : Prop :=
  handled.key = request.key ∧ handled.subscriptionType = request.subscriptionType

theorem performs_of_kindred {handled : Request} (kindred : Kindred handled request)
    {sessions : Nat → Option (State × String)} {before after : List Output} {first last : Router}
    (performs : Router.Performs session handled sessions before after first last) :
    Router.Performs session request sessions before after first last := by
  obtain ⟨key, type⟩ := kindred
  have flagged {keepAlive : Bool} (flagged : Router.Flagged handled keepAlive) : Router.Flagged request keepAlive := by
    unfold Router.Flagged Request.keepAlive at flagged ⊢
    rwa [← type, ← key]
  cases performs with
  | refused prelude replied => exact .refused prelude replied
  | passed prelude unsubscribes => exact .passed prelude (type ▸ unsubscribes)
  | @acted middle action prelude requests acts step =>
    suffices same : Router.Requests session request sessions before after middle action from
      .acted prelude same acts step
    cases action with
    | openFresh => exact ⟨requests.1, requests.2.1, flagged requests.2.2.1, by simpa [Forwarded, key] using requests.2.2.2⟩
    | openStamped => exact ⟨requests.1, requests.2.1, flagged requests.2.2.1, by simpa [Forwarded, key] using requests.2.2.2⟩
    | enter => exact ⟨requests.1, requests.2.1, flagged requests.2.2.1, by simpa [Forwarded, key] using requests.2.2.2⟩
    | release => exact by simpa [Router.Requests, key, type] using requests
    | retain => exact by simpa [Router.Requests, key, type] using requests
    | _ => exact requests

private theorem passes_of_handles {handled : Request} {outcome : Outcome Controller} (kindred : Kindred handled request)
    (handles : Controller.Handles answered session handled controller outcome) :
    Passes answered session request controller outcome :=
  Outcome.Leaves.mono (fun _ performs => Or.inr (performs_of_kindred kindred performs)) (fun _ moves => moves) handles

private theorem business_passes (env : Env) {msgType : MsgType} {header : Header}
    {ready : Session → Controller → Outcome Controller} (sound : (controller.view answered).Sound)
    (runs : ∀ client, (controller.view answered).session session = some (.ready, client.partyId) →
      Passes answered session request controller (ready client controller)) :
    Passes answered session request controller (business env msgType header session ready controller) := by
  refine withSession_leaves answered (Or.inl (.refl _)) fun client found held => ?_
  cases state : client.state with
  | waitingLogon => exact passes_of_yields (sendAndClose_yields env _ sound)
  | waitingCreateRoute => exact passes_of_yields (sendAndClose_yields env _ sound)
  | ready => exact runs client (state ▸ held)
  | waitingRemoveRoute => exact passes_of_yields (makeZombie_yields sound)
  | zombie => exact passes_of_yields (yields_done rfl)

private theorem sendBusinessMessageReject_passes {header : Header} {msgType : MsgType} {refId : String}
    {reason : BusinessRejectReason} {text : String} :
    Passes answered session request controller
      (.done (sendBusinessMessageReject session header msgType refId reason text controller)) :=
  passes_of_yields (yields_done (Controller.view_sendToClient ..))

private theorem validated_passes (env : Env) {msgType : MsgType} {header : Header} {ids : List (String × String)}
    {next : Controller → Outcome Controller} (runs : Passes answered session request controller (next controller)) :
    Passes answered session request controller (validated env msgType header session ids next controller) := by
  unfold validated
  split
  · exact sendBusinessMessageReject_passes
  · exact runs

private theorem addPartyIds_passes {msgType : MsgType} {header : Header} {client : Session} {noPartyIds : List Party}
    {refId text : String} (handled : List Party → Request) (kindred : ∀ parties, Kindred (handled parties) request)
    (parties : ∀ parties, (handled parties).parties = some parties)
    (ready : (controller.view answered).session session = some (.ready, client.partyId))
    (prepared : Controller.Prepared answered controller) :
    Passes answered session request controller
      (addPartyIds msgType header session client noPartyIds refId text
        (fun parties => Controller.request (handled parties) session) controller) := by
  unfold addPartyIds
  split
  · refine passes_of_handles (kindred _) (Controller.request_handles _ ?_ ready prepared)
    intro named same
    rw [parties] at same
    rw [← Option.some.inj same]
    exact getClientFromParties_own client.partyId
  · exact sendBusinessMessageReject_passes

private theorem unnamed_passes (request : Request) (unnamed : request.parties = none) {party : String}
    (ready : (controller.view answered).session session = some (.ready, party))
    (prepared : Controller.Prepared answered controller) :
    Passes answered session request controller (Controller.request request session controller) := by
  refine passes_of_handles ⟨rfl, rfl⟩ (Controller.request_handles request ?_ ready prepared)
  intro parties named
  rw [unnamed] at named
  cases named

theorem prepared_of_consistent (consistent : (controller.view answered).Consistent) :
    Controller.Prepared answered controller := by
  refine ⟨consistent.indexed.backed .posReqId trivial, fun name fresh => ?_⟩
  cases taken : ((controller.view answered).index name).entry (controller.view answered).nextId with
  | none => rfl
  | some entry => exact absurd (consistent.indexed.issuedEntry name fresh _ entry taken) (not_issued_next _)

theorem request_passes (env : Env) (request : Request) (header : Header)
    (consistent : (controller.view answered).Consistent) :
    Passes answered session request controller (Client.request env request header session controller) := by
  have sound := consistent.sound
  have prepared := prepared_of_consistent consistent
  cases request with
  | securityListRequest value =>
    exact business_passes env sound fun _ ready =>
      validated_passes env (unnamed_passes (.securityListRequest value) rfl ready prepared)
  | securityDefinitionRequest value =>
    exact business_passes env sound fun _ ready =>
      validated_passes env (unnamed_passes (.securityDefinitionRequest value) rfl ready prepared)
  | securityStatusRequest value =>
    exact business_passes env sound fun _ ready =>
      validated_passes env (unnamed_passes (.securityStatusRequest value) rfl ready prepared)
  | marketDataRequest value =>
    exact business_passes env sound fun _ ready =>
      validated_passes env (unnamed_passes (.marketDataRequest value) rfl ready prepared)
  | orderStatusRequest value =>
    exact business_passes env sound fun _ ready => validated_passes env (addPartyIds_passes
      (fun noPartyIds => .orderStatusRequest { value with noPartyIds }) (fun _ => ⟨rfl, rfl⟩)
      (fun _ => rfl) ready prepared)
  | newOrderSingle value =>
    exact business_passes env sound fun _ ready => validated_passes env (addPartyIds_passes
      (fun noPartyIds => .newOrderSingle { value with noPartyIds }) (fun _ => ⟨rfl, rfl⟩)
      (fun _ => rfl) ready prepared)
  | orderCancelReplaceRequest value =>
    exact business_passes env sound fun _ ready => validated_passes env (addPartyIds_passes
      (fun noPartyIds => .orderCancelReplaceRequest { value with noPartyIds }) (fun _ => ⟨rfl, rfl⟩)
      (fun _ => rfl) ready prepared)
  | orderCancelRequest value =>
    exact business_passes env sound fun _ ready => validated_passes env (addPartyIds_passes
      (fun noPartyIds => .orderCancelRequest { value with noPartyIds }) (fun _ => ⟨rfl, rfl⟩)
      (fun _ => rfl) ready prepared)
  | orderMassStatusRequest value =>
    exact business_passes env sound fun _ ready => validated_passes env (addPartyIds_passes
      (fun noPartyIds => .orderMassStatusRequest { value with noPartyIds }) (fun _ => ⟨rfl, rfl⟩)
      (fun _ => rfl) ready prepared)
  | orderMassCancelRequest value =>
    exact business_passes env sound fun _ ready => validated_passes env (addPartyIds_passes
      (fun noPartyIds => .orderMassCancelRequest { value with noPartyIds }) (fun _ => ⟨rfl, rfl⟩)
      (fun _ => rfl) ready prepared)
  | requestForPositions value =>
    exact business_passes env sound fun _ ready => validated_passes env (addPartyIds_passes
      (fun noPartyIds => .requestForPositions { value with noPartyIds }) (fun _ => ⟨rfl, rfl⟩)
      (fun _ => rfl) ready prepared)
  | tradeCaptureReportRequest value =>
    exact business_passes env sound fun _ ready => validated_passes env (addPartyIds_passes
      (fun noPartyIds => .tradeCaptureReportRequest { value with noPartyIds }) (fun _ => ⟨rfl, rfl⟩)
      (fun _ => rfl) ready prepared)

def Reads (session : Nat) (message : FromClient) (sessions : Nat → Option (State × String))
    (before after : List Output) (router : Router) (action : Action) : Prop :=
  Closes session action ∨
    match message with
    | .logon _ => LogsOn session action
    | .logout => action = .logOff session
    | .request request => Router.Requests session request sessions before after router action
    | _ => False

private theorem parse_leaves (env : Env) (message : FromClient) (header : Header) (clock : Clock)
    (consistent : (controller.view answered).Consistent) :
    (parse env message header clock session controller).Leaves
      (fun after => Moves (Reads session message (controller.view answered).session controller.log after.log)
        (controller.view answered) (after.view answered))
      fun after => Moves (fun _ => Router.Preliminary session) (controller.view answered) (after.view answered) := by
  have quiet := Controller.view_updateSession_quiet answered controller session
    (fun client => { client with compId := if client.compId = "" then header.senderCompId else client.compId })
    fun _ => rfl
  have log : (controller.updateSession session fun client =>
    { client with compId := if client.compId = "" then header.senderCompId else client.compId }).log = controller.log := rfl
  unfold parse
  simp only
  generalize (controller.updateSession session fun client =>
    { client with compId := if client.compId = "" then header.senderCompId else client.compId }) = named at quiet log ⊢
  rw [← quiet] at consistent
  have sound := consistent.sound
  have ends {outcome : Outcome Controller} (yields : Yields answered session named outcome) :
      outcome.Leaves
        (fun after => Moves (Reads session message (controller.view answered).session controller.log after.log)
          (controller.view answered) (after.view answered))
        fun after => Moves (fun _ => Router.Preliminary session) (controller.view answered) (after.view answered) := by
    rw [← quiet]
    exact Outcome.Leaves.mono (fun after moves => moves.mono fun _ _ => Or.inl) (fun _ never => never.elim) yields
  cases message with
  | testRequest testReqId => exact ends (testRequest_yields env testReqId header sound)
  | resendRequest => exact ends (resendRequest_yields env header sound)
  | reject => exact ends (close_yields env sound)
  | heartbeat => exact ends (heartbeat_yields env header sound)
  | logon value =>
    rw [← quiet]
    exact Outcome.Leaves.mono (fun _ moves => moves) (fun _ never => never.elim)
      (logon_leaves env value header clock consistent)
  | logout =>
    rw [← quiet]
    exact Outcome.Leaves.mono (fun _ moves => moves) (fun _ never => never.elim)
      (logout_leaves env header clock.system consistent)
  | tradingSessionStatusRequest tradSesReqId => exact ends (yields_done (Controller.view_sendToClient ..))
  | request value =>
    rw [← quiet, ← log]
    refine Outcome.Leaves.mono (fun _ passes => ?_) (fun _ moves => moves.2) (request_passes env value header consistent)
    rcases passes with closes | performs
    · exact closes.mono fun _ _ => Or.inl
    · exact performs.moves.mono fun _ _ => Or.inr
  | unexpected msgType => exact ends (yields_done (Controller.view_sendToClient ..))

theorem read_leaves (env : Env) (message : FromClient) (header : Header) (clock : Clock)
    (consistent : (controller.view answered).Consistent) :
    (read env message header clock session controller).Leaves
      (fun after => Moves (fun router action =>
          Reads session message (controller.view answered).session controller.log after.log router action ∨
            Router.Preliminary session action)
        (controller.view answered) (after.view answered)) fun _ => False := by
  refine withSession_leaves answered (.refl _) fun client found held => ?_
  split
  · exact .refl _
  · have quiet := Controller.view_updateSession_quiet answered controller session
      (fun client => { client with inboundMsgSeqNum := header.msgSeqNum }) fun _ => rfl
    have log : (controller.updateSession session fun client =>
      { client with inboundMsgSeqNum := header.msgSeqNum }).log = controller.log := rfl
    simp only
    generalize (controller.updateSession session fun client =>
      { client with inboundMsgSeqNum := header.msgSeqNum }) = counted at quiet log ⊢
    rw [← quiet, ← log]
    rw [← quiet] at consistent
    refine Outcome.Leaves.recover (Outcome.Leaves.mono (fun after moves => moves.mono fun _ _ => Or.inl)
      (fun _ moves => moves) (parse_leaves env message header clock consistent)) ?_
    intro what after moves
    have begun : Moves (fun _ => Router.Preliminary session) (counted.view answered) (after.view answered) := moves
    refine Outcome.Leaves.mono (fun last closes => ?_) (fun _ never => never)
      (close_yields env (begun.sound consistent.sound))
    exact (begun.mono fun _ _ => Or.inr).trans (closes.mono fun _ _ closes => Or.inl (Or.inl closes))

end Client
end FixProxy
