import FixProxy.Proofs.ReadyRequests
import FixProxy.Roster

/-! Every event at a session is one deed of that session: the tables of what a session
does in which state, and the handlers against them. -/

namespace FixProxy
open Codec

namespace Controller
variable {controller before middle after : Controller} {session : Nat} {client : Client.Session}

/-! The end of a session. -/

/-- Nothing changes but that the controller tells upstream that the session goes. -/
def Parts (before after : Controller) : Prop :=
  ∃ partings : List Output, (∀ output ∈ partings, output.Parting) ∧ after.roster = before.roster.tellAll partings

theorem Parts.of_eq (same : after.roster = before.roster) : Parts before after :=
  ⟨[], by simp, by simp [same]⟩

theorem Parts.trans (head : Parts before middle) (rest : Parts middle after) : Parts before after := by
  obtain ⟨partings, parting, same⟩ := head
  obtain ⟨more, parting', same'⟩ := rest
  refine ⟨partings ++ more, ?_, ?_⟩
  · intro output member
    rcases List.mem_append.mp member with early | late
    · exact parting output early
    · exact parting' output late
  · rw [same', same, Roster.tellAll_tellAll]

private theorem parts_send {message : ToServer} (parting : message.Parting)
    (sent : controller.dispatchToServer message = .done after) : Parts controller after := by
  unfold dispatchToServer at sent
  split at sent
  · cases sent
    refine ⟨[.toServer _ message], fun output member => ?_, rfl⟩
    rw [List.mem_singleton.mp member]
    exact parting
  · cases sent

private theorem forEach_parts {items : List String} {body : String → Controller → Outcome Controller}
    (parts : ∀ item before after, body item before = .done after → Parts before after)
    (returned : Outcome.forEach items body controller = .done after) : Parts controller after := by
  induction items generalizing controller with
  | nil =>
    cases returned
    exact .of_eq rfl
  | cons item rest ih =>
    obtain ⟨next, first, others⟩ := Outcome.andThen_eq_done.mp returned
    exact (parts item controller next first).trans (ih others)

private theorem clearReqIds_parts {name : MappingName} {callback : String → Controller → Outcome Controller}
    (parts : ∀ reqId before after, callback reqId before = .done after → Parts before after)
    (returned : controller.clearReqIds name session callback = .done after) : Parts controller after := by
  unfold clearReqIds at returned
  split at returned
  · cases returned
    exact .of_eq rfl
  · obtain ⟨looped, loop, last⟩ := Outcome.andThen_eq_done.mp returned
    cases last
    refine (forEach_parts (fun reqId before after called => ?_) loop).trans (.of_eq rfl)
    obtain ⟨sent, call, erased⟩ := Outcome.andThen_eq_done.mp called
    cases erased
    exact (parts reqId before sent call).trans (.of_eq rfl)

private theorem ignore_parts (reqId : String) (before after : Controller) (returned : ignore reqId before = .done after) :
    Parts before after := by
  cases returned
  exact .of_eq rfl

private theorem unsubscribeMarketData_parts (reqId : String) (before after : Controller)
    (returned : unsubscribeMarketData reqId before = .done after) : Parts before after := by
  unfold unsubscribeMarketData at returned
  split at returned
  · cases returned
    exact .of_eq rfl
  · refine parts_send ?_ returned
    exact rfl

private theorem releaseUser_parts (returned : controller.releaseUser session = .done after) : Parts controller after := by
  unfold releaseUser at returned
  split at returned
  · cases returned
    exact .of_eq rfl
  · obtain ⟨loggedOff, logOff, released⟩ := Outcome.andThen_eq_done.mp returned
    cases released
    split at logOff
    · obtain ⟨sent, send, registered⟩ := Outcome.andThen_eq_done.mp logOff
      cases registered
      have asked : Parts controller.createRequestId.2 sent := parts_send (by exact rfl) send
      exact (Parts.of_eq rfl).trans (asked.trans (.of_eq rfl))
    · cases logOff
      exact .of_eq rfl

private theorem sessionDisconnected_parts (returned : controller.sessionDisconnected session = .done after) :
    Parts { controller with disconnects := controller.disconnects ++ [session] } after := by
  unfold sessionDisconnected at returned
  simp only [Outcome.andThen_eq_done] at returned
  obtain ⟨_, security, _, securityStatus, _, tradSes, _, marketData, _, ordStatus, _, massStatus, _, positions, _,
    trades, _, orders, _, massCancel, released⟩ := returned
  exact ((((((((((clearReqIds_parts ignore_parts security).trans (clearReqIds_parts ignore_parts securityStatus)).trans
    (clearReqIds_parts ignore_parts tradSes)).trans (clearReqIds_parts unsubscribeMarketData_parts marketData)).trans
    (clearReqIds_parts ignore_parts ordStatus)).trans (clearReqIds_parts ignore_parts massStatus)).trans
    (clearReqIds_parts ignore_parts positions)).trans (clearReqIds_parts ignore_parts trades)).trans
    (clearReqIds_parts ignore_parts orders)).trans (clearReqIds_parts ignore_parts massCancel)).trans
    (releaseUser_parts released)

theorem found_of_roster {roster : Roster} (same : controller.roster = roster)
    (held : roster.session session = some client) : controller.sessions.find session = some client :=
  (congrFun (congrArg Roster.session same) session).trans held

private theorem roster_updateSession (held : controller.sessions.find session = some client)
    (change : Client.Session → Client.Session) :
    (controller.updateSession session change).roster = controller.roster.record session (change client) := by
  simp [roster, updateSession, held]

private theorem roster_sendToClient (held : controller.sessions.find session = some client) (message : ToClient) :
    (controller.sendToClient session message).roster = controller.roster.say session client message := by
  simp [roster, sendToClient, updateSession, held, Roster.say]

end Controller

namespace Client
open Roster (Does Acts Calm Turn)
variable {controller after : Controller} {session : Nat} {client : Session} {answered : List String}

theorem roster_bury (held : controller.sessions.find session = some client) :
    (bury session controller).roster =
      { controller.roster.bury session client [] with disconnects := controller.disconnects } := by
  have state : setState session .zombie controller =
      { controller with sessions := (controller.updateSession session fun client =>
        { client with state := .zombie }).sessions } := rfl
  simp only [bury, state, Shared.sessionRemove, Shared.sessionRemoveHelper]
  cases named : controller.shared.sessionToUsername.find session with
  | none =>
    simp [Controller.roster, Roster.bury, Controller.updateSession, held, named]
  | some username =>
    simp [Controller.roster, Roster.bury, Controller.updateSession, held, named]
    funext other
    simp [Function.update_apply, eq_comm]

private theorem makeZombie_does (held : controller.sessions.find session = some client) (alive : client.state ≠ .zombie)
    (returned : makeZombie session controller = .done after) :
    ∃ partings : List Output, (∀ output ∈ partings, output.Parting) ∧
      after.roster = controller.roster.bury session client partings := by
  have signalled (returned : ((controller.sessionDisconnected session).andThen fun controller =>
        .done (bury session controller)) = .done after) (departed : client.state ≠ .waitingLogon) :
      ∃ partings : List Output, (∀ output ∈ partings, output.Parting) ∧
        after.roster = controller.roster.bury session client partings := by
    obtain ⟨released, call, buried⟩ := Outcome.andThen_eq_done.mp returned
    obtain ⟨partings, parting, same⟩ := Controller.sessionDisconnected_parts call
    have found : released.sessions.find session = some client := by
      have sessions : released.sessions.find = controller.sessions.find := congrArg Roster.session same
      rw [sessions, held]
    refine ⟨partings, parting, ?_⟩
    cases buried
    have heard : released.disconnects = controller.disconnects ++ [session] := congrArg Roster.disconnects same
    rw [roster_bury found, same, heard]
    simp only [Roster.bury, Roster.tellAll, if_neg departed, List.append_nil]
    rfl
  unfold makeZombie withSession at returned
  rw [held] at returned
  cases state : client.state with
  | waitingLogon =>
    simp only [state, Outcome.done.injEq] at returned
    subst returned
    refine ⟨[], by simp, ?_⟩
    rw [roster_bury held]
    simp [Roster.bury, state, Controller.roster]
  | waitingCreateRoute => exact signalled (by simpa only [state] using returned) (by simp [state])
  | ready => exact signalled (by simpa only [state] using returned) (by simp [state])
  | waitingRemoveRoute => exact signalled (by simpa only [state] using returned) (by simp [state])
  | zombie => exact absurd state alive

private theorem makeZombie_gives (held : controller.sessions.find session = some client) (alive : client.state ≠ .zombie)
    (sound : (controller.view answered).Sound) :
    (makeZombie session controller).Gives fun after => Acts session .vanish controller.roster after.roster := by
  obtain ⟨after, call, -⟩ := makeZombie_ends session sound
  obtain ⟨partings, parting, same⟩ := makeZombie_does held alive call
  rw [call]
  exact .of_does (same ▸ .vanish held alive parting)

private theorem close_does (env : Env) (held : controller.sessions.find session = some client)
    (alive : client.state ≠ .zombie) (returned : close env session controller = .done after) :
    ∃ partings : List Output, (∀ output ∈ partings, output.Parting) ∧
      after.roster = (controller.roster.shut session).bury session client partings := by
  unfold close withSession at returned
  simp only [held, if_neg alive] at returned
  obtain ⟨called, back, again⟩ := Outcome.andThen_eq_done.mp returned
  have heldShut : ({ controller with log := controller.log ++ [.closeClient session] } : Controller).sessions.find session =
      some client := held
  split at back
  · obtain ⟨partings, parting, same⟩ := makeZombie_does heldShut alive back
    have buried : called.sessions.find session = some { client with state := .zombie } := by
      have sessions := congrFun (congrArg Roster.session same) session
      simpa [Roster.bury, Controller.roster] using sessions
    simp only [makeZombie, withSession, buried, Outcome.done.injEq] at again
    exact ⟨partings, parting, again ▸ same⟩
  · cases back
    exact makeZombie_does heldShut alive again

private theorem close_gives (env : Env) (held : controller.sessions.find session = some client)
    (alive : client.state ≠ .zombie) (sound : (controller.view answered).Sound) :
    (close env session controller).Gives fun after => Acts session .leave controller.roster after.roster := by
  obtain ⟨after, call, -⟩ := close_ends env session sound
  obtain ⟨partings, parting, same⟩ := close_does env held alive call
  rw [call]
  exact .of_does (same ▸ .leave held alive parting)

theorem sendAndClose_does (env : Env) (message : ToClient) (held : controller.sessions.find session = some client)
    (alive : client.state ≠ .zombie) (returned : sendAndClose env session message controller = .done after) :
    ∃ partings : List Output, (∀ output ∈ partings, output.Parting) ∧
      after.roster = ((controller.roster.say session client message).shut session).bury session
        { client with outboundMsgSeqNum := client.outboundMsgSeqNum + 1 } partings := by
  have sent := Controller.roster_sendToClient held message
  have heldSent : (controller.sendToClient session message).sessions.find session =
      some { client with outboundMsgSeqNum := client.outboundMsgSeqNum + 1 } := by
    have sessions := congrFun (congrArg Roster.session sent) session
    simpa [Roster.say, Controller.roster] using sessions
  obtain ⟨partings, parting, same⟩ := close_does env heldSent alive returned
  exact ⟨partings, parting, by rw [same, sent]⟩

private theorem sendAndClose_gives (env : Env) (message : ToClient) (held : controller.sessions.find session = some client)
    (alive : client.state ≠ .zombie) (sound : (controller.view answered).Sound) :
    (sendAndClose env session message controller).Gives fun after =>
      Acts session (.dismiss message) controller.roster after.roster := by
  obtain ⟨after, call, -⟩ := sendAndClose_ends env session message sound
  obtain ⟨partings, parting, same⟩ := sendAndClose_does env message held alive call
  rw [call]
  exact .of_does (same ▸ .dismiss held alive parting)

/-! What a session does in which state. -/

/-- What a session does when the timer ticks. -/
def Session.tick (now : Nanoseconds) (client : Session) : Deed :=
  match client.state with
  | .waitingLogon => if client.logonTimeout < now then .leave else .rest
  | .waitingCreateRoute | .waitingRemoveRoute =>
    if client.userResponseTimeout < now then .dismiss (.logout Texts.userResponseTimeout) else .rest
  | .ready =>
    if client.nextHeartbeat < now then
      if client.waitingForHeartbeat then .dismiss (.logout Texts.missingHeartbeat)
      else .say (.testRequest (toString now ++ "ns"))
    else .rest
  | .zombie => .rest

/-- What a session does when its connection is closed from within. -/
def Session.closing (client : Session) : Deed := if client.state = .zombie then .rest else .leave

/-- What a session does when its connection is gone. -/
def Session.ending (client : Session) : Deed := if client.state = .zombie then .rest else .vanish

/-- What a session may do with the answer to a user request. -/
def Session.Answers (env : Env) (status : UserStatus) (client : Session) (deed : Deed) : Prop :=
  match client.state with
  | .waitingLogon | .ready | .zombie => deed = .rest
  | .waitingCreateRoute => deed = if status = .loggedIn then .welcome (logonResponse env) else .vanish
  | .waitingRemoveRoute =>
    deed = .vanish ∨ status = .notLoggedIn ∧ deed = .dismiss (.logout Texts.goodbye)

end Client

def Deed.Refuses : Deed → Prop
  | .dismiss (.reject _) => True
  | _ => False

namespace Client
open Roster (Does Acts Calm Turn)
variable {controller after : Controller} {session : Nat} {client : Session} {answered : List String}

/-- What a session may do with a message, given the credentials that are known. -/
def Session.Heeds (env : Env) (clock : Clock) (header : Header) (shared : Shared) (session : Nat) (message : FromClient)
    (client : Session) (deed : Deed) : Prop :=
  match client.state with
  | .waitingLogon =>
    match message with
    | .reject => deed = .leave
    | .logon value =>
      deed.Refuses ∨ validateLogon env value header = none ∧ ∃ strategyId after,
        shared.sessionLogonHelper env.library.toLibrary env.settings clock.realtime session value.username
          value.password value.rawData = .ok (strategyId, after) ∧ deed = .enlist value.username (toString strategyId)
    | .tradingSessionStatusRequest _ | .unexpected _ => ∃ value, deed = .say (.response (.businessMessageReject value))
    | _ => deed.Refuses
  | .waitingCreateRoute =>
    match message with
    | .reject => deed = .leave
    | .testRequest testReqId => deed = .say (.heartbeat testReqId)
    | .tradingSessionStatusRequest _ | .unexpected _ => ∃ value, deed = .say (.response (.businessMessageReject value))
    | _ => deed.Refuses
  | .ready =>
    match message with
    | .reject => deed = .leave
    | .testRequest testReqId => deed = .say (.heartbeat testReqId)
    | .heartbeat => deed = .rest
    | .logout => deed = .depart
    | .tradingSessionStatusRequest _ | .unexpected _ => ∃ value, deed = .say (.response (.businessMessageReject value))
    | .request request =>
      (∃ response, deed = .say (.response response)) ∨
        request.Unparted ∧ ∃ sent, deed = .pass sent ∧ sent.key.1 = request.key.1 ∧
          sent.parties = (request.stamped (ownParties client)).parties
    | .resendRequest | .logon _ => deed.Refuses
  | .waitingRemoveRoute =>
    match message with
    | .reject => deed = .leave
    | .testRequest _ | .heartbeat => deed = .rest
    | .tradingSessionStatusRequest _ | .unexpected _ => ∃ value, deed = .say (.response (.businessMessageReject value))
    | _ => deed = .vanish
  | .zombie => deed = .rest

private theorem withSession_turn {allowed : Session → Deed → Prop} {body : Session → Controller → Outcome Controller}
    (runs : ∀ client, controller.sessions.find session = some client →
      (body client controller).Gives fun after => ∃ deed, allowed client deed ∧ Acts session deed controller.roster after.roster) :
    (withSession session body controller).Gives fun after => Turn allowed controller.roster session after.roster := by
  unfold withSession
  cases found : controller.sessions.find session with
  | none =>
    have absent : controller.roster.session session = none := found
    simp only [Turn, absent]
    exact rfl
  | some client =>
    have held : controller.roster.session session = some client := found
    simp only [Turn, held]
    exact runs client found

private theorem calm_updateSession (held : controller.sessions.find session = some client) {change : Session → Session}
    (same : (change client).identity = client.identity) :
    Calm session controller.roster (controller.updateSession session change).roster := by
  rw [Controller.roster_updateSession held]
  exact Roster.calm_record held same

theorem found_updateSession (held : controller.sessions.find session = some client) (change : Session → Session) :
    (controller.updateSession session change).sessions.find session = some (change client) := by
  simp [Controller.updateSession, held]

theorem sendToClient_acts (held : controller.sessions.find session = some client) (message : ToClient) :
    Acts session (.say message) controller.roster (controller.sendToClient session message).roster := by
  rw [Controller.roster_sendToClient held]
  exact .of_does (.say held)

/-! The timer. -/

theorem timer_turn (env : Env) (now : Nanoseconds) (sound : (controller.view answered).Sound) :
    (timer env now session controller).Gives fun after =>
      Turn (fun client deed => deed = client.tick now) controller.roster session after.roster := by
  refine withSession_turn fun client held => ?_
  have resting : ∃ deed, deed = Deed.rest ∧ Acts session deed controller.roster controller.roster :=
    ⟨.rest, rfl, .rest (.refl _)⟩
  unfold Session.tick
  cases state : client.state with
  | waitingLogon =>
    simp only
    split
    · exact (close_gives env held (by simp [state]) sound).mono fun _ acts => ⟨_, rfl, acts⟩
    · exact resting
  | waitingCreateRoute =>
    simp only
    split
    · exact (sendAndClose_gives env _ held (by simp [state]) sound).mono fun _ acts => ⟨_, rfl, acts⟩
    · exact resting
  | ready =>
    simp only
    split
    · have calm : Calm session controller.roster (controller.updateSession session fun client =>
          { client with nextHeartbeat := now + env.settings.clientHeartbeatFreq }).roster := calm_updateSession held rfl
      have foundSeen := found_updateSession held fun client =>
        { client with nextHeartbeat := now + env.settings.clientHeartbeatFreq }
      have soundSeen := Controller.view_updateSession_quiet answered controller session
        (fun client => { client with nextHeartbeat := now + env.settings.clientHeartbeatFreq }) fun _ => rfl
      rw [← soundSeen] at sound
      split
      · refine (sendAndClose_gives env _ foundSeen (by simp [state]) sound).mono fun _ acts => ?_
        exact ⟨_, rfl, acts.after calm⟩
      · refine ⟨_, rfl, ((sendToClient_acts foundSeen _).before ?_).after calm⟩
        have sent := Controller.roster_sendToClient foundSeen (.testRequest (toString now ++ "ns"))
        have foundSent := congrFun (congrArg Roster.session sent) session
        simp only [Roster.say, Function.update_self] at foundSent
        exact calm_updateSession foundSent rfl
    · exact resting
  | waitingRemoveRoute =>
    simp only
    split
    · exact (sendAndClose_gives env _ held (by simp [state]) sound).mono fun _ acts => ⟨_, rfl, acts⟩
    · exact resting
  | zombie => exact resting

theorem close_turn (env : Env) (sound : (controller.view answered).Sound) :
    (close env session controller).Gives fun after =>
      Turn (fun client deed => deed = client.closing) controller.roster session after.roster := by
  have closed := fun client => @close_gives controller session client answered env
  unfold close at closed ⊢
  refine withSession_turn fun client held => ?_
  specialize closed client held
  simp only [withSession, held] at closed
  unfold Session.closing
  by_cases zombie : client.state = .zombie
  · simp only [if_pos zombie]
    exact ⟨.rest, rfl, .rest (.refl _)⟩
  · simp only [if_neg zombie] at closed ⊢
    exact (closed zombie sound).mono fun _ acts => ⟨_, rfl, acts⟩

theorem makeZombie_turn (sound : (controller.view answered).Sound) :
    (makeZombie session controller).Gives fun after =>
      Turn (fun client deed => deed = client.ending) controller.roster session after.roster := by
  have buried := fun client => @makeZombie_gives controller session client answered
  unfold makeZombie at buried ⊢
  refine withSession_turn fun client held => ?_
  specialize buried client held
  simp only [withSession, held] at buried
  unfold Session.ending
  by_cases zombie : client.state = .zombie
  · simp only [zombie, if_true]
    exact ⟨.rest, rfl, .rest (.refl _)⟩
  · rw [if_neg zombie]
    exact (buried zombie sound).mono fun _ acts => ⟨_, rfl, acts⟩

/-! Answers to user requests. -/

theorem userResponse_turn (env : Env) (response : UserResponse) (sound : (controller.view answered).Sound) :
    (userResponse env response session controller).Gives fun after =>
      Turn (fun client deed => client.Answers env response.userStatus deed) controller.roster session after.roster := by
  refine withSession_turn fun client held => ?_
  have calm : Calm session controller.roster (controller.updateSession session fun client =>
      { client with userResponseTimeout := 0 }).roster := calm_updateSession held rfl
  have foundSeen := found_updateSession held fun client => { client with userResponseTimeout := 0 }
  have quiet := Controller.view_updateSession_quiet answered controller session
    (fun client => { client with userResponseTimeout := 0 }) fun _ => rfl
  rw [← quiet] at sound
  simp only
  generalize (controller.updateSession session fun client => { client with userResponseTimeout := 0 }) = seen
    at calm foundSeen sound ⊢
  have resting : ∃ deed, deed = Deed.rest ∧ Acts session deed controller.roster seen.roster :=
    ⟨.rest, rfl, .rest calm⟩
  have vanishing (alive : client.state ≠ .zombie) : (makeZombie session seen).Gives fun after =>
      Acts session .vanish controller.roster after.roster :=
    (makeZombie_gives foundSeen alive sound).mono fun _ acts => acts.after calm
  unfold Session.Answers
  cases state : client.state with
  | waitingLogon => exact resting
  | waitingCreateRoute =>
    cases status : response.userStatus with
    | loggedIn =>
      have heldSeen : seen.roster.session session = some { client with userResponseTimeout := 0 } := foundSeen
      have sent := Controller.roster_sendToClient foundSeen (.logon (logonResponse env))
      have foundSent := congrFun (congrArg Roster.session sent) session
      simp only [Roster.say, Function.update_self] at foundSent
      refine ⟨_, rfl, Acts.after calm (.of_does ?_)⟩
      have welcomed : (setState session .ready (seen.sendToClient session (.logon (logonResponse env)))).roster = _ :=
        Controller.roster_updateSession foundSent fun client => { client with state := .ready }
      rw [welcomed, sent]
      exact .welcome heldSeen state
    | notLoggedIn => exact (vanishing (by simp [state])).mono fun _ acts => ⟨_, by simp, acts⟩
    | other => exact (vanishing (by simp [state])).mono fun _ acts => ⟨_, by simp, acts⟩
  | ready => exact resting
  | waitingRemoveRoute =>
    have gone (status : UserStatus) : (makeZombie session seen).Gives fun after => ∃ deed,
        (deed = .vanish ∨ status = .notLoggedIn ∧ deed = .dismiss (.logout Texts.goodbye)) ∧
          Acts session deed controller.roster after.roster :=
      (vanishing (by simp [state])).mono fun after acts => ⟨_, Or.inl rfl, acts⟩
    cases status : response.userStatus with
    | loggedIn => exact gone _
    | notLoggedIn =>
      simp only
      cases logout : seen.shared.sessionLogoutHelper session with
      | error reason => simpa using gone .notLoggedIn
      | ok shared =>
        obtain ⟨username, named, released⟩ : ∃ username, seen.shared.sessionToUsername.find session = some username ∧
            shared = { seen.shared with
              usernameToSession := seen.shared.usernameToSession.erase username
              sessionToUsername := seen.shared.sessionToUsername.erase session } := by
          unfold Shared.sessionLogoutHelper at logout
          split at logout
          · cases logout
          · next username named =>
            simp only [Except.ok.injEq] at logout
            exact ⟨username, named, logout.symm⟩
        have same := view_shared answered (sessionLogoutHelper_frame logout)
        have alive : ({ client with userResponseTimeout := 0 } : Session).state ≠ .zombie := by simp [state]
        generalize ({ client with userResponseTimeout := 0 } : Session) = answering at foundSeen alive
        have foundReleased : ({ seen with shared } : Controller).sessions.find session = some answering := foundSeen
        rw [← same] at sound
        obtain ⟨after, call, -⟩ := sendAndClose_ends env session (.logout Texts.goodbye) sound
        obtain ⟨partings, parting, shape⟩ := sendAndClose_does env _ foundReleased alive call
        let closed : Roster := (seen.roster.say session answering (.logout Texts.goodbye)).shut session
        have forgotten : ((Controller.roster { seen with shared }).say session answering (.logout Texts.goodbye)).shut session =
            { closed with
              holder := Function.update closed.holder username none
              username := Function.update closed.username session none } := by
          subst released
          simp [closed, Roster.shut, Roster.say, Controller.roster]
        have closedNamed : closed.username session = some username := named
        have heldSeen : seen.roster.session session = some answering := foundSeen
        simp only
        rw [call]
        refine ⟨_, Or.inr ⟨trivial, rfl⟩, Acts.after calm (.of_does ?_)⟩
        rw [shape, forgotten, Roster.bury_released closedNamed]
        exact .dismiss heldSeen alive parting
    | other => exact gone _
  | zombie => exact resting

end Client

/-! Requests of a session that is ready. -/

namespace Controller
open Roster (Does Acts)
variable {controller : Controller} {session : Nat} {client : Client.Session} {request : Request}

/-- A session that is ready, with an upstream session that accepts its requests. -/
structure Attends (session : Nat) (client : Client.Session) (controller : Controller) : Prop where
  held : controller.sessions.find session = some client
  ready : client.state = .ready
  upstream : controller.serverSession.state = .ready

/-- The session is told something about a request, or the request is passed on with its parties. -/
def Serves (request : Request) (deed : Deed) : Prop :=
  (∃ response, deed = .say (.response response)) ∨
    ∃ sent, deed = .pass sent ∧ sent.key.1 = request.key.1 ∧ sent.parties = request.parties

def Serviced (session : Nat) (request : Request) (before : Controller) (outcome : Outcome Controller) : Prop :=
  outcome.Gives fun after => ∃ deed, Serves request deed ∧ Acts session deed before.roster after.roster

/-- Every reject is one message to the session, with an id drawn for it or not. -/
def Rejects (session : Nat) (reject : Controller → Controller) : Prop :=
  ∀ controller, ∃ response, reject controller = controller.dispatchToClient response session ∨
    reject controller = controller.createRequestId.2.dispatchToClient response session

private theorem dispatchToClient_serviced (attends : Attends session client controller) (response : Response) :
    Serviced session request controller (.done (controller.dispatchToClient response session)) := by
  refine ⟨_, Or.inl ⟨response, rfl⟩, ?_⟩
  have sent : controller.dispatchToClient response session = controller.sendToClient session (.response response) := by
    simp [dispatchToClient, attends.held, attends.ready]
  rw [sent]
  exact Client.sendToClient_acts attends.held _

private theorem Rejects.serviced {reject : Controller → Controller} (rejects : Rejects session reject)
    (attends : Attends session client controller) : Serviced session request controller (.done (reject controller)) := by
  obtain ⟨response, same | same⟩ := rejects controller
  · rw [same]
    exact dispatchToClient_serviced attends response
  · rw [same]
    have drawn : Attends session client controller.createRequestId.2 := ⟨attends.held, attends.ready, attends.upstream⟩
    exact dispatchToClient_serviced drawn response

private theorem passed_serviced (attends : Attends session client controller) {sent : Request}
    {next : Controller → Outcome Controller} (name : sent.key.1 = request.key.1) (parties : sent.parties = request.parties)
    (quiet : ∀ controller, (next controller).Gives fun after => after.roster = controller.roster) :
    Serviced session request controller ((controller.dispatchToServer (.request sent)).andThen next) := by
  unfold dispatchToServer
  rw [if_pos attends.upstream, Outcome.andThen_done]
  refine (quiet _).mono fun after same => ⟨.pass sent, Or.inr ⟨sent, rfl, name, parties⟩, ?_⟩
  rw [same]
  exact .of_does (.pass attends.held attends.ready)

theorem roster_removeReqId (name : MappingName) (reqId : String) (controller : Controller) :
    (controller.removeReqId name reqId).roster = controller.roster := by
  unfold removeReqId
  split
  · rfl
  · simp only
    split <;> rfl

private theorem entry_quiet (exists_ : Option String) (name : MappingName) (reqId requestId : String) (session : Nat)
    (keepAlive : Bool) (controller : Controller) :
    (if exists_.isSome then Outcome.done (controller.removeReqId name requestId)
      else .done (controller.addReqId name reqId requestId session keepAlive)).Gives
        fun after => after.roster = controller.roster := by
  split
  · exact roster_removeReqId ..
  · exact rfl

private theorem subscription_serviced (attends : Attends session client controller) {name : MappingName} {reqId : String}
    {isValid : Bool} {type : SubscriptionRequestType} {invalid unknown duplicate missing : Controller → Controller}
    {dispatch : Option String → Bool → Controller → Outcome Controller} (rejectsInvalid : Rejects session invalid)
    (rejectsUnknown : Rejects session unknown) (rejectsDuplicate : Rejects session duplicate)
    (rejectsMissing : Rejects session missing)
    (dispatches : ∀ exists_ keepAlive controller, Attends session client controller →
      Serviced session request controller (dispatch exists_ keepAlive controller)) :
    Serviced session request controller
      (subscription name session reqId isValid type invalid unknown duplicate missing dispatch controller) := by
  unfold subscription
  split
  · exact rejectsInvalid.serviced attends
  · have touched : Attends session client (controller.touch name session) := ⟨attends.held, attends.ready, attends.upstream⟩
    show Serviced session request (controller.touch name session) _
    simp only
    cases type with
    | undefined => exact rejectsUnknown.serviced touched
    | unknown => exact rejectsUnknown.serviced touched
    | snapshot =>
      simp only
      split
      · exact rejectsDuplicate.serviced touched
      · exact dispatches _ _ _ touched
    | snapshotUpdates =>
      simp only
      split
      · exact rejectsDuplicate.serviced touched
      · exact dispatches _ _ _ touched
    | unsubscribe =>
      simp only
      split
      · exact dispatches _ _ _ touched
      · exact rejectsMissing.serviced touched

private theorem dispatchSubscription_serviced (attends : Attends session client controller) {name : MappingName}
    {reqId : String} {sent : String → Request} {exists_ : Option String} {keepAlive : Bool}
    (kind : ∀ id, (sent id).key.1 = request.key.1 ∧ (sent id).parties = request.parties) :
    Serviced session request controller (dispatchSubscription name session reqId sent exists_ keepAlive controller) := by
  have drawn : Attends session client controller.createRequestId.2 := ⟨attends.held, attends.ready, attends.upstream⟩
  exact passed_serviced drawn (kind _).1 (kind _).2 fun _ => entry_quiet ..

private theorem dispatchPositions_serviced (attends : Attends session client controller) (value : RequestForPositions)
    {exists_ : Option String} {keepAlive : Bool} :
    Serviced session (.requestForPositions value) controller
      (dispatchPositions session value exists_ keepAlive controller) := by
  unfold dispatchPositions
  cases exists_ with
  | none =>
    have drawn : Attends session client controller.createRequestId.2 := ⟨attends.held, attends.ready, attends.upstream⟩
    exact @passed_serviced _ _ _ (.requestForPositions value) drawn
      (.requestForPositions { value with posReqId := controller.createRequestId.1 }) _ rfl rfl fun _ => rfl
  | some requestId =>
    refine @passed_serviced _ _ _ (.requestForPositions value) attends
      (.requestForPositions { value with posReqId := requestId }) _ rfl rfl fun _ => ?_
    simp only [Option.isSome_some, if_true]
    split
    · exact rfl
    · trivial

private theorem dispatchTrades_serviced (attends : Attends session client controller) (value : TradeCaptureReportRequest)
    {exists_ : Option String} {keepAlive : Bool} :
    Serviced session (.tradeCaptureReportRequest value) controller
      (dispatchTrades session value exists_ keepAlive controller) :=
  @passed_serviced _ _ _ (.tradeCaptureReportRequest value) attends (.tradeCaptureReportRequest
    { value with
      tradeRequestId := FixProxy.createRequestId (getClientFromParties value.noPartyIds) value.tradeRequestId })
    _ rfl rfl fun _ => entry_quiet ..

private theorem orderRequest_serviced (attends : Attends session client controller) {name : MappingName} {reqId : String}
    {isValid : Bool} {invalid duplicate : Controller → Controller} {clientId : String} {sent : String → Request}
    {keepAlive : Bool} (rejectsInvalid : Rejects session invalid) (rejectsDuplicate : Rejects session duplicate)
    (kind : ∀ id, (sent id).key.1 = request.key.1 ∧ (sent id).parties = request.parties) :
    Serviced session request controller
      (orderRequest name session reqId isValid invalid duplicate clientId sent keepAlive controller) := by
  unfold orderRequest
  split
  · exact rejectsInvalid.serviced attends
  · have touched : Attends session client (controller.touch name session) := ⟨attends.held, attends.ready, attends.upstream⟩
    show Serviced session request (controller.touch name session) _
    simp only
    split
    · exact rejectsDuplicate.serviced touched
    · exact passed_serviced touched (kind _).1 (kind _).2 fun _ => rfl

private theorem orderStatusRequest_serviced (attends : Attends session client controller) (value : OrderStatusRequest) :
    Serviced session (.orderStatusRequest value) controller (orderStatusRequest value session controller) := by
  have rejects text : Rejects session (rejectOrderStatusRequest value session text) := fun _ => ⟨_, Or.inr rfl⟩
  unfold orderStatusRequest
  simp only
  split
  · exact (rejects _).serviced attends
  · have touched : Attends session client (controller.touch .ordStatusReqId session) :=
      ⟨attends.held, attends.ready, attends.upstream⟩
    show Serviced session (.orderStatusRequest value) (controller.touch .ordStatusReqId session) _
    split
    · exact (rejects _).serviced touched
    · refine @passed_serviced _ _ _ (.orderStatusRequest value) touched (.orderStatusRequest
        { value with
          ordStatusReqId := FixProxy.createRequestId (getClientFromParties value.noPartyIds) value.ordStatusReqId
          clOrdId := FixProxy.createRequestId (getClientFromParties value.noPartyIds) value.clOrdId }) _ rfl rfl fun _ => ?_
      split
      · exact rfl
      · exact rfl

private theorem request_serviced (attends : Attends session client controller) (request : Request) :
    Serviced session request controller (Controller.request request session controller) := by
  cases request with
  | securityListRequest value =>
    have rejects : Rejects session (rejectSecurityListRequest value session) := fun _ => ⟨_, Or.inr rfl⟩
    exact subscription_serviced attends rejects rejects rejects rejects fun _ _ _ attends =>
      dispatchSubscription_serviced attends fun _ => ⟨rfl, rfl⟩
  | securityDefinitionRequest value =>
    have rejects : Rejects session (rejectSecurityDefinitionRequest value session) := fun _ => ⟨_, Or.inr rfl⟩
    exact subscription_serviced attends rejects rejects rejects rejects fun _ _ _ attends =>
      dispatchSubscription_serviced attends fun _ => ⟨rfl, rfl⟩
  | securityStatusRequest value =>
    have rejects : Rejects session (rejectSecurityStatusRequest value session) := fun _ => ⟨_, Or.inl rfl⟩
    exact subscription_serviced attends rejects rejects rejects rejects fun _ _ _ attends =>
      dispatchSubscription_serviced attends fun _ => ⟨rfl, rfl⟩
  | marketDataRequest value =>
    have rejects reason text : Rejects session (rejectMarketDataRequest value session reason text) :=
      fun _ => ⟨_, Or.inl rfl⟩
    exact subscription_serviced attends (rejects _ _) (rejects _ _) (rejects _ _) (rejects _ _) fun _ _ _ attends =>
      dispatchSubscription_serviced attends fun _ => ⟨rfl, rfl⟩
  | orderStatusRequest value => exact orderStatusRequest_serviced attends value
  | newOrderSingle value =>
    have rejects text : Rejects session (rejectNewOrderSingle value session text) := fun _ => ⟨_, Or.inr rfl⟩
    exact orderRequest_serviced attends (rejects _) (rejects _) fun _ => ⟨rfl, rfl⟩
  | orderCancelReplaceRequest value =>
    have rejects reason text : Rejects session (rejectOrderCancel value.clOrdId value.origClOrdId value.account
        .orderCancelReplaceRequest session reason text) := fun _ => ⟨_, Or.inl rfl⟩
    exact orderRequest_serviced attends (rejects _ _) (rejects _ _) fun _ => ⟨rfl, rfl⟩
  | orderCancelRequest value =>
    have rejects reason text : Rejects session (rejectOrderCancel value.clOrdId value.origClOrdId value.account
        .orderCancelRequest session reason text) := fun _ => ⟨_, Or.inl rfl⟩
    exact orderRequest_serviced attends (rejects _ _) (rejects _ _) fun _ => ⟨rfl, rfl⟩
  | orderMassStatusRequest value =>
    have rejects text : Rejects session (rejectOrderMassStatusRequest value session text) := fun _ => ⟨_, Or.inr rfl⟩
    exact orderRequest_serviced attends (rejects _) (rejects _) fun _ => ⟨rfl, rfl⟩
  | orderMassCancelRequest value =>
    have rejects text : Rejects session (rejectOrderMassCancelRequest value session text) := fun _ => ⟨_, Or.inl rfl⟩
    exact orderRequest_serviced attends (rejects _) (rejects _) fun _ => ⟨rfl, rfl⟩
  | requestForPositions value =>
    have rejects text : Rejects session (rejectRequestForPositions value session text) := fun _ => ⟨_, Or.inr rfl⟩
    exact subscription_serviced attends (rejects _) (rejects _) (rejects _) (rejects _) fun _ _ _ attends =>
      dispatchPositions_serviced attends value
  | tradeCaptureReportRequest value =>
    have rejects text : Rejects session (rejectTradeCaptureReportRequest value session text) := fun _ => ⟨_, Or.inr rfl⟩
    exact subscription_serviced attends (rejects _) (rejects _) (rejects _) (rejects _) fun _ _ _ attends =>
      dispatchTrades_serviced attends value

end Controller

/-! Messages. -/

namespace Client
open Roster (Does Acts Calm Turn)
variable {controller after : Controller} {session : Nat} {client : Session} {answered : List String} {clock : Clock}

private theorem heeds_of_identity {env : Env} {header : Header} {shared : Shared} {message : FromClient} {other : Session}
    (same : other.identity = client.identity) {deed : Deed} (heeds : other.Heeds env clock header shared session message deed) :
    client.Heeds env clock header shared session message deed := by
  have state := Session.state_of_identity same
  unfold Session.Heeds at heeds ⊢
  rw [state] at heeds
  cases held : client.state with
  | ready =>
    have party := (Session.party_of_identity same (by simp [held])).2
    rw [held] at heeds
    unfold ownParties at heeds ⊢
    rw [party] at heeds
    exact heeds
  | _ =>
    rw [held] at heeds
    exact heeds

private theorem refuses_gives (env : Env) (header : Header) (msgType : MsgType) (text : String)
    (held : controller.sessions.find session = some client) (alive : client.state ≠ .zombie)
    (sound : (controller.view answered).Sound) :
    (sendRejectAndClose env session header msgType text controller).Gives fun after =>
      ∃ deed : Deed, deed.Refuses ∧ Acts session deed controller.roster after.roster := by
  refine (sendAndClose_gives env _ held alive sound).mono fun _ acts => ⟨_, ?_, acts⟩
  trivial

theorem rests (roster : Roster) : ∃ deed, deed = Deed.rest ∧ Acts session deed roster roster :=
  ⟨.rest, rfl, .rest (.refl _)⟩

private theorem testRequest_turn (env : Env) (shared : Shared) (testReqId : String) (header : Header)
    (sound : (controller.view answered).Sound) :
    (testRequest env testReqId header session controller).Gives fun after =>
      Turn (fun client deed => client.Heeds env clock header shared session (.testRequest testReqId) deed) controller.roster
        session after.roster := by
  refine withSession_turn fun client held => ?_
  unfold Session.Heeds
  cases state : client.state with
  | waitingLogon => exact refuses_gives env header _ _ held (by simp [state]) sound
  | waitingCreateRoute => exact ⟨_, rfl, sendToClient_acts held _⟩
  | ready => exact ⟨_, rfl, sendToClient_acts held _⟩
  | waitingRemoveRoute => exact rests _
  | zombie => exact rests _

private theorem resendRequest_turn (env : Env) (shared : Shared) (header : Header)
    (sound : (controller.view answered).Sound) :
    (resendRequest env header session controller).Gives fun after =>
      Turn (fun client deed => client.Heeds env clock header shared session .resendRequest deed) controller.roster
        session after.roster := by
  refine withSession_turn fun client held => ?_
  unfold Session.Heeds
  cases state : client.state with
  | waitingLogon => exact refuses_gives env header _ _ held (by simp [state]) sound
  | waitingCreateRoute => exact refuses_gives env header _ _ held (by simp [state]) sound
  | ready => exact refuses_gives env header _ _ held (by simp [state]) sound
  | waitingRemoveRoute => exact (makeZombie_gives held (by simp [state]) sound).mono fun _ acts => ⟨_, rfl, acts⟩
  | zombie => exact rests _

private theorem heartbeat_turn (env : Env) (shared : Shared) (header : Header) (sound : (controller.view answered).Sound) :
    (heartbeat env header session controller).Gives fun after =>
      Turn (fun client deed => client.Heeds env clock header shared session .heartbeat deed) controller.roster
        session after.roster := by
  refine withSession_turn fun client held => ?_
  unfold Session.Heeds
  cases state : client.state with
  | waitingLogon => exact refuses_gives env header _ _ held (by simp [state]) sound
  | waitingCreateRoute => exact refuses_gives env header _ _ held (by simp [state]) sound
  | ready => exact ⟨_, rfl, .rest (calm_updateSession held rfl)⟩
  | waitingRemoveRoute => exact rests _
  | zombie => exact rests _

private theorem businessMessageReject_turn (env : Env) (shared : Shared) {message : FromClient} {header : Header}
    {msgType : MsgType} {refId : String} {text : String}
    (unsupported : (∃ tradSesReqId, message = .tradingSessionStatusRequest tradSesReqId) ∨
      ∃ msgType, message = .unexpected msgType)
    (alive : ∀ client, controller.sessions.find session = some client → client.state ≠ .zombie) :
    Turn (fun client deed => client.Heeds env clock header shared session message deed) controller.roster session
      (sendBusinessMessageReject session header msgType refId .unsupportedMessageType text controller).roster := by
  unfold Turn
  cases found : controller.sessions.find session with
  | none =>
    have absent : controller.roster.session session = none := found
    simp only [absent, sendBusinessMessageReject, Controller.sendToClient, found]
  | some client =>
    have held : controller.roster.session session = some client := found
    simp only [held]
    refine ⟨_, ?_, sendToClient_acts found _⟩
    unfold Session.Heeds
    have departed := alive client found
    rcases unsupported with ⟨tradSesReqId, rfl⟩ | ⟨msgType, rfl⟩
    · cases state : client.state with
      | zombie => exact absurd state departed
      | _ => exact ⟨_, rfl⟩
    · cases state : client.state with
      | zombie => exact absurd state departed
      | _ => exact ⟨_, rfl⟩

/-! Logging on and off. -/

private theorem registerUserRequest_done {request : UserRequest}
    (returned : controller.registerUserRequest request session = .done after) :
    after.roster = controller.roster.tell (controller.serverSession.outboundMsgSeqNum + 1) (.userRequest request) := by
  unfold Controller.registerUserRequest Controller.dispatchToServer at returned
  simp only at returned
  split at returned
  · split at returned
    · cases returned
      rfl
    · cases returned
  · cases returned

private theorem registerUserRequest_thrown {request : UserRequest} {what : String}
    (thrown : controller.registerUserRequest request session = .thrown what after) :
    after.roster = controller.roster := by
  unfold Controller.registerUserRequest Controller.dispatchToServer at thrown
  simp only at thrown
  split at thrown
  · split at thrown
    · cases thrown
    · cases thrown
      rfl
  · cases thrown

private theorem logout_turn (env : Env) (shared : Shared) (header : Header) (now : Nanoseconds)
    (consistent : (controller.view answered).Consistent) :
    (logout env header now session controller).Gives fun after =>
      Turn (fun client deed => client.Heeds env clock header shared session .logout deed) controller.roster
        session after.roster := by
  have sound := consistent.sound
  have returns : (logout env header now session controller).Gives fun _ => True :=
    (Outcome.Gives.of_leaves (logout_leaves env header now consistent)).mono fun _ _ => trivial
  unfold logout at returns ⊢
  refine withSession_turn fun client held => ?_
  rw [withSession, held] at returns
  unfold Session.Heeds
  cases state : client.state with
  | waitingLogon => exact refuses_gives env header _ _ held (by simp [state]) sound
  | waitingCreateRoute => exact refuses_gives env header _ _ held (by simp [state]) sound
  | ready =>
    simp only [state] at returns ⊢
    generalize requested : controller.createRequestId.2.userRequest _ session = outcome at returns ⊢
    cases outcome with
    | thrown what last => exact returns.elim
    | fatal what => trivial
    | done last =>
      have told := registerUserRequest_done requested
      have found : last.sessions.find session = some client := (congrFun (congrArg Roster.session told) session).trans held
      have heldBefore : controller.roster.session session = some client := held
      have departs := @Does.depart session controller.roster client controller.createRequestId.1
        (controller.serverSession.outboundMsgSeqNum + 1) heldBefore state
      let departed : Session :=
        { client with
          state := .waitingRemoveRoute
          userResponseTimeout := now + env.settings.serverRequestTimeout }
      have same : departed.identity = Session.identity { client with state := .waitingRemoveRoute } := rfl
      refine ⟨_, rfl, departs.timed (Function.update_self ..) same ?_⟩
      rw [Controller.roster_updateSession found, told]
      simp [Roster.tell, Controller.roster, Controller.createRequestId, Shared.createRequestId, departed]
  | waitingRemoveRoute => exact (makeZombie_gives held (by simp [state]) sound).mono fun _ acts => ⟨_, rfl, acts⟩
  | zombie => exact rests _

/-- Credentials are accepted only for a username that nobody holds. -/
private theorem sessionLogonHelper_ok {library : Crypto.Library} {settings : Settings} {now : BitVec 64}
    {username password rawData : String} {strategyId : Nat} {shared accepted : Shared}
    (logon : shared.sessionLogonHelper library settings now session username password rawData = .ok (strategyId, accepted)) :
    shared.usernameToSession.find username = none ∧
      accepted = { shared with
        usernameToSession := shared.usernameToSession.tryEmplace username session
        sessionToUsername := shared.sessionToUsername.tryEmplace session username } := by
  unfold Shared.sessionLogonHelper at logon
  split at logon
  · cases logon
  · split at logon
    · cases logon
    · split at logon
      · cases logon
      · next free =>
        simp only [Except.ok.injEq, Prod.mk.injEq] at logon
        exact ⟨by simpa using free, logon.2.symm⟩

/-- The roster once a session has its name. -/
def nominated (session : Nat) (client : Session) (username party : String) (roster : Roster) : Roster :=
  { roster.record session { client with username, partyId := party } with
    holder := Function.update roster.holder username (some session)
    username := Function.update roster.username session (some username) }

theorem userRequest_logOn_done {userRequestId username : String}
    (returned : controller.userRequest { userRequestId, userRequestType := .logOnUser, username } session = .done after) :
    after.roster = controller.roster.tell (controller.serverSession.outboundMsgSeqNum + 1)
      (.userRequest ⟨userRequestId, .logOnUser, username⟩) := by
  unfold Controller.userRequest at returned
  simp only at returned
  split at returned
  · cases returned
  · exact registerUserRequest_done returned

theorem userRequest_logOn_thrown {userRequestId username what : String}
    (thrown : controller.userRequest { userRequestId, userRequestType := .logOnUser, username } session =
      .thrown what after) : after.roster = controller.roster := by
  unfold Controller.userRequest at thrown
  simp only at thrown
  split at thrown
  · cases thrown
    rfl
  · exact registerUserRequest_thrown thrown

private theorem logonAccepted_does (env : Env) {value : Logon} {header : Header} {now : Nanoseconds} {strategyId : Nat}
    {realtime : BitVec 64} {accepted : Shared} {last : Controller} (held : controller.sessions.find session = some client)
    (arriving : client.state = .waitingLogon) (unnamed : controller.roster.username session = none)
    (logon : controller.shared.sessionLogonHelper env.library.toLibrary env.settings realtime session value.username
      value.password value.rawData = .ok (strategyId, accepted))
    (returned : logonAccepted env value header now strategyId session { controller with shared := accepted } = .done last) :
    ∃ deed : Deed, (deed.Refuses ∨ deed = .enlist value.username (toString strategyId)) ∧
      Acts session deed controller.roster last.roster := by
  obtain ⟨free, shape⟩ := sessionLogonHelper_ok logon
  have holder : controller.roster.holder value.username = none := free
  have heldBefore : controller.roster.session session = some client := held
  let named : Session := { client with username := value.username, partyId := toString strategyId }
  let seen : Controller := ({ controller with shared := accepted } : Controller).updateSession session fun client =>
    { client with username := value.username, partyId := toString strategyId }
  let drawn : Controller := seen.createRequestId.2
  have roster : drawn.roster = nominated session client value.username (toString strategyId) controller.roster := by
    have unnamed : controller.shared.sessionToUsername.find session = none := unnamed
    simp [drawn, seen, shape, nominated, Controller.roster, Controller.createRequestId, Shared.createRequestId,
      Controller.updateSession, held, emplace_of_none free, emplace_of_none unnamed]
  have heldDrawn : drawn.sessions.find session = some named :=
    Controller.found_of_roster roster (Function.update_self ..)
  unfold logonAccepted at returned
  simp only at returned
  generalize requested : Controller.userRequest _ session _ = outcome at returned
  cases outcome with
  | fatal what => cases returned
  | done asked =>
    cases returned
    have told := userRequest_logOn_done requested
    have heldAsked : asked.sessions.find session = some named := Controller.found_of_roster told heldDrawn
    have admits := @Does.enlist session controller.roster client value.username (toString strategyId)
      seen.createRequestId.1 (drawn.serverSession.outboundMsgSeqNum + 1) heldBefore arriving holder unnamed
    let admitted : Session :=
      { named with
        state := .waitingCreateRoute
        userResponseTimeout := now + env.settings.serverRequestTimeout }
    have same : admitted.identity = Session.identity
        { client with state := .waitingCreateRoute, username := value.username, partyId := toString strategyId } := rfl
    refine ⟨_, Or.inr rfl, admits.timed (Function.update_self ..) same ?_⟩
    have timed : _ = asked.roster.record session admitted := Controller.roster_updateSession heldAsked fun client =>
      { client with
        state := .waitingCreateRoute
        userResponseTimeout := now + env.settings.serverRequestTimeout }
    have whole : asked.roster = drawn.roster.tell (drawn.serverSession.outboundMsgSeqNum + 1)
      (.userRequest ⟨seen.createRequestId.1, .logOnUser, toString strategyId⟩) := told
    rw [timed, whole, roster]
    simp [nominated, Roster.tell]
  | thrown what refused =>
    have same : refused.roster = drawn.roster := userRequest_logOn_thrown requested
    have heldRefused := Controller.found_of_roster (same.trans roster) (Function.update_self ..)
    obtain ⟨partings, parting, closed⟩ := sendAndClose_does env _ heldRefused (by simp [arriving]) returned
    refine ⟨.dismiss (.reject { refSeqNum := header.msgSeqNum, text := what, refMsgType := .logon }), Or.inl trivial, ?_⟩
    let reject : ToClient := .reject { refSeqNum := header.msgSeqNum, text := what, refMsgType := .logon }
    let renamed : Roster := controller.roster.record session named
    let shut : Roster := ((nominated session client value.username (toString strategyId) controller.roster).say session
      named reject).shut session
    have freed := @Roster.bury_released session value.username shut (Function.update_self ..)
      { named with outboundMsgSeqNum := named.outboundMsgSeqNum + 1 } partings
    have calm : Calm session controller.roster renamed := Roster.calm_record heldBefore (by
      simp [named, Session.identity, arriving])
    have dismisses := @Does.dismiss session renamed named reject partings (Function.update_self ..)
      (by simp [named, arriving]) parting
    refine ⟨renamed, last.roster, calm, ?_, .refl _⟩
    have buried : last.roster = shut.bury session { named with outboundMsgSeqNum := named.outboundMsgSeqNum + 1 } partings := by
      rw [closed, same, roster]
    have unchanged : Function.update (Function.update controller.roster.holder value.username (some session)) value.username
        none = controller.roster.holder := by
      rw [Function.update_idem, ← holder, Function.update_eq_self]
    have unnamedAgain : Function.update (Function.update controller.roster.username session (some value.username)) session
        none = controller.roster.username := by
      rw [Function.update_idem, ← unnamed, Function.update_eq_self]
    have forgotten : ({ shut with
        holder := Function.update shut.holder value.username none
        username := Function.update shut.username session none } : Roster) =
          (renamed.say session named reject).shut session := by
      simp only [shut, Roster.shut, Roster.say, nominated, renamed, unchanged, unnamedAgain]
      simp [named]
    rw [buried, ← freed, forgotten]
    exact dismisses

/-- A session that waits for its logon is nobody's yet. -/
def Unnamed (session : Nat) (controller : Controller) : Prop :=
  ∀ client, controller.sessions.find session = some client → client.state = .waitingLogon →
    controller.roster.username session = none

private theorem logon_turn (env : Env) (value : Logon) (header : Header) (clock : Clock)
    (consistent : (controller.view answered).Consistent) (unnamed : Unnamed session controller) :
    (logon env value header clock session controller).Gives fun after =>
      Turn (fun client deed => client.Heeds env clock header controller.shared session (.logon value) deed) controller.roster
        session after.roster := by
  have sound := consistent.sound
  have returns : (logon env value header clock session controller).Gives fun _ => True :=
    (Outcome.Gives.of_leaves (logon_leaves env value header clock consistent)).mono fun _ _ => trivial
  unfold logon at returns ⊢
  refine withSession_turn fun client held => ?_
  rw [withSession, held] at returns
  unfold Session.Heeds
  cases state : client.state with
  | waitingLogon =>
    simp only [state] at returns ⊢
    let seen : Session := { client with compId := header.senderCompId }
    have calm : Calm session controller.roster (controller.updateSession session fun client =>
        { client with compId := header.senderCompId }).roster := calm_updateSession held rfl
    have foundSeen : (controller.updateSession session fun client =>
        { client with compId := header.senderCompId }).sessions.find session = some seen :=
      found_updateSession held fun client => { client with compId := header.senderCompId }
    have quiet := Controller.view_updateSession_quiet answered controller session
      (fun client => { client with compId := header.senderCompId }) fun _ => rfl
    have shared : (controller.updateSession session fun client =>
        { client with compId := header.senderCompId }).shared = controller.shared := rfl
    rw [← quiet] at sound
    have stillUnnamed : (controller.updateSession session fun client =>
        { client with compId := header.senderCompId }).roster.username session = none := unnamed client held state
    rw [← shared]
    generalize (controller.updateSession session fun client =>
      { client with compId := header.senderCompId }) = received at *
    have refuses (text : String) : (sendRejectAndClose env session header .logon text received).Gives fun after =>
        ∃ deed : Deed, (deed.Refuses ∨ validateLogon env value header = none ∧ ∃ strategyId accepted,
          received.shared.sessionLogonHelper env.library.toLibrary env.settings clock.realtime session value.username
            value.password value.rawData = .ok (strategyId, accepted) ∧
            deed = .enlist value.username (toString strategyId)) ∧ Acts session deed controller.roster after.roster := by
      refine (refuses_gives env header _ _ foundSeen (by simp [seen, state]) sound).mono fun after refused => ?_
      obtain ⟨deed, refuses, acts⟩ := refused
      exact ⟨deed, Or.inl refuses, acts.after calm⟩
    split at returns
    · exact refuses _
    · next valid =>
      split at returns
      · exact refuses _
      · next strategyId accepted logon =>
        generalize call : logonAccepted env value header clock.system strategyId session
          { received with shared := accepted } = outcome at returns ⊢
        cases outcome with
        | thrown what last => exact returns.elim
        | fatal what => trivial
        | done last =>
          obtain ⟨deed, admits, acts⟩ := logonAccepted_does env foundSeen state stillUnnamed logon call
          refine ⟨deed, admits.imp id fun admitted => ⟨valid, strategyId, accepted, logon, admitted⟩, acts.after calm⟩
  | waitingCreateRoute => exact refuses_gives env header _ _ held (by simp [state]) sound
  | ready => exact refuses_gives env header _ _ held (by simp [state]) sound
  | waitingRemoveRoute => exact (makeZombie_gives held (by simp [state]) sound).mono fun _ acts => ⟨_, rfl, acts⟩
  | zombie => exact rests _

/-! Business messages. -/

private theorem request_business (env : Env) (value : Request) (header : Header) (session : Nat) : ∃ msgType ready,
    request env value header session = business env msgType header session ready := by
  cases value <;> exact ⟨_, _, rfl⟩

private theorem request_turn (env : Env) (shared : Shared) (value : Request) (header : Header)
    (sound : (controller.view answered).Sound) :
    (request env value header session controller).Gives fun after =>
      Turn (fun client deed => client.Heeds env clock header shared session (.request value) deed) controller.roster
        session after.roster := by
  have ready := fun client => @request_ready env controller session client header value
  obtain ⟨msgType, handler, same⟩ := request_business env value header session
  rw [same] at ready ⊢
  unfold business at ready ⊢
  refine withSession_turn fun client held => ?_
  specialize ready client held
  rw [withSession, held] at ready
  unfold Session.Heeds
  cases state : client.state with
  | waitingLogon => exact refuses_gives env header _ _ held (by simp [state]) sound
  | waitingCreateRoute => exact refuses_gives env header _ _ held (by simp [state]) sound
  | ready =>
    simp only [state] at ready ⊢
    rcases ready trivial with ⟨refType, refId, reason, text, refused⟩ | ⟨unparted, passed⟩
    · rw [refused]
      exact ⟨_, Or.inl ⟨_, rfl⟩, sendToClient_acts held _⟩
    · have shape : (controller.view answered).session session = some (.ready, client.partyId) := by
        simp [Controller.view, held, Session.shape, state]
      have upstream : controller.serverSession.state = .ready := sound.connected session .ready _ shape trivial
      rw [passed]
      refine (Controller.request_serviced ⟨held, state, upstream⟩ _).mono fun after serviced => ?_
      obtain ⟨deed, said | ⟨sent, passes, name, parties⟩, acts⟩ := serviced
      · exact ⟨deed, Or.inl said, acts⟩
      · have kind : sent.key.1 = value.key.1 := name.trans (congrArg Prod.fst (stamped_kindred value _).1)
        exact ⟨deed, Or.inr ⟨unparted, sent, passes, kind, parties⟩, acts⟩
  | waitingRemoveRoute => exact (makeZombie_gives held (by simp [state]) sound).mono fun _ acts => ⟨_, rfl, acts⟩
  | zombie => exact rests _

private theorem dispatch_turn (env : Env) (message : FromClient) (header : Header) (clock : Clock)
    (held : controller.sessions.find session = some client) (alive : client.state ≠ .zombie)
    (consistent : (controller.view answered).Consistent) (unnamed : Unnamed session controller) :
    (match message with
      | .testRequest testReqId => testRequest env testReqId header session controller
      | .resendRequest => resendRequest env header session controller
      | .reject => close env session controller
      | .heartbeat => heartbeat env header session controller
      | .logon value => logon env value header clock session controller
      | .logout => logout env header clock.system session controller
      | .tradingSessionStatusRequest tradSesReqId =>
        .done (sendBusinessMessageReject session header .tradingSessionStatusRequest tradSesReqId
          .unsupportedMessageType Texts.unexpectedMsgType controller)
      | .request value => request env value header session controller
      | .unexpected msgType =>
        .done (sendBusinessMessageReject session header msgType ""
          .unsupportedMessageType Texts.unexpectedMsgType controller) : Outcome Controller).Gives fun after =>
      Turn (fun client deed => client.Heeds env clock header controller.shared session message deed) controller.roster
        session after.roster := by
  have sound := consistent.sound
  have lives other (found : controller.sessions.find session = some other) : other.state ≠ .zombie := by
    rw [held] at found
    exact Option.some.inj found ▸ alive
  cases message with
  | testRequest testReqId => exact testRequest_turn env _ testReqId header sound
  | resendRequest => exact resendRequest_turn env _ header sound
  | reject =>
    refine (close_gives env held alive sound).mono fun after acts => ?_
    have heldBefore : controller.roster.session session = some client := held
    unfold Turn
    rw [heldBefore]
    refine ⟨.leave, ?_, acts⟩
    show client.Heeds env clock header controller.shared session .reject .leave
    unfold Session.Heeds
    cases state : client.state with
    | zombie => exact absurd state alive
    | _ => trivial
  | heartbeat => exact heartbeat_turn env _ header sound
  | logon value => exact logon_turn env value header clock consistent unnamed
  | logout => exact logout_turn env _ header _ consistent
  | tradingSessionStatusRequest tradSesReqId => exact businessMessageReject_turn env _ (Or.inl ⟨_, rfl⟩) lives
  | request value => exact request_turn env _ value header sound
  | unexpected msgType => exact businessMessageReject_turn env _ (Or.inr ⟨_, rfl⟩) lives

theorem read_turn (env : Env) (message : FromClient) (header : Header) (clock : Clock)
    (consistent : (controller.view answered).Consistent) (unnamed : Unnamed session controller) :
    (read env message header clock session controller).Gives fun after =>
      Turn (fun client deed => client.Heeds env clock header controller.shared session message deed) controller.roster
        session after.roster := by
  refine withSession_turn fun client held => ?_
  split
  · next zombie =>
    refine ⟨.rest, ?_, .rest (.refl _)⟩
    unfold Session.Heeds
    rw [zombie]
  · next alive =>
    refine Outcome.Gives.recover _ ?_
    obtain ⟨seen, found, state, -⟩ := @received_find controller session client header held
    have view := @view_received controller session header answered
    have calm : Calm session controller.roster (received header session controller).roster :=
      (calm_updateSession held (by rfl)).trans (calm_updateSession (found_updateSession held _) (by rfl))
    have shared : (received header session controller).shared = controller.shared := rfl
    have stillUnnamed : Unnamed session (received header session controller) := by
      intro other foundOther waiting
      rw [found] at foundOther
      cases foundOther
      exact unnamed client held (state ▸ waiting)
    rw [← view] at consistent
    have turn := dispatch_turn env message header clock found (state ▸ alive) consistent stillUnnamed
    rw [shared] at turn
    refine Outcome.Gives.mono (fun after turn => ?_) turn
    obtain ⟨deed, heeds, acts⟩ := turn.of_held found
    have identity := calm.identity
    have before : controller.roster.session session = some client := held
    have middle : (received header session controller).roster.session session = some seen := found
    rw [before, middle, Option.map_some, Option.map_some, Option.some.injEq] at identity
    exact ⟨deed, heeds_of_identity identity heeds, acts.after calm⟩

end Client
end FixProxy
