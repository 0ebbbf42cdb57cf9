import FixProxy.Proofs.Register
import FixProxy.Proofs.RosterMoves

/-! Every event as turns of the sessions it concerns, between messages of the upstream
connection itself and the coming and going of records. -/

namespace FixProxy
open Codec

namespace Roster

/-- At most one session that is ready hears of a response. -/
def Hears (before after : Roster) : Prop :=
  ∃ session, Turn (fun client deed => deed = .rest ∨ client.state = .ready ∧ ∃ response, deed = .say (.response response))
    before session after

theorem Hears.refl (roster : Roster) : Hears roster roster := ⟨0, .rest fun _ _ => Or.inl rfl⟩

end Roster

open Roster (Hears Told Turn)

namespace Controller
variable {env : Env} {controller before after : Controller}

/-! Responses. -/

private theorem dispatchToClient_hears (response : Response) (session : Nat) (controller : Controller) :
    Hears controller.roster (controller.dispatchToClient response session).roster := by
  unfold dispatchToClient
  split
  · exact .refl _
  · next client held =>
    split
    · next ready =>
      have heldBefore : controller.roster.session session = some client := held
      refine ⟨session, ?_⟩
      unfold Turn
      rw [heldBefore]
      exact ⟨_, Or.inr ⟨ready, response, rfl⟩, Client.sendToClient_acts held _⟩
    · exact .refl _

private theorem broadcast_hears (response : Response) (clientId : String) (controller : Controller) :
    Hears controller.roster (controller.broadcast response clientId).roster := by
  unfold broadcast
  split
  · exact .refl _
  · exact dispatchToClient_hears ..

private theorem hears_ite {roster : Roster} {condition : Prop} [Decidable condition] {taken other : Controller}
    (ifTaken : Hears roster taken.roster) (ifOther : Hears roster other.roster) :
    Hears roster (if condition then taken else other).roster := by
  split
  · exact ifTaken
  · exact ifOther

private theorem hears_removeReqId {roster : Roster} (name : MappingName) (reqId : String) {middle : Controller}
    (heard : Hears roster middle.roster) : Hears roster (middle.removeReqId name reqId).roster := by
  rw [roster_removeReqId]
  exact heard

private theorem route_hears (name : MappingName) (reqId : String) (response : String → Response) (remove : Bool → Bool)
    (controller : Controller) : Hears controller.roster (controller.route name reqId response remove).roster := by
  unfold route
  split
  · exact .refl _
  · simp only
    exact hears_ite (hears_removeReqId _ _ (dispatchToClient_hears ..)) (dispatchToClient_hears ..)

private theorem roster_ensureClOrdId (clOrdId : String) (ordStatus : OrdStatus) (controller : Controller) :
    (controller.ensureClOrdId clOrdId ordStatus).roster = controller.roster := by
  unfold ensureClOrdId
  split <;> rfl

private theorem roster_removeClOrdId (env : Env) (clOrdId : String) (controller : Controller) :
    (controller.removeClOrdId env clOrdId).roster = controller.roster := by
  unfold removeClOrdId
  split
  · rfl
  · split <;> rfl

private theorem executionReport_hears (env : Env) (value : ExecutionReport) (controller : Controller) :
    Hears controller.roster (controller.executionReport env value).roster := by
  unfold executionReport
  simp only
  have ensured {response : String → Response} {remove : Bool → Bool} (name : MappingName) (reqId : String) :
      Hears controller.roster
        ((controller.ensureClOrdId value.clOrdId value.ordStatus).route name reqId response remove).roster := by
    rw [← roster_ensureClOrdId value.clOrdId value.ordStatus controller]
    exact route_hears ..
  refine hears_ite (ensured ..) (hears_ite (ensured ..) ?_)
  have recorded (controller : Controller) (clOrdId : String) :
      (if env.library.isOrderComplete value.ordStatus then controller.removeClOrdId env clOrdId
        else if isPending value.execType then controller.ensureClOrdId clOrdId value.ordStatus
        else controller).roster = controller.roster := by
    split
    · exact roster_removeClOrdId ..
    · split
      · exact roster_ensureClOrdId ..
      · rfl
  have replaced (controller : Controller) :
      (if !isPending value.execType && value.origClOrdId != "" then controller.removeClOrdId env value.origClOrdId
        else controller).roster = controller.roster := by
    split
    · exact roster_removeClOrdId ..
    · rfl
  refine (fun handled => hears_ite handled (hears_removeReqId _ _ handled)) ?_
  refine hears_ite (route_hears ..) ?_
  have broadcasted {response : Response} {clientId : String} {middle : Controller}
      (same : middle.roster = controller.roster) : Hears controller.roster (middle.broadcast response clientId).roster :=
    same ▸ broadcast_hears response clientId middle
  exact broadcasted ((replaced _).trans (recorded ..))

private theorem businessMessageReject_hears (value : BusinessMessageReject) (controller : Controller) :
    Hears controller.roster (controller.businessMessageReject value).roster := by
  unfold businessMessageReject
  split
  · exact .refl _
  · split
    · exact .refl _
    · exact dispatchToClient_hears ..

private theorem requestForPositionsAck_hears (value : RequestForPositionsAck) (controller : Controller) :
    Hears controller.roster (controller.requestForPositionsAck value).roster := by
  unfold requestForPositionsAck
  split
  · exact .refl _
  · simp only
    have passed (totalNumPosReports : Nat) (response : Codec.Response) (session : Nat) : Hears controller.roster
        (({ controller with totalNumPosReports } : Controller).dispatchToClient response session).roster :=
      dispatchToClient_hears response session { controller with totalNumPosReports }
    exact hears_ite (hears_removeReqId _ _ (passed ..)) (passed ..)

private theorem response_hears (env : Env) (value : Response) (controller : Controller) :
    Hears controller.roster (controller.response env value).roster := by
  cases value with
  | businessMessageReject value => exact businessMessageReject_hears value controller
  | executionReport value => exact executionReport_hears env value controller
  | requestForPositionsAck value => exact requestForPositionsAck_hears value controller
  | positionReport value =>
    exact route_hears _ _ _ _ { controller with totalNumPosReports := controller.totalNumPosReports - 1 }
  | _ => exact route_hears ..

/-! Answers to user requests. -/

private theorem userAdd_roster {username : String} {session : Nat}
    (added : controller.userAdd username session = .done after) :
    after.roster = controller.roster ∧ after.serverSession = controller.serverSession ∧ after.ready = controller.ready := by
  unfold userAdd at added
  simp only at added
  split at added
  · cases added
  · split at added
    · cases added
    · cases added
      exact ⟨rfl, rfl, rfl⟩

private theorem userRemove_roster {username : String} {ready : Bool}
    (removed : controller.userRemove username ready = .done after) :
    after.roster = controller.roster ∧ after.serverSession = controller.serverSession ∧ after.ready = controller.ready := by
  unfold userRemove at removed
  simp only at removed
  split at removed
  · cases removed
    exact ⟨rfl, rfl, rfl⟩
  · split at removed
    · cases removed
    · cases removed
      exact ⟨rfl, rfl, rfl⟩

private theorem sound_of_roster {answered answered' : List String} (roster : after.roster = controller.roster)
    (upstream : after.serverSession = controller.serverSession) (ready : after.ready = controller.ready)
    (sound : (controller.view answered).Sound) : (after.view answered').Sound := by
  have session : (after.view answered').session = (controller.view answered).session := by
    funext session
    have same := congrFun (congrArg Roster.session roster) session
    simp only [Controller.roster] at same
    simp [view, same]
  have lastSession : (after.view answered').lastSession = (controller.view answered).lastSession :=
    congrArg Roster.lastSession roster
  have doomed : (after.view answered').doomed = (controller.view answered).doomed := congrArg Roster.doomed roster
  have state : (after.view answered').upstream = (controller.view answered).upstream := congrArg (·.state) upstream
  refine ⟨?_, ?_, ?_, ?_⟩
  · rw [session, lastSession]
    exact sound.known
  · rw [session, state]
    exact sound.connected
  · rw [state]
    exact fun prepared => sound.prepared (ready.symm.trans prepared)
  · rw [session, doomed]
    exact sound.doomed

private theorem userResponse_hears (env : Env) (value : UserResponse) {answered : List String}
    (sound : (controller.view answered).Sound) :
    (controller.userResponse env value).Gives fun after => ∃ session,
      controller.subscriptions.user.serverToClient.find value.userRequestId = some session ∧
        Turn (fun client deed => client.Answers env value.userStatus deed) controller.roster session after.roster := by
  unfold userResponse
  cases pending : controller.subscriptions.user.serverToClient.find value.userRequestId with
  | none => trivial
  | some session =>
    simp only
    cases found : controller.sessions.find session with
    | none =>
      have absent : controller.roster.session session = none := found
      cases removed : controller.userRemove value.username false with
      | done after =>
        refine ⟨session, rfl, ?_⟩
        rw [(userRemove_roster removed).1]
        exact .absent absent
      | thrown what after => exact userRemove_not_thrown removed
      | fatal what => trivial
    | some client =>
      simp only
      have settles {status : UserStatus} (same : value.userStatus = status) {routed : Controller}
          (roster : routed.roster = controller.roster)
          (upstream : routed.serverSession = controller.serverSession) (ready : routed.ready = controller.ready) :
          (Client.userResponse env value session (routed.settleUserRequest value.userRequestId session)).Gives
            fun after => ∃ asker, some session = some asker ∧
              Turn (fun client deed => client.Answers env status deed) controller.roster asker after.roster := by
        subst same
        have settled : (routed.settleUserRequest value.userRequestId session).roster = controller.roster := roster
        have settledSound : ((routed.settleUserRequest value.userRequestId session).view answered).Sound :=
          sound_of_roster settled upstream ready sound
        rw [← settled]
        exact (Client.userResponse_turn env value settledSound).mono fun after turn => ⟨session, rfl, turn⟩
      cases status : value.userStatus with
      | loggedIn =>
        simp only
        cases added : controller.userAdd value.username session with
        | done routed =>
          obtain ⟨roster, upstream, ready⟩ := userAdd_roster added
          exact settles status roster upstream ready
        | thrown what after => exact userAdd_not_thrown added
        | fatal what => trivial
      | notLoggedIn =>
        simp only
        cases removed : controller.userRemove value.username (client.state == Client.State.ready) with
        | done routed =>
          obtain ⟨roster, upstream, ready⟩ := userRemove_roster removed
          exact settles status roster upstream ready
        | thrown what after => exact userRemove_not_thrown removed
        | fatal what => trivial
      | other => exact settles status rfl rfl rfl

end Controller

/-! The collection. -/

namespace Client
variable {controller : Controller}

private theorem roster_collect {session : Nat} (unnamed : controller.roster.username session = none) :
    (collect session controller).roster = controller.roster.forget [session] := by
  have helped : controller.shared.sessionCleanupHelper session = controller.shared := by
    have none : controller.shared.sessionToUsername.find session = none := unnamed
    simp [Shared.sessionCleanupHelper, Shared.sessionRemoveHelper, none]
  simp only [collect, helped, Controller.roster, Roster.forget, List.mem_singleton]
  congr 1
  funext other
  simp

private theorem roster_collectAll (sessions : List Nat) (controller : Controller)
    (unnamed : ∀ session ∈ sessions, controller.roster.username session = none) :
    (sessions.foldl (fun controller session => collect session controller) controller).roster =
      controller.roster.forget sessions := by
  induction sessions generalizing controller with
  | nil => simp [Roster.forget]
  | cons session rest ih =>
    have first := roster_collect (unnamed session (by simp))
    rw [List.foldl_cons, ih, first, Roster.forget_cons]
    intro other member
    rw [first]
    exact unnamed other (by simp [member])

theorem roster_swept {now : Nanoseconds} (due : controller.nextGarbageCollection ≤ now)
    (registered : controller.roster.Registered) : (removeZombies now controller).roster = controller.roster.sweep := by
  unfold removeZombies
  rw [if_neg (Int.not_lt.mpr due)]
  have unnamed : ∀ session ∈ controller.roster.doomed, controller.roster.username session = none := by
    intro session doomed
    obtain ⟨client, held, zombie⟩ := Option.map_eq_some_iff.mp ((registered.doomed session).mp doomed)
    rw [registered.named, held, Option.bind_some]
    simp [Session.login, zombie]
  have collected := roster_collectAll controller.roster.doomed
    { controller with nextGarbageCollection := now + garbageCollectionFrequency } unnamed
  have emptied (controller : Controller) :
      ({ controller with shared := { controller.shared with sessionsToRemove := [] } } : Controller).roster =
        { controller.roster with doomed := [] } := rfl
  simp only
  rw [emptied]
  exact congrArg (fun roster : Roster => { roster with doomed := [] }) collected

private theorem roster_removeZombies (now : Nanoseconds) (registered : controller.roster.Registered) :
    (removeZombies now controller).roster = controller.roster ∨
      (removeZombies now controller).roster = controller.roster.sweep := by
  by_cases early : now < controller.nextGarbageCollection
  · exact Or.inl (by rw [removeZombies, if_pos early])
  · exact Or.inr (roster_swept (Int.not_lt.mp early) registered)

private theorem roster_accept (env : Env) (now : Nanoseconds) (registered : controller.roster.Registered) :
    (accept env now controller).roster =
      controller.roster.arrive { logonTimeout := now + env.settings.clientLogonTimeout } := by
  have fresh : controller.sessions.find (controller.shared.nextSessionId + 1) = none := by
    by_contra present
    have known : controller.shared.nextSessionId + 1 ≤ controller.shared.nextSessionId := registered.known _ present
    omega
  simp only [accept, Controller.roster, Roster.arrive, Map.find_tryEmplace_fun, emplace_of_none fresh]

end Client

/-! Events. -/

/-- What a session may do about an event, given its record. -/
def World.Allows (env : Env) (before : World) (input : Input) (session : Nat) (client : Client.Session) (deed : Deed) :
    Prop :=
  match input with
  | .timer now => deed = client.tick now
  | .read reader clock header message =>
    if session = reader then client.Heeds env clock header before.controller.shared session message deed
    else deed = .rest
  | .readError reader => deed = if session = reader then client.closing else .rest
  | .disconnected other => deed = if session = other then client.ending else .rest
  | .serverDisconnected => deed = client.closing
  | .serverRead _ (.userResponse response) =>
    if before.controller.subscriptions.user.serverToClient.find response.userRequestId = some session then
      client.Answers env response.userStatus deed
    else deed = .rest
  | .serverRead _ (.response _) =>
    deed = .rest ∨ client.state = .ready ∧ ∃ response, deed = .say (.response response)
  | _ => deed = .rest

/-- What follows the turns of the sessions. -/
def Input.Settles (env : Env) (input : Input) (last after : Roster) : Prop :=
  match input with
  | .timer _ => after = last ∨ after = last.sweep
  | .accept now => after = last.arrive { logonTimeout := now + env.settings.clientLogonTimeout }
  | _ => after = last

/-- An event: messages of the upstream connection itself, the turns of the sessions it
concerns, each at most once, and what follows. -/
def World.Plays (env : Env) (before : World) (input : Input) (after : Roster) : Prop :=
  ∃ (first : Roster) (sessions : List Nat) (last : Roster), Told before.roster first ∧ sessions.Nodup ∧
    (∀ session client, session ∉ sessions → before.session session = some client →
      before.Allows env input session client .rest) ∧
    Run (fun roster session next => Turn (before.Allows env input session) roster session next) first sessions last ∧
    input.Settles env last after

private theorem forEach_turns {answered : List String} {allowed : Nat → Client.Session → Deed → Prop}
    {body : Nat → Controller → Outcome Controller} (sessions : List Nat) {controller : Controller}
    (sound : (controller.view answered).Sound)
    (runs : ∀ session (controller : Controller), (controller.view answered).Sound →
      (body session controller).Gives fun after =>
        (after.view answered).Sound ∧ Turn (allowed session) controller.roster session after.roster) :
    (Outcome.forEach sessions body controller).Gives fun after =>
      Run (fun roster session next => Turn (allowed session) roster session next) controller.roster sessions
        after.roster := by
  induction sessions generalizing controller with
  | nil => exact .nil _
  | cons session rest ih =>
    refine (runs session controller sound).andThen fun middle turn => ?_
    exact (ih turn.1).mono fun after others => .cons turn.2 others

theorem turns_registered {allowed : Nat → Client.Session → Deed → Prop} {first last : Roster} {sessions : List Nat}
    (run : Run (fun roster session next => Turn (allowed session) roster session next) first sessions last)
    (registered : first.Registered) : last.Registered :=
  run.preserves Roster.Registered (fun turn registered => turn.registered registered) registered

theorem Client.timer_turns (env : Env) (now : Nanoseconds) {answered : List String} {controller : Controller}
    (sound : (controller.view answered).Sound) :
    (Outcome.forEach controller.sessions.keys (Client.timer env now) controller).Gives fun after =>
      Run (fun roster session next => Turn (fun client deed => deed = client.tick now) roster session next)
        controller.roster controller.sessions.keys after.roster := by
  refine forEach_turns controller.sessions.keys sound fun session controller sound => ?_
  have closes : (Client.timer env now session controller).Gives _ :=
    Outcome.Gives.of_leaves (Client.timer_yields env now sound)
  exact (closes.mono fun after moves => moves.sound sound).and (Client.timer_turn env now sound)

namespace Server

private theorem told_send (controller : Controller) {message : ToServer} (own : message.Own) :
    Told controller.roster (controller.sendToServer message).roster := by
  refine ⟨[.toServer _ message], fun output member => ?_, rfl⟩
  rw [List.mem_singleton.mp member]
  exact own

theorem timer_told (env : Env) (now : Nanoseconds) (controller : Controller) :
    Told controller.roster (timer env now controller).roster := by
  unfold timer
  split
  · exact .refl _
  · split
    · exact told_send { controller with
        serverSession := { controller.serverSession with nextHeartbeat := now + env.settings.serverPingFreq } } trivial
    · exact .refl _

end Server

namespace World
variable {env : Env} {before after : World} {input : Input}

private theorem plays_told {last after : Roster} (told : Told before.roster last)
    (resting : ∀ session client, before.Allows env input session client .rest)
    (settles : input.Settles env last after) : before.Plays env input after :=
  ⟨last, [], last, told, .nil, fun session client _ _ => resting session client, .nil _, settles⟩

private theorem plays_turn {after : Roster} (session : Nat)
    (turn : Turn (before.Allows env input session) before.roster session after)
    (resting : ∀ other client, other ≠ session → before.Allows env input other client .rest)
    (settles : input.Settles env after after) : before.Plays env input after :=
  ⟨before.roster, [session], after, .refl _, List.nodup_singleton _,
    fun other client absent _ => resting other client (by simpa using absent), .single turn, settles⟩

theorem unnamed_of_registered {session : Nat} (registered : before.roster.Registered) :
    Client.Unnamed session before.controller := by
  intro client held arriving
  have found : before.roster.session session = some client := held
  have named := registered.named session
  rw [found, Option.bind_some] at named
  exact named.trans (by simp [Client.Session.login, arriving])

private theorem registered_create (users : Map String (String × Nat)) (realtime : Nat) :
    (create users realtime).roster.Registered := by
  have session name : (create users realtime).roster.session name = none := rfl
  have username name : (create users realtime).roster.username name = none := rfl
  have holder name : (create users realtime).roster.holder name = none := rfl
  have doomed : (create users realtime).roster.doomed = [] := rfl
  constructor <;> simp [session, username, holder, doomed]

theorem Plays.registered {after : Roster} (plays : before.Plays env input after) (registered : before.roster.Registered) :
    after.Registered := by
  obtain ⟨first, sessions, last, told, -, -, run, settles⟩ := plays
  have kept := turns_registered run (told.registered registered)
  cases input with
  | timer now =>
    rcases settles with same | swept
    · exact same ▸ kept
    · exact swept ▸ kept.sweep
  | accept now =>
    obtain rfl := settles
    exact kept.arrive _ rfl
  | _ =>
    obtain rfl := settles
    exact kept

theorem Step.plays (step : Step env before input after) (consistent : before.view.Consistent)
    (registered : before.roster.Registered) : before.Plays env input after.roster := by
  suffices plays : (FixProxy.step env input before.controller).Gives fun after => before.Plays env input after.roster by
    rw [step.performed] at plays
    exact plays
  have sound := consistent.sound
  cases input with
  | timer now =>
    have told := Server.timer_told env now before.controller
    have quiet : (Server.timer env now before.controller).view before.answered = before.view :=
      Server.view_timer env now before.controller
    rw [← quiet] at sound
    simp only [FixProxy.step]
    have held session (client : Client.Session) (held : before.session session = some client) :
        session ∈ (Server.timer env now before.controller).sessions.keys := by
      obtain ⟨outputs, -, same⟩ := told
      have sessions := congrFun (congrArg Roster.session same) session
      exact Map.mem_keys.mpr (Option.isSome_iff_exists.mpr ⟨client, sessions.trans held⟩)
    generalize Server.timer env now before.controller = timed at sound told held
    refine Outcome.Gives.andThen (Client.timer_turns env now sound) fun middle run => ?_
    refine ⟨_, _, _, told, timed.sessions.nodupKeys,
      fun session client absent found => absurd (held session client found) absent, run, ?_⟩
    exact Client.roster_removeZombies now (turns_registered run (told.registered registered))
  | accept now => exact plays_told (.refl _) (fun _ _ => rfl) (Client.roster_accept env now registered)
  | read session clock header message =>
    refine (Client.read_turn env message header clock consistent (unnamed_of_registered registered)).mono
      fun after turn => ?_
    exact plays_turn session (turn.mono fun client deed heeds => by simpa [Allows] using heeds)
      (fun other client different => by simp [Allows, different]) rfl
  | readError session =>
    refine (Client.close_turn env sound).mono fun after turn => ?_
    exact plays_turn session (turn.mono fun client deed closes => by simpa [Allows] using closes)
      (fun other client different => by simp [Allows, different]) rfl
  | disconnected session =>
    refine (Client.makeZombie_turn sound).mono fun after turn => ?_
    exact plays_turn session (turn.mono fun client deed ends => by simpa [Allows] using ends)
      (fun other client different => by simp [Allows, different]) rfl
  | serverConnected =>
    have told : Told before.roster (Server.sendLogon env before.controller).roster := Server.told_send _ trivial
    exact plays_told told (fun _ _ => rfl) rfl
  | serverDisconnected =>
    have closing session (controller : Controller) (sound : (controller.view before.answered).Sound) :
        (Client.forceDisconnect env session controller).Gives fun after => (after.view before.answered).Sound ∧
          Turn (before.Allows env .serverDisconnected session) controller.roster session after.roster := by
      have closes : (Client.close env session controller).Gives _ :=
        Outcome.Gives.of_leaves (Client.close_yields env sound)
      exact (closes.mono fun after moves => moves.sound sound).and (Client.close_turn env sound)
    have down : (({ before.controller with ready := false } : Controller).view before.answered).Sound :=
      Router.sound_step (@Router.Step.unready before.view) sound
    refine Outcome.Gives.andThen (forEach_turns before.controller.sessions.keys down closing) fun middle run => ?_
    refine ⟨_, _, _, .refl _, before.controller.sessions.nodupKeys, fun session client absent found => ?_, run, rfl⟩
    exact absurd (Map.mem_keys.mpr (Option.isSome_iff_exists.mpr ⟨client, found⟩)) absent
  | serverRead msgSeqNum message =>
    cases message with
    | userResponse value =>
      let counted : Controller := { before.controller with
        serverSession := { before.controller.serverSession with inboundMsgSeqNum := msgSeqNum } }
      have countedSound : (counted.view before.answered).Sound := sound
      refine (Controller.userResponse_hears env value countedSound).mono fun after heard => ?_
      obtain ⟨session, found, turn⟩ := heard
      have pending : before.controller.subscriptions.user.serverToClient.find value.userRequestId = some session := found
      exact plays_turn session (turn.mono fun client deed answers => by simpa [Allows, pending] using answers)
        (fun other client different => by simp [Allows, pending, Ne.symm different]) rfl
    | response value =>
      obtain ⟨session, turn⟩ := Controller.response_hears env value { before.controller with
        serverSession := { before.controller.serverSession with inboundMsgSeqNum := msgSeqNum } }
      exact plays_turn session turn (fun _ _ _ => Or.inl rfl) rfl
    | testRequest testReqId =>
      have told : Told before.roster (({ before.controller with
          serverSession := { before.controller.serverSession with inboundMsgSeqNum := msgSeqNum } } :
            Controller).sendToServer (.heartbeat testReqId)).roster := Server.told_send _ trivial
      exact plays_told told (fun _ _ => rfl) rfl
    | _ => exact plays_told (.refl _) (fun _ _ => rfl) rfl
  | authInsert username password strategyId => exact plays_told (.refl _) (fun _ _ => rfl) rfl
  | authRemove username => exact plays_told (.refl _) (fun _ _ => rfl) rfl

theorem registered_of_reachable (reachable : Reachable env before) : before.roster.Registered := by
  obtain ⟨users, realtime, inputs, run⟩ := reachable
  have both := run.preserves (fun world => world.view.Consistent ∧ world.roster.Registered)
    (fun step ⟨consistent, registered⟩ => ⟨step.consistent consistent, (step.plays consistent registered).registered registered⟩)
    ⟨consistent_create users realtime, registered_create users realtime⟩
  exact both.2

end World
end FixProxy
