import FixProxy.Deployment
import FixProxy.Lib.Loop
import FixProxy.Proofs.Callbacks
import FixProxy.Proofs.Picture

/-! The sessions are held in an unordered map, so the loops over them visit them in no particular
order. What can be seen afterwards is the same for every order; only the ids of the log-offs and
the order in which upstream is told depend on it. -/

namespace FixProxy
open Codec

namespace Controller
variable {controller : Controller} {session : Nat} {client : Client.Session}

private theorem heard_log {log outputs : List Output} (own : ∀ output ∈ outputs, output.client = some session) :
    (fun other => (log ++ outputs).filter fun output => output.client = some other) =
      Function.update (fun other => log.filter fun output => output.client = some other) session
        ((log.filter fun output => output.client = some session) ++ outputs) := by
  funext other
  rw [List.filter_append]
  by_cases same : other = session
  · subst same
    have all : outputs.filter (fun output => output.client = some other) = outputs :=
      List.filter_eq_self.mpr (by simpa using own)
    rw [Function.update_self, all]
  · rw [Function.update_of_ne same, List.append_right_eq_self, List.filter_eq_nil_iff]
    intro output member
    simp [own output member, Ne.symm same]

private theorem picture_log {outputs : List Output} (own : ∀ output ∈ outputs, output.client = some session)
    (silent : outputs.filterMap Output.upward = []) :
    ({ controller with log := controller.log ++ outputs } : Controller).picture =
      controller.picture.record session (controller.picture.session session) outputs := by
  apply Picture.ext
  case session => exact (Function.update_eq_self ..).symm
  case heard => exact heard_log own
  case told => simp [picture, Picture.record, silent]
  all_goals rfl

private theorem picture_updateSession (held : controller.sessions.find session = some client)
    (change : Client.Session → Client.Session) :
    (controller.updateSession session change).picture = controller.picture.record session (some (change client)) [] := by
  apply Picture.ext
  case session => simp [picture, Picture.record, updateSession, held]
  case heard => simp only [Picture.record, List.append_nil, Function.update_eq_self]; rfl
  all_goals rfl

private theorem picture_sendToClient (held : controller.sessions.find session = some client) (message : ToClient) :
    (controller.sendToClient session message).picture =
      controller.picture.record session (some { client with outboundMsgSeqNum := client.outboundMsgSeqNum + 1 })
        [.toClient session (client.outboundMsgSeqNum + 1) message] := by
  have heard := @heard_log session controller.log [.toClient session (client.outboundMsgSeqNum + 1) message]
    (by simp [Output.client])
  have silent : [Output.toClient session (client.outboundMsgSeqNum + 1) message].filterMap Output.upward = [] := rfl
  unfold sendToClient
  rw [held]
  apply Picture.ext
  case session => simp [picture, Picture.record, updateSession, held]
  case heard => exact heard
  case told => simp [picture, Picture.record, updateSession, silent]
  all_goals rfl

private theorem releaseUser_rest (session : Nat) (prepared : controller.picture.Prepared) :
    ∃ after, controller.releaseUser session = .done after ∧
      after = { controller.sendAll (if controller.ready then controller.logsOff session else []) with
        subscriptions := after.subscriptions
        shared := { controller.shared with
          nextRequestId := controller.shared.nextRequestId +
            if controller.ready ∧ (controller.subscriptions.user.sessionToClient.find session).isSome then 1 else 0 } } := by
  unfold releaseUser logsOff
  cases controller.subscriptions.user.sessionToClient.find session with
  | none => exact ⟨_, rfl, by simp [sendAll]⟩
  | some username =>
    cases ready : controller.ready with
    | false => exact ⟨_, rfl, by simp [sendAll, setUser, ready]⟩
    | true =>
      have accepted : controller.createRequestId.2.serverSession.state = .ready := prepared ready
      refine ⟨_, by simp only [if_true, dispatchToServer, accepted, Outcome.andThen_done]; rfl, rfl⟩

private theorem sessionDisconnected_rest (session : Nat) (prepared : controller.picture.Prepared) :
    ∃ after, controller.sessionDisconnected session = .done after ∧
      after = { ({ controller with disconnects := controller.disconnects ++ [session] } : Controller).sendAll
          (controller.partings session) with
        subscriptions := after.subscriptions
        shared := { controller.shared with
          nextRequestId := controller.shared.nextRequestId +
            if controller.ready ∧ (controller.subscriptions.user.sessionToClient.find session).isSome then 1 else 0 } } := by
  obtain ⟨cleared, call, mapping, clears⟩ := sessionDisconnected_clears session prepared
  have seen : cleared.ready = controller.ready ∧ cleared.shared = controller.shared ∧
      cleared.serverSession.state = controller.serverSession.state ∧
      cleared.subscriptions.user = controller.subscriptions.user := by
    rw [clears, sendAll_eq]
    exact ⟨rfl, rfl, rfl, rfl⟩
  obtain ⟨ready, shared, state, user⟩ := seen
  have logsOff : cleared.logsOff session = controller.logsOff session := by
    unfold Controller.logsOff createRequestId
    rw [user, shared]
  have stillPrepared : cleared.picture.Prepared := by
    intro readied
    exact state.trans (prepared (ready.symm.trans readied))
  obtain ⟨after, release, rest⟩ := releaseUser_rest session stillPrepared
  refine ⟨after, call.trans release, rest.trans ?_⟩
  have partings : controller.partings session =
      (if controller.ready then (controller.serverIds .mdReqId session).map unsubscribes else []) ++
        if controller.ready then controller.logsOff session else [] := by
    unfold Controller.partings
    split <;> rfl
  have sent (messages : List ToServer) : cleared.sendAll messages =
      { (({ controller with disconnects := controller.disconnects ++ [session] } : Controller).sendAll
          (if controller.ready then (controller.serverIds .mdReqId session).map unsubscribes else [])).sendAll messages with
        subscriptions := { controller.subscriptions with mapping } } := by
    rw [clears, sendAll_subscriptions]
  rw [sent, ← sendAll_append, logsOff, ready, shared, user, ← partings]

/-- The tables and the routes of the other sessions stay as they are. -/
structure Elsewhere (session : Nat) (before after : Controller) : Prop where
  table : ∀ name other, other ≠ session →
    (after.mapping name).clientToServer.find other = (before.mapping name).clientToServer.find other
  owner : ∀ other, other ≠ session →
    after.subscriptions.user.sessionToClient.find other = before.subscriptions.user.sessionToClient.find other

instance (session : Nat) : IsTrans Controller (Elsewhere session) where
  trans _ _ _ head rest :=
    ⟨fun name other different => (rest.table name other different).trans (head.table name other different),
      fun other different => (rest.owner other different).trans (head.owner other different)⟩

private theorem elsewhere_of_eq {after : Controller} (table : after.subscriptions.mapping = controller.subscriptions.mapping)
    (owner : after.subscriptions.user.sessionToClient = controller.subscriptions.user.sessionToClient) :
    Elsewhere session controller after :=
  ⟨fun name other _ => by rw [mapping, mapping, table], fun other _ => by rw [owner]⟩

private theorem elsewhere_setMapping {name : MappingName} {mapping : Mapping}
    (kept : ∀ other, other ≠ session →
      mapping.clientToServer.find other = (controller.mapping name).clientToServer.find other) :
    Elsewhere session controller (controller.setMapping name mapping) := by
  refine ⟨fun changed other different => ?_, fun other _ => rfl⟩
  by_cases same : changed = name
  · subst same
    simpa [Controller.mapping, setMapping] using kept other different
  · simp [Controller.mapping, setMapping, same]

private theorem elsewhere_clearReqIds (name : MappingName) {callback : String → Controller → Outcome Controller}
    (quiet : ∀ reqId, Outcome.Keeping (Elsewhere session) (callback reqId)) :
    Outcome.Keeping (Elsewhere session) (clearReqIds name session callback) := by
  intro controller
  have erases (reqId : String) (controller : Controller) : Elsewhere session controller (controller.setMapping name
      { controller.mapping name with serverToClient := (controller.mapping name).serverToClient.erase reqId }) :=
    elsewhere_setMapping fun _ _ => rfl
  have forgets (controller : Controller) : Elsewhere session controller (controller.setMapping name
      { controller.mapping name with clientToServer := (controller.mapping name).clientToServer.erase session }) :=
    elsewhere_setMapping fun other different => by simp [different]
  unfold clearReqIds
  split
  · exact elsewhere_of_eq rfl rfl
  · refine Outcome.Every.andThen ?_ forgets
    refine Outcome.Keeping.forEach (fun _ => elsewhere_of_eq rfl rfl) (fun reqId => ?_) controller
    exact fun controller => (quiet reqId controller).andThen (erases reqId)

private theorem elsewhere_dispatchToServer (message : ToServer) :
    Outcome.Keeping (Elsewhere session) (dispatchToServer message) := by
  intro controller
  unfold dispatchToServer
  split <;> exact elsewhere_of_eq rfl rfl

private theorem elsewhere_releaseUser (session : Nat) : Outcome.Keeping (Elsewhere session) (releaseUser session) := by
  intro controller
  unfold releaseUser
  split
  · exact elsewhere_of_eq rfl rfl
  · refine Outcome.Every.andThen ?_ fun after => ⟨fun _ _ _ => rfl, fun other different => by simp [setUser, different]⟩
    split
    · have drawn : Elsewhere session controller controller.createRequestId.2 := elsewhere_of_eq rfl rfl
      refine Outcome.Every.before drawn ?_
      exact (elsewhere_dispatchToServer _ _).andThen fun after => elsewhere_of_eq rfl rfl
    · exact elsewhere_of_eq rfl rfl

private theorem elsewhere_sessionDisconnected (session : Nat) :
    Outcome.Keeping (Elsewhere session) (sessionDisconnected session) := by
  intro controller
  have ignored (reqId : String) : Outcome.Keeping (Elsewhere session) (ignore reqId) := fun _ => elsewhere_of_eq rfl rfl
  have unsubscribed (reqId : String) : Outcome.Keeping (Elsewhere session) (unsubscribeMarketData reqId) := by
    intro controller
    unfold unsubscribeMarketData
    split
    · exact elsewhere_of_eq rfl rfl
    · exact elsewhere_dispatchToServer _ _
  have start : Elsewhere session controller { controller with disconnects := controller.disconnects ++ [session] } :=
    elsewhere_of_eq rfl rfl
  unfold sessionDisconnected
  refine Outcome.Every.before start ?_
  refine (elsewhere_clearReqIds _ ignored _).andThen fun _ => ?_
  refine (elsewhere_clearReqIds _ ignored _).andThen fun _ => ?_
  refine (elsewhere_clearReqIds _ ignored _).andThen fun _ => ?_
  refine (elsewhere_clearReqIds _ unsubscribed _).andThen fun _ => ?_
  refine (elsewhere_clearReqIds _ ignored _).andThen fun _ => ?_
  refine (elsewhere_clearReqIds _ ignored _).andThen fun _ => ?_
  refine (elsewhere_clearReqIds _ ignored _).andThen fun _ => ?_
  refine (elsewhere_clearReqIds _ ignored _).andThen fun _ => ?_
  refine (elsewhere_clearReqIds _ ignored _).andThen fun _ => ?_
  refine (elsewhere_clearReqIds _ ignored _).andThen fun _ => ?_
  exact elsewhere_releaseUser session _

private theorem client_of_numbered {last : Nat} {messages : List ToServer} :
    ∀ output ∈ numbered last messages, output.client = none := by
  induction messages generalizing last with
  | nil => exact fun _ member => nomatch member
  | cons message rest ih => exact List.forall_mem_cons.mpr ⟨rfl, ih⟩

private theorem upward_numbered (last : Nat) (messages : List ToServer) :
    (numbered last messages).filterMap Output.upward = messages.map ToServer.anonymous := by
  induction messages generalizing last with
  | nil => rfl
  | cons message rest ih => exact congrArg (message.anonymous :: ·) (ih (last + 1))

private theorem picture_partings (session : Nat) (controller : Controller) :
    (controller.partings session).map ToServer.anonymous = controller.picture.partings session := by
  have unsubscribing (ids : List String) : (ids.map unsubscribes).map ToServer.anonymous = ids.map unsubscribes := by
    rw [List.map_map]
    rfl
  unfold Controller.partings Picture.partings logsOff
  by_cases ready : controller.ready = true
  · have seen : controller.picture.ready = true := ready
    rw [if_pos ready, if_pos seen, List.map_append, unsubscribing]
    simp only [picture, view]
    cases controller.subscriptions.user.sessionToClient.find session <;> rfl
  · have seen : ¬ controller.picture.ready = true := ready
    rw [if_neg ready, if_neg seen]
    rfl

private theorem picture_sessionDisconnected (session : Nat) (prepared : controller.picture.Prepared) :
    ∃ after, controller.sessionDisconnected session = .done after ∧ after.picture = controller.picture.part session ∧
      after.sessions = controller.sessions := by
  obtain ⟨after, call, rest⟩ := sessionDisconnected_rest session prepared
  obtain ⟨last, call', index, owner, route⟩ := sessionDisconnected_view session prepared
  obtain rfl : last = after := Outcome.done.inj (call'.symm.trans call)
  have elsewhere := elsewhere_sessionDisconnected session controller
  have gone : ¬ ((last.view []).index .mdReqId).present session := by
    rw [index]
    exact fun present => present.2 rfl
  rw [call] at elsewhere
  rw [sendAll_eq] at rest
  have length : (controller.partings session).length = (controller.picture.partings session).length := by
    rw [← picture_partings, List.length_map]
  refine ⟨last, call, ?_, by rw [rest]⟩
  apply Picture.ext
  case index => exact index
  case owner =>
    funext other
    by_cases same : other = session
    · subst same
      simpa [picture, Picture.part] using owner
    · simpa [picture, Picture.part, view, same] using elsewhere.owner other same
  case route => exact funext route
  case subscribed =>
    funext other
    by_cases same : other = session
    · subst same
      have absent : (last.mapping .mdReqId).clientToServer.find other = none := Option.not_isSome_iff_eq_none.mp gone
      simp [picture, Picture.part, serverIds, absent]
    · simp [picture, Picture.part, serverIds, same, elsewhere.table .mdReqId other same]
  all_goals rw [rest]
  case heard =>
    funext other
    have apart : ∀ output ∈ numbered controller.serverSession.outboundMsgSeqNum (controller.partings session),
        output.client ≠ some other := fun output member => by simp [client_of_numbered output member]
    exact @Roster.heard_append other controller.roster _ apart
  case told =>
    simp only [picture, Picture.part, List.filterMap_append, upward_numbered, picture_partings]
    exact (Multiset.coe_add ..).symm
  case signalled => exact Multiset.coe_eq_coe.mpr (List.perm_append_singleton ..)
  case upstream => simp only [picture, Picture.part, length]
  all_goals rfl

end Controller

/-- The session ends, after it was given something. -/
def Client.Session.ended (session : Nat) (outputs : List Output) (client : Client.Session) : Upshot where
  client := some { client with state := .zombie }
  outputs := outputs ++ [.closeClient session]
  buried := true
  parted := client.state ≠ .waitingLogon

/-- What the upstream's loss makes of a session. -/
def Client.Session.shutting (session : Nat) (client : Client.Session) : Upshot :=
  if client.state = .zombie then { client := some client } else client.ended session []

/-- What a tick makes of a session. -/
def Client.Session.ticking (env : Env) (now : Nanoseconds) (session : Nat) (client : Client.Session) : Upshot :=
  let spoken := { client with outboundMsgSeqNum := client.outboundMsgSeqNum + 1 }
  let said (message : ToClient) : List Output := [.toClient session (client.outboundMsgSeqNum + 1) message]
  match client.state with
  | .waitingLogon => if client.logonTimeout < now then client.ended session [] else { client := some client }
  | .waitingCreateRoute | .waitingRemoveRoute =>
    if client.userResponseTimeout < now then spoken.ended session (said (.logout Texts.userResponseTimeout))
    else { client := some client }
  | .ready =>
    if client.nextHeartbeat < now then
      let timed := { spoken with nextHeartbeat := now + env.settings.clientHeartbeatFreq }
      if client.waitingForHeartbeat then timed.ended session (said (.logout Texts.missingHeartbeat))
      else
        { client := some { timed with waitingForHeartbeat := true }
          outputs := said (.testRequest (toString now ++ "ns")) }
    else { client := some client }
  | .zombie => { client := some client }

namespace Client
variable {env : Env} {now : Nanoseconds} {controller : Controller} {session : Nat} {client : Session}

private theorem picture_bury (held : controller.sessions.find session = some client) :
    (bury session controller).picture =
      (controller.picture.record session (some { client with state := .zombie }) []).bury session := by
  have roster := roster_bury held
  have kept :
      (controller.shared.sessionRemove session).sessionsToRemove = controller.shared.sessionsToRemove.insert session ∧
      (controller.shared.sessionRemove session).nextRequestId = controller.shared.nextRequestId ∧
      (controller.shared.sessionRemove session).nextSessionId = controller.shared.nextSessionId := by
    unfold Shared.sessionRemove Shared.sessionRemoveHelper
    split <;> exact ⟨rfl, rfl, rfl⟩
  apply Picture.ext
  case session => exact congrArg Roster.session roster
  case heard => simp only [Picture.bury, Picture.record, List.append_nil, Function.update_eq_self]; rfl
  case holder => exact congrArg Roster.holder roster
  case username => exact congrArg Roster.username roster
  case doomed => exact congrArg Multiset.ofList kept.1
  case users => exact Shared.credentials_sessionRemove session controller.shared
  case lastRequest => exact kept.2.1
  case lastSession => exact kept.2.2
  all_goals rfl

private theorem picture_makeZombie (held : controller.sessions.find session = some client) (alive : client.state ≠ .zombie)
    (prepared : controller.picture.Prepared) : ∃ after, makeZombie session controller = .done after ∧
      after.picture = controller.picture.patch session
        { client := some { client with state := .zombie }, buried := true, parted := client.state ≠ .waitingLogon } := by
  have signalled (departed : client.state ≠ .waitingLogon) : ∃ after,
      ((controller.sessionDisconnected session).andThen fun controller => .done (bury session controller)) = .done after ∧
        after.picture = controller.picture.patch session
          { client := some { client with state := .zombie }, buried := true, parted := client.state ≠ .waitingLogon } := by
    obtain ⟨gone, call, parted, sessions⟩ := Controller.picture_sessionDisconnected session prepared
    have found : gone.sessions.find session = some client := sessions ▸ held
    refine ⟨bury session gone, by rw [call, Outcome.andThen_done], ?_⟩
    rw [picture_bury found, parted]
    simp only [Picture.patch, departed, ne_eq, not_false_eq_true, decide_true, if_true]
    rfl
  unfold makeZombie withSession
  rw [held]
  cases state : client.state with
  | waitingLogon =>
    refine ⟨bury session controller, by simp only [state], ?_⟩
    rw [picture_bury held]
    rfl
  | waitingCreateRoute => simpa only [state] using signalled (by simp [state])
  | ready => simpa only [state] using signalled (by simp [state])
  | waitingRemoveRoute => simpa only [state] using signalled (by simp [state])
  | zombie => exact absurd state alive

private theorem picture_close (env : Env) (held : controller.sessions.find session = some client)
    (alive : client.state ≠ .zombie)
    (prepared : controller.picture.Prepared) : ∃ after, close env session controller = .done after ∧
      after.picture = controller.picture.patch session (client.ended session []) := by
  have shut := @Controller.picture_log controller session [.closeClient session] (by simp [Output.client]) rfl
  have prepared : ({ controller with log := controller.log ++ [.closeClient session] } : Controller).picture.Prepared :=
    prepared
  obtain ⟨after, ended, picture⟩ := @picture_makeZombie
    { controller with log := controller.log ++ [.closeClient session] } session client held alive prepared
  refine ⟨after, ?_, ?_⟩
  · unfold close withSession
    rw [held]
    simp only [alive, if_false]
    cases env.library.closeCallsBack session with
    | false => simpa using ended
    | true => simpa only [if_true, makeZombie_twice] using ended
  · rw [picture, shut]
    simp only [Picture.patch, Client.Session.ended, if_true, Picture.record_record, List.append_nil, List.nil_append]

private theorem picture_sendAndClose (env : Env) (message : ToClient) (held : controller.sessions.find session = some client)
    (alive : client.state ≠ .zombie) (prepared : controller.picture.Prepared) :
    ∃ after, sendAndClose env session message controller = .done after ∧
      after.picture = controller.picture.patch session
        (({ client with outboundMsgSeqNum := client.outboundMsgSeqNum + 1 } : Session).ended session
          [.toClient session (client.outboundMsgSeqNum + 1) message]) := by
  have said := Controller.picture_sendToClient held message
  have found : (controller.sendToClient session message).sessions.find session =
      some { client with outboundMsgSeqNum := client.outboundMsgSeqNum + 1 } := by
    simp [Controller.sendToClient, Controller.updateSession, held]
  have stillPrepared : (controller.sendToClient session message).picture.Prepared := by
    rw [said]
    exact prepared
  obtain ⟨after, closed, picture⟩ := picture_close env found alive stillPrepared
  refine ⟨after, closed, ?_⟩
  rw [picture, said]
  simp only [Picture.patch, Client.Session.ended, Picture.record_record, List.nil_append]

private theorem picture_timer (env : Env) (now : Nanoseconds) (held : controller.sessions.find session = some client)
    (prepared : controller.picture.Prepared) : ∃ after, timer env now session controller = .done after ∧
      after.picture = controller.picture.patch session (client.ticking env now session) := by
  have rests : controller.picture = controller.picture.patch session { client := some client } := by
    have seen : controller.picture.session session = some client := held
    exact ((congrArg (controller.picture.record session · []) seen).symm.trans Picture.record_self).symm
  unfold timer withSession Session.ticking
  rw [held]
  cases state : client.state with
  | zombie => exact ⟨controller, by simp only [state], by simpa only [state] using rests⟩
  | waitingLogon =>
    by_cases due : client.logonTimeout < now
    · simpa only [state, due, if_true] using picture_close env held (by simp [state]) prepared
    · exact ⟨controller, by simp only [state, due, if_false], by simpa only [due, if_false] using rests⟩
  | waitingCreateRoute | waitingRemoveRoute =>
    by_cases due : client.userResponseTimeout < now
    · have closed := picture_sendAndClose env (.logout Texts.userResponseTimeout) held (by simp [state]) prepared
      simpa only [state, due, if_true] using closed
    · exact ⟨controller, by simp only [state, due, if_false], by simpa only [due, if_false] using rests⟩
  | ready =>
    by_cases due : client.nextHeartbeat < now
    · obtain ⟨timed, same, found, timing⟩ : ∃ timed, timed = controller.updateSession session (fun client =>
            { client with nextHeartbeat := now + env.settings.clientHeartbeatFreq }) ∧
          timed.sessions.find session = some { client with nextHeartbeat := now + env.settings.clientHeartbeatFreq } ∧
          timed.picture = controller.picture.record session
            (some { client with nextHeartbeat := now + env.settings.clientHeartbeatFreq }) [] :=
        ⟨_, rfl, found_updateSession held _, Controller.picture_updateSession held _⟩
      by_cases waits : client.waitingForHeartbeat = true
      · obtain ⟨after, closed, picture⟩ := picture_sendAndClose env (.logout Texts.missingHeartbeat) found
          (by simp [state]) (timing ▸ prepared)
        refine ⟨after, by simpa only [state, due, waits, if_true, same] using closed, ?_⟩
        rw [picture, timing]
        simp only [state, due, waits, if_true, Picture.patch, Client.Session.ended, Picture.record_record, List.nil_append]
      · have said := Controller.picture_sendToClient found (.testRequest (toString now ++ "ns"))
        have spoken : (timed.sendToClient session (.testRequest (toString now ++ "ns"))).sessions.find session =
            some { client with
              nextHeartbeat := now + env.settings.clientHeartbeatFreq
              outboundMsgSeqNum := client.outboundMsgSeqNum + 1 } := by
          simp [Controller.sendToClient, Controller.updateSession, found]
        refine ⟨_, by simp only [state, due, waits, if_true]; rfl, ?_⟩
        rw [← same, Controller.picture_updateSession spoken, said, timing]
        simp only [state, due, waits, if_true, if_false, Bool.false_eq_true, Picture.patch, Picture.record_record,
          List.nil_append, List.append_nil]
    · exact ⟨controller, by simp only [state, due, if_false], by simpa only [due, if_false] using rests⟩

end Client

namespace Client
variable {env : Env} {now : Nanoseconds} {controller first last : Controller}

private theorem timer_acts (env : Env) (now : Nanoseconds) : Outcome.Acts (timer env now) Controller.picture Picture.Prepared
    (Picture.visit fun session client => client.ticking env now session) := by
  intro session controller prepared
  unfold Picture.visit
  cases held : controller.picture.session session with
  | none =>
    refine ⟨controller, ?_, rfl, prepared⟩
    have absent : controller.sessions.find session = none := held
    simp only [timer, withSession, absent]
  | some client =>
    obtain ⟨after, returned, picture⟩ := picture_timer env now held prepared
    exact ⟨after, returned, picture, picture ▸ prepared.patch _⟩

private theorem forceDisconnect_acts (env : Env) : Outcome.Acts (forceDisconnect env) Controller.picture Picture.Prepared
    (Picture.visit fun session client => client.shutting session) := by
  intro session controller prepared
  unfold Picture.visit Session.shutting
  cases held : controller.picture.session session with
  | none =>
    refine ⟨controller, ?_, rfl, prepared⟩
    have absent : controller.sessions.find session = none := held
    simp only [forceDisconnect, close, withSession, absent]
  | some client =>
    have found : controller.sessions.find session = some client := held
    by_cases zombie : client.state = .zombie
    · refine ⟨controller, by simp only [forceDisconnect, close, withSession, found, zombie, if_true], ?_, prepared⟩
      simp only [zombie, if_true]
      exact ((congrArg (controller.picture.record session · []) held).symm.trans Picture.record_self).symm
    · obtain ⟨after, returned, picture⟩ := picture_close env found zombie prepared
      simp only [zombie, if_false]
      exact ⟨after, returned, picture, picture ▸ prepared.patch _⟩

/-- `remove_zombies`, with the dead sessions collected in some order. -/
def removeZombiesIn (collects : List Nat → List Nat) (now : Nanoseconds) (controller : Controller) : Controller :=
  if now < controller.nextGarbageCollection then controller else
  let controller := { controller with nextGarbageCollection := now + garbageCollectionFrequency }
  let controller := (collects controller.shared.sessionsToRemove).foldl (fun controller session => collect session controller)
    controller
  { controller with shared := { controller.shared with sessionsToRemove := [] } }

private theorem picture_collect (session : Nat) (controller : Controller) :
    (collect session controller).picture = controller.picture.collect session := by
  unfold collect Shared.sessionCleanupHelper Shared.sessionRemoveHelper
  cases named : controller.shared.sessionToUsername.find session with
  | none =>
    apply Picture.ext
    case session => simp [Controller.picture, Picture.collect]
    case holder => simp [Controller.picture, Picture.collect, named]
    case username =>
      have free : Function.update controller.picture.username session none = controller.picture.username :=
        Function.update_eq_self_iff.mpr named.symm
      exact free.symm
    all_goals rfl
  | some username =>
    apply Picture.ext
    case session => simp [Controller.picture, Picture.collect]
    case holder =>
      funext other
      simp [Controller.picture, Picture.collect, named, Function.update_apply, eq_comm]
    case username => simp [Controller.picture, Picture.collect]
    all_goals rfl

private theorem picture_collectAll (sessions : List Nat) (controller : Controller) :
    (sessions.foldl (fun controller session => collect session controller) controller).picture =
      sessions.foldl Picture.collect controller.picture := by
  induction sessions generalizing controller with
  | nil => rfl
  | cons session rest ih => rw [List.foldl_cons, ih, picture_collect, List.foldl_cons]

/-- Collections that begin alike end alike, in any order. -/
private theorem picture_removeZombiesIn {collects : List Nat → List Nat} (collected : ∀ items, (collects items).Perm items)
    (same : first.picture = last.picture) :
    (removeZombiesIn collects now first).picture = (removeZombies now last).picture := by
  have due : first.nextGarbageCollection = last.nextGarbageCollection := congrArg Picture.nextGarbageCollection same
  have doomed : first.shared.sessionsToRemove.Perm last.shared.sessionsToRemove :=
    Multiset.coe_eq_coe.mp (congrArg Picture.doomed same)
  unfold removeZombiesIn removeZombies
  rw [due]
  split
  · exact same
  · have swept (controller : Controller) : ({ controller with
        shared := { controller.shared with sessionsToRemove := [] } } : Controller).picture =
          { controller.picture with doomed := 0 } := rfl
    have timed (controller : Controller) : ({ controller with
        nextGarbageCollection := now + garbageCollectionFrequency } : Controller).picture =
          { controller.picture with nextGarbageCollection := now + garbageCollectionFrequency } := rfl
    simp only [swept, picture_collectAll, timed, same]
    rw [((collected first.shared.sessionsToRemove).trans doomed).foldl_eq]

end Client

/-- The timer event, with the sessions visited and the dead collected in some orders. -/
def timerIn (env : Env) (visits collects : List Nat → List Nat) (now : Nanoseconds) (controller : Controller) :
    Outcome Controller :=
  let controller := Server.timer env now controller
  (Outcome.forEach (visits controller.sessions.keys) (Client.timer env now) controller).andThen fun controller =>
    .done (Client.removeZombiesIn collects now controller)

/-- The loss of the upstream connection, with the sessions closed in some order. -/
def disconnectedIn (env : Env) (visits : List Nat → List Nat) (controller : Controller) : Outcome Controller :=
  (Outcome.forEach (visits controller.sessions.keys) (Client.forceDisconnect env)
    { controller with ready := false }).andThen fun controller => .done { controller with serverSession := {} }

namespace World
variable {env : Env} {world : World}

/-- In every reachable state the timer and the loss of the upstream connection come to the same,
whatever the order in which the sessions are visited and the dead ones are collected: the same
records, outputs to each connection, usernames, mappings and routes, and the same messages to
upstream but for their order and the ids of the log-offs. -/
theorem visits_unobserved (reachable : Reachable env world) {visits collects : List Nat → List Nat}
    (visited : ∀ items, (visits items).Perm items) (collected : ∀ items, (collects items).Perm items)
    (now : Nanoseconds) :
    (∃ after last, FixProxy.step env (.timer now) world.controller = .done after ∧
      timerIn env visits collects now world.controller = .done last ∧ last.picture = after.picture) ∧
    ∃ after last, FixProxy.step env .serverDisconnected world.controller = .done after ∧
      disconnectedIn env visits world.controller = .done last ∧ last.picture = after.picture := by
  constructor
  · have prepared : (Server.timer env now world.controller).picture.Prepared := by
      have sound := (consistent_of_reachable reachable).sound
      have quiet : (Server.timer env now world.controller).view world.answered = world.view :=
        Server.view_timer env now world.controller
      rw [← quiet] at sound
      exact sound.prepared
    obtain ⟨last, after, loop, loop', same, -⟩ := Outcome.forEach_permuted (Client.timer_acts env now) prepared
      (visited (Server.timer env now world.controller).sessions.keys)
    refine ⟨Client.removeZombies now after, Client.removeZombiesIn collects now last, ?_, ?_, ?_⟩
    · simp only [FixProxy.step, loop', Outcome.andThen_done]
    · simp only [timerIn, loop, Outcome.andThen_done]
    · exact Client.picture_removeZombiesIn collected same
  · have prepared : ({ world.controller with ready := false } : Controller).picture.Prepared :=
      fun ready => absurd ready Bool.false_ne_true
    obtain ⟨last, after, loop, loop', same, -⟩ := Outcome.forEach_permuted (Client.forceDisconnect_acts env) prepared
      (visited world.controller.sessions.keys)
    refine ⟨{ after with serverSession := {} }, { last with serverSession := {} }, ?_, ?_, ?_⟩
    · simp only [FixProxy.step, Server.disconnected, Controller.serverDisconnected, loop', Outcome.andThen_done]
    · simp only [disconnectedIn, loop, Outcome.andThen_done]
    · exact congrArg (fun picture : Picture => { picture with upstream := {} }) same

/-- A session is logged on and another one has arrived; both are visited backwards. -/
theorem visits_unobserved_two : ∃ world after last,
    RunsUnder Regular Deployment.env Deployment.users 0 (Deployment.loggedOn ++ [.accept 0]) world ∧
    world.controller.sessions.keys.length = 2 ∧
    FixProxy.step Deployment.env .serverDisconnected world.controller = .done after ∧
    disconnectedIn Deployment.env List.reverse world.controller = .done last ∧ last.picture = after.picture := by
  obtain ⟨world, runs, checked⟩ := exists_run_of_replay Regular Deployment.env Deployment.users 0
    (Deployment.loggedOn ++ [.accept 0]) (fun world => world.controller.sessions.keys.length == 2) (by decide +kernel)
  obtain ⟨-, after, last, performed, reversed, same⟩ := @visits_unobserved Deployment.env world
    (reachable_of_runsUnder runs) List.reverse List.reverse List.reverse_perm List.reverse_perm 0
  exact ⟨world, after, last, runs, beq_iff_eq.mp checked, performed, reversed, same⟩

end World
end FixProxy
