import FixProxy.Proofs.Texts
import FixProxy.Proofs.Usernames

/-! Who is let in. A logon is admitted on what the configuration and the authentication service
have said of its username so far, on who else is logged on, and on the state of the upstream
connection; and on nothing else. -/

namespace FixProxy
open Codec

/-- All that a logon looks at is the same. -/
structure Controller.Alike (controller other : Controller) : Prop where
  shared : controller.shared = other.shared
  serverSession : controller.serverSession = other.serverSession
  locked : ∀ username, controller.userIsLocked username = other.userIsLocked username

namespace Client
variable {env : Env} {controller after last : Controller} {session : Nat} {client : Session} {header : Header}
  {value : Logon} {clock : Clock}

/-- The session has passed its logon and waits for its route. -/
def Admitted (session : Nat) (controller : Controller) : Prop :=
  ∃ client, controller.sessions.find session = some client ∧ client.state = .waitingCreateRoute

private theorem not_admitted_of_closed (message : ToClient) (held : controller.sessions.find session = some client)
    (alive : client.state ≠ .zombie) (returned : sendAndClose env session message controller = .done after) :
    ¬ Admitted session after := by
  obtain ⟨partings, -, same⟩ := sendAndClose_does env message held alive returned
  have buried : after.sessions.find session =
      some { client with outboundMsgSeqNum := client.outboundMsgSeqNum + 1, state := .zombie } :=
    (congrFun (congrArg Roster.session same) session).trans (Function.update_self ..)
  rintro ⟨other, found, waiting⟩
  rw [buried] at found
  cases found
  cases waiting

private theorem userRequest_done_iff {userRequestId username : String} {outcome : Outcome Controller}
    (asked : controller.userRequest { userRequestId, userRequestType := .logOnUser, username } session = outcome)
    (lives : outcome.isFatal = false) :
    (∃ after, outcome = .done after) ↔
      controller.userIsLocked username = false ∧ controller.serverSession.state = .ready := by
  subst asked
  unfold Controller.userRequest at lives ⊢
  simp only at lives ⊢
  split at lives
  · next taken => simp [taken]
  · next free =>
    rw [if_neg free]
    unfold Controller.registerUserRequest Controller.dispatchToServer at lives ⊢
    simp only at lives ⊢
    split at lives
    · next fresh =>
      rw [if_pos fresh]
      have serverSession user : (controller.setUser user).serverSession = controller.serverSession := rfl
      simp only [serverSession]
      split
      · next ready => simp [ready, free]
      · next down => simp [down]
    · cases lives

private theorem logonAccepted_admits_iff {now : Nanoseconds} {strategyId : Nat}
    (held : controller.sessions.find session = some client)
    (arriving : client.state = .waitingLogon)
    (returned : logonAccepted env value header now strategyId session controller = .done last) :
    Admitted session last ↔
      controller.userIsLocked (toString strategyId) = false ∧ controller.serverSession.state = .ready := by
  let named : Session := { client with username := value.username, partyId := toString strategyId }
  let drawn : Controller := (controller.updateSession session fun client =>
    { client with username := value.username, partyId := toString strategyId }).createRequestId.2
  have heldDrawn : drawn.sessions.find session = some named :=
    found_updateSession held fun client => { client with username := value.username, partyId := toString strategyId }
  unfold logonAccepted at returned
  simp only at returned
  generalize requested : Controller.userRequest _ session _ = outcome at returned
  have decided (lives : outcome.isFatal = false) := userRequest_done_iff requested lives
  cases outcome with
  | fatal what => cases returned
  | done asked =>
    cases returned
    have heldAsked : asked.sessions.find session = some named :=
      Controller.found_of_roster (userRequest_logOn_done requested) heldDrawn
    refine iff_of_true ?_ ((decided rfl).mp ⟨asked, rfl⟩)
    exact ⟨_, found_updateSession heldAsked fun client =>
      { client with
        state := .waitingCreateRoute
        userResponseTimeout := now + env.settings.serverRequestTimeout }, rfl⟩
  | thrown what refused =>
    have heldRefused : refused.sessions.find session = some named :=
      Controller.found_of_roster (userRequest_logOn_thrown requested) heldDrawn
    refine iff_of_false (not_admitted_of_closed _ heldRefused (by simp [named, arriving]) returned) fun free => ?_
    obtain ⟨asked, done⟩ := (decided rfl).mpr free
    cases done

private theorem logon_admits_iff (held : controller.sessions.find session = some client)
    (arriving : client.state = .waitingLogon) (returned : logon env value header clock session controller = .done last) :
    Admitted session last ↔ validateLogon env value header = none ∧ controller.serverSession.state = .ready ∧
      ∃ strategyId shared, controller.shared.sessionLogonHelper env.library.toLibrary env.settings clock.realtime session
          value.username value.password value.rawData = .ok (strategyId, shared) ∧
        controller.userIsLocked (toString strategyId) = false := by
  unfold logon withSession at returned
  simp only [held, arriving] at returned
  have heldSeen : (controller.updateSession session fun client =>
      { client with compId := header.senderCompId }).sessions.find session =
        some { client with compId := header.senderCompId } := found_updateSession held _
  have same : (controller.updateSession session fun client => { client with compId := header.senderCompId }).Alike
    controller := ⟨rfl, rfl, fun _ => rfl⟩
  generalize controller.updateSession session (fun client => { client with compId := header.senderCompId }) = seen at *
  rw [← same.shared, ← same.serverSession]
  split at returned
  · next text invalid =>
    refine iff_of_false (not_admitted_of_closed _ heldSeen (by simp [arriving]) returned) ?_
    simp [invalid]
  · next valid =>
    split at returned
    · next reason refused =>
      refine iff_of_false (not_admitted_of_closed _ heldSeen (by simp [arriving]) returned) ?_
      rintro ⟨-, -, strategyId, shared, accepted, -⟩
      cases accepted.symm.trans refused
    · next strategyId shared accepted =>
      have heldAccepted : ({ seen with shared } : Controller).sessions.find session =
        some { client with compId := header.senderCompId } := heldSeen
      have decided := logonAccepted_admits_iff heldAccepted arriving returned
      rw [decided]
      constructor
      · rintro ⟨free, ready⟩
        exact ⟨valid, ready, strategyId, shared, accepted, (same.locked _).symm.trans free⟩
      · rintro ⟨-, ready, other, after, again, free⟩
        cases again.symm.trans accepted
        exact ⟨(same.locked _).trans free, ready⟩

private theorem read_admits_iff {answered : List String} (consistent : (controller.view answered).Consistent)
    (held : controller.sessions.find session = some client) (arriving : client.state = .waitingLogon)
    (returned : read env (.logon value) header clock session controller = .done last) :
    Admitted session last ↔ validateLogon env value header = none ∧ controller.serverSession.state = .ready ∧
      ∃ strategyId shared, controller.shared.sessionLogonHelper env.library.toLibrary env.settings clock.realtime session
          value.username value.password value.rawData = .ok (strategyId, shared) ∧
        controller.userIsLocked (toString strategyId) = false := by
  obtain ⟨seen, found, state, -⟩ := @received_find controller session client header held
  rw [← @view_received controller session header answered] at consistent
  have returns : (logon env value header clock session (received header session controller)).Gives fun _ => True :=
    (Outcome.Gives.of_leaves (logon_leaves env value header clock consistent)).mono fun _ _ => trivial
  unfold read withSession at returned
  simp only [held, arriving, reduceCtorEq, if_false] at returned
  have parsed : parse env (.logon value) header clock session (controller.updateSession session fun client =>
      { client with inboundMsgSeqNum := header.msgSeqNum }) =
    logon env value header clock session (received header session controller) := rfl
  rw [parsed] at returned
  cases called : logon env value header clock session (received header session controller) with
  | done after =>
    rw [called] at returned
    cases returned
    have decided := logon_admits_iff found (state.trans arriving) called
    exact decided
  | thrown what after =>
    rw [called] at returns
    exact returns.elim
  | fatal what =>
    rw [called] at returned
    cases returned

end Client

namespace World
variable {env : Env} {library : Auth.Library} {users : Map String (String × Nat)} {realtime : Nat} {before after : World}
  {events : List Auth.Session.Event} {session : Nat} {client : Client.Session} {clock : Clock} {header : Header}
  {value : Logon}

/-- Nobody who is logged on, or is about to be, has the username. -/
def Unused (world : World) (username : String) : Prop :=
  ∀ session client, world.session session = some client → client.state.Active → client.username ≠ username

private theorem unused_iff {username : String} (registered : before.roster.Registered) :
    before.Unused username ↔ before.controller.shared.usernameToSession.find username = none := by
  have login session client (held : before.session session = some client) :
      before.roster.username session = client.login := by
    have found : before.roster.session session = some client := held
    rw [registered.named, found]
    rfl
  constructor
  · intro unused
    by_contra taken
    obtain ⟨session, holds⟩ := Option.ne_none_iff_exists'.mp taken
    have named : before.roster.username session = some username := (registered.inverse username session).mp holds
    obtain ⟨client, held, name⟩ := Option.bind_eq_some_iff.mp ((registered.named session).symm.trans named)
    have active : client.state.Active ∧ client.username = username := by
      unfold Client.Session.login at name
      split at name <;> simp_all [Client.State.Active]
    exact unused session client held active.1 active.2
  · intro free session client held active name
    have named : before.roster.username session = some username := by
      rw [login session client held, Client.Session.login, name]
      split <;> simp_all [Client.State.Active]
    have holds : before.roster.holder username = some session := (registered.inverse username session).mpr named
    cases free.symm.trans holds

/-- Whatever has happened: a session that sends its logon is let in if and only if the fields of
the logon are in order, the upstream connection is ready, nobody else uses the username or holds
the route, and the last that the configuration or the authentication service has said of the
username is a user whose password matches. -/
theorem logon_admitted_iff (runs : Auth.Session.Runs env library users realtime events before)
    (step : Step env before (.read session clock header (.logon value)) after) (held : before.session session = some client)
    (arriving : client.state = .waitingLogon) :
    (∃ last, after.session session = some last ∧ last.state = .waitingCreateRoute) ↔
      Client.validateLogon env value header = none ∧ before.controller.serverSession.state = .ready ∧
      before.Unused value.username ∧
      ∃ secret strategyId,
        Journal.replay users.find (events.flatMap (Auth.Session.Event.writes library)) value.username =
          some (secret, strategyId) ∧
        Crypto.validate env.library.toLibrary env.settings.clientAuthMethod env.settings.clientAuthTimestampTolerance
          clock.realtime value.password secret value.rawData = true ∧
        before.controller.userIsLocked (toString strategyId) = false := by
  have reachable : Reachable env before := ⟨users, realtime, _, Auth.Session.run_of_events runs⟩
  have known : before.credentials = _ := credentials_of_events runs
  have decided := Client.read_admits_iff (consistent_of_reachable reachable) held arriving step.performed
  rw [← known, unused_iff (registered_of_reachable reachable)]
  refine decided.trans ?_
  unfold Shared.sessionLogonHelper
  constructor
  · rintro ⟨valid, ready, strategyId, shared, accepted, free⟩
    split at accepted
    · cases accepted
    · next secret stored found =>
      split at accepted
      · cases accepted
      · next matching =>
        split at accepted
        · cases accepted
        · next unused =>
          cases accepted
          exact ⟨valid, ready, by simpa using unused, secret, strategyId, found, by simpa using matching, free⟩
  · rintro ⟨valid, ready, unused, secret, strategyId, found, matching, free⟩
    have stored : before.controller.shared.usernameToPasswordAndStrategyId.find value.username = some (secret, strategyId) :=
      found
    exact ⟨valid, ready, strategyId, _, by simp only [stored, matching, unused]; rfl, free⟩

/-- A client connects, and the authentication service has news. -/
def news : List Auth.Session.Event := Deployment.connected.map .input ++ [.text Deployment.notice]

/-- The client logs on as a user who has just been inserted. -/
theorem logon_admitted_iff_notice : ∃ before secret strategyId,
    Auth.Session.Runs Deployment.env Deployment.json Deployment.users 0 news before ∧
      Journal.replay Deployment.users.find (news.flatMap (Auth.Session.Event.writes Deployment.json)) "new" =
        some (secret, strategyId) ∧
      before.controller.userIsLocked (toString strategyId) = false := by
  let notified (world : World) : World :=
    { world with controller := Auth.Session.obey (Auth.Session.actions Deployment.json Deployment.notice) world.controller }
  let logon : Logon := { heartBtInt := 5, resetSeqNumFlag := true, username := "new", password := "pw" }
  obtain ⟨world, runs, checked⟩ := exists_run_of_replay Regular Deployment.env Deployment.users 0 Deployment.connected
    (fun world => ((notified world).session 1).any (fun client => client.state == .waitingLogon) &&
      (next Regular Deployment.env (notified world) (Deployment.sends 1 (.logon logon))).any fun after =>
        (after.session 1).any fun client => client.state == .waitingCreateRoute) (by decide +kernel)
  simp only [Bool.and_eq_true, Option.any_eq_true, beq_iff_eq] at checked
  obtain ⟨⟨client, held, arriving⟩, after, performed, last, heldLast, waiting⟩ := checked
  have wired : Auth.Session.Runs Deployment.env Deployment.json Deployment.users 0 news (notified world) :=
    (Auth.Session.run_of_inputs (runs_of_runsUnder runs)).snoc (.text (Auth.Session.left_text ..))
  have step := (next_eq_some Regular Deployment.env performed).2
  obtain ⟨-, -, -, secret, strategyId, known, -, free⟩ :=
    (logon_admitted_iff wired step held arriving).mp ⟨last, heldLast, waiting⟩
  exact ⟨_, secret, strategyId, wired, known, free⟩

end World
end FixProxy
