import FixProxy.Proofs.RouterIndex
import FixProxy.Proofs.ServerMoves

/-! The router simulates the process: every event that the environment permits is a
sequence of router steps, each of a kind that this event can cause. What all
router steps keep therefore holds in every reachable state of the process. -/

namespace FixProxy
open Codec
open Router (Moves Closes Step)

namespace Client
variable {answered : List String} {controller : Controller}

/-- A session that can do nothing any more. -/
def Dead (router : Router) (session : Nat) : Prop :=
  router.session session = none ∨ ∃ party, router.session session = some (.zombie, party)

theorem session_closes {before after : Router} {action : Action} {session : Nat} (closes : Closes session action)
    (step : Step before action after) :
    after.ready = before.ready ∧
      ∃ party, after.session = Function.update before.session session (some (.zombie, party)) := by
  obtain rfl | ends := closes
  · cases step with
    | drop => exact ⟨rfl, _, rfl⟩
  · cases step with
    | retire => cases ends; exact ⟨rfl, _, rfl⟩
    | retireAsking => cases ends; exact ⟨rfl, _, rfl⟩
    | _ => exact ends.elim

private theorem dead_closes {before after : Router} {action : Action} {session other : Nat} (closes : Closes other action)
    (step : Step before action after) (dead : Dead before session) : Dead after session := by
  obtain ⟨-, party, sessions⟩ := session_closes closes step
  by_cases same : session = other
  · subst other
    exact Or.inr ⟨party, by rw [sessions, Function.update_self]⟩
  · simpa [Dead, sessions, same] using dead

private theorem dead_moves {before after : Router} {session : Nat}
    (moves : Moves (fun _ action => ∃ session, Closes session action) before after) (dead : Dead before session) :
    Dead after session := by
  refine moves.preserves (Dead · session) (fun before action after closing step dead => ?_) dead
  obtain ⟨other, closes⟩ := closing
  exact dead_closes closes step dead

theorem known_step {before after : Router} {action : Action} {session : Nat} (step : Step before action after)
    (known : session ≤ before.lastSession) : session ≤ after.lastSession := by
  cases step with
  | accept => exact Nat.le_succ_of_le known
  | _ => exact known

/-- A session that has ended does not come back: ids are not reused. -/
theorem dead_step {before after : Router} {action : Action} {session : Nat} (step : Step before action after)
    (known : session ≤ before.lastSession) (dead : Dead before session) :
    Dead after session := by
  -- a step that changes a session finds it in a state that is not dead
  have other {changed : Nat} {state : State} {party : String} (held : before.session changed = some (state, party))
      (alive : state ≠ .zombie) : session ≠ changed := by
    rintro rfl
    obtain gone | ⟨party, zombie⟩ := dead
    · rw [held] at gone
      cases gone
    · rw [held] at zombie
      cases zombie
      exact alive rfl
  have kept {sessions : Nat → Option (State × String)} (same : sessions session = before.session session) :
      sessions session = none ∨ ∃ party, sessions session = some (.zombie, party) := by
    rw [same]
    exact dead
  cases step with
  | accept =>
    have different : session ≠ before.lastSession + 1 := by omega
    exact kept (Function.update_of_ne different ..)
  | nominate arriving => exact kept (Function.update_of_ne (other arriving (by decide)) ..)
  | logOn arriving => exact kept (Function.update_of_ne (other arriving (by decide)) ..)
  | strand arriving => exact kept (Function.update_of_ne (other arriving (by decide)) ..)
  | drop arriving => exact kept (Function.update_of_ne (other arriving (by decide)) ..)
  | logOff ready => exact kept (Function.update_of_ne (other ready (by decide)) ..)
  | retire held active =>
    exact kept (Function.update_of_ne (other held (by rintro rfl; exact active)) ..)
  | retireAsking held active =>
    exact kept (Function.update_of_ne (other held (by rintro rfl; exact active)) ..)
  | @grant id username asker state party answers pending held =>
    by_cases same : session = asker
    · subst session
      have zombie : state = .zombie := by
        by_contra alive
        exact other held alive rfl
      exact kept (by simp [held, zombie])
    · exact kept (Function.update_of_ne same ..)
  | sweep =>
    by_cases collected : session ∈ before.doomed
    · exact Or.inl (if_pos collected)
    · exact kept (if_neg collected)
  | _ => exact dead

theorem closeAll (env : Env) (sessions : List Nat) (controller : Controller)
    (sound : (controller.view answered).Sound) :
    ∃ after, Outcome.forEach sessions (forceDisconnect env) controller = .done after ∧
      Moves (fun _ action => ∃ session, Closes session action) (controller.view answered) (after.view answered) ∧
      ∀ session ∈ sessions, Dead (after.view answered) session := by
  induction sessions generalizing controller with
  | nil => exact ⟨controller, rfl, .refl _, by simp⟩
  | cons session rest ih =>
    obtain ⟨closed, close, ended⟩ := close_ends env session sound
    obtain ⟨after, others, moves, dead⟩ := ih closed (sound_ended sound ended)
    refine ⟨after, by rw [Outcome.forEach, forceDisconnect, close, Outcome.andThen_done, others], ?_, ?_⟩
    · exact ((Router.moves_of_ended ended).mono fun _ _ closes => ⟨session, closes⟩).trans moves
    · intro other member
      rcases List.mem_cons.mp member with rfl | later
      · exact dead_moves moves (dead_of_ended ended)
      · exact dead other later

private theorem view_collect (session : Nat) (controller : Controller) :
    (collect session controller).view answered =
      { controller.view answered with
        session := Function.update (controller.view answered).session session none } := by
  obtain ⟨doomed, lastSession, lastRequest⟩ := sessionRemoveHelper_frame session controller.shared
  simp only [collect, Controller.view, Shared.sessionCleanupHelper, doomed, lastSession, lastRequest, Map.find_erase_fun]
  congr 1
  funext other
  by_cases same : other = session <;> simp [same]

private theorem view_collectAll (sessions : List Nat) (controller : Controller) :
    (sessions.foldl (fun controller session => collect session controller) controller).view answered =
      { controller.view answered with
        session := fun session => if session ∈ sessions then none else (controller.view answered).session session } := by
  induction sessions generalizing controller with
  | nil => simp
  | cons session rest ih =>
    rw [List.foldl_cons, ih, view_collect]
    simp only [List.mem_cons]
    congr 1
    funext other
    by_cases same : other = session <;> simp [same]

private theorem removeZombies_moves (now : Nanoseconds) (controller : Controller) :
    Moves (fun _ action => action = .sweep) (controller.view answered) ((removeZombies now controller).view answered) := by
  unfold removeZombies
  split
  · exact .refl _
  · refine .single .sweep rfl ?_
    have emptied (controller : Controller) :
        ({ controller with shared := { controller.shared with sessionsToRemove := [] } } : Controller).view answered =
          { controller.view answered with doomed := [] } := rfl
    simp only
    rw [emptied, view_collectAll]
    exact .sweep

end Client

/-! Every event. -/

private theorem Client.accept_step (env : Env) (answered : List String) (now : Nanoseconds) (controller : Controller) :
    Step (controller.view answered) .accept ((accept env now controller).view answered) := by
  have opened : (accept env now controller).view answered =
      { controller.view answered with
        lastSession := controller.shared.nextSessionId + 1
        session := emplace (controller.view answered).session (controller.shared.nextSessionId + 1) (.waitingLogon, "") } := by
    simp only [accept, Controller.view, Map.find_tryEmplace_fun]
    congr 1
    funext session
    simp only [emplace, Function.update_apply]
    split
    · cases controller.sessions.find (controller.shared.nextSessionId + 1) <;> rfl
    · rfl
  rw [opened]
  exact .accept

/-- The actions that an input can cause, and from where. -/
def Caused (before : World) (input : Input) (after : World) (router : Router) (action : Action) : Prop :=
  match input with
  | .timer _ => action = .sweep ∨ ∃ session, Closes session action
  | .accept _ => action = .accept
  | .read session _ _ message =>
    Client.Reads session message before.view.session before.controller.log after.controller.log router action ∨
      Router.Preliminary session action
  | .readError session | .disconnected session => Closes session action
  | .serverConnected => action = .connect
  | .serverDisconnected => action = .unready ∨ action = .lost ∨ ∃ session, Closes session action
  | .serverRead _ (.userResponse value) => Controller.Answering value before.view router action
  | .serverRead _ .logon => action = .login
  | .serverRead _ (.response _) => Controller.Releases action
  | .serverRead _ _ | .authInsert _ _ _ | .authRemove _ => False

/-- An entry made in an index. -/
def Action.Opens : Action → Prop
  | .openFresh _ _ _ _ | .openStamped _ _ _ _ _ | .enter _ _ => True
  | _ => False

def Action.Asking : Action → Prop
  | .logOn _ _ | .strand _ | .logOff _ => True
  | .openFresh _ _ _ _ | .openStamped _ _ _ _ _ | .enter _ _ => True
  | _ => False

theorem not_closes_of_answer {session : Nat} {action : Action} (answer : action.Answer) : ¬ Closes session action := by
  rintro (rfl | ends)
  · exact answer
  · cases action <;> first | exact answer | exact ends

private theorem not_closes_of_opens {session : Nat} {action : Action} (opens : action.Opens) : ¬ Closes session action := by
  rintro (rfl | ends)
  · exact opens
  · cases action <;> first | exact opens | exact ends

theorem not_closes_of_asking {session : Nat} {action : Action} (asking : action.Asking) : ¬ Closes session action := by
  rintro (rfl | ends)
  · exact asking
  · cases action <;> first | exact asking | exact ends

/-- Only a user response changes the routes as an answer does. -/
theorem caused_answer {before after : World} {input : Input} {router : Router} {action : Action}
    (caused : Caused before input after router action) (answer : action.Answer) :
    ∃ response ∈ input.answer, Controller.Answering response before.view router action := by
  have lives session : ¬ Closes session action := not_closes_of_answer answer
  cases input with
  | serverRead msgSeqNum message =>
    cases message with
    | userResponse value => exact ⟨value, rfl, caused⟩
    | logon => exact absurd answer (caused ▸ id)
    | response value => cases action <;> first | exact answer.elim | exact caused.elim
    | _ => exact caused.elim
  | read session clock header message =>
    obtain (closes | reads) | preliminary := caused
    · exact absurd closes (lives session)
    · cases message <;> cases action <;> first | exact answer.elim | simp [Client.LogsOn, Router.Requests] at reads
    · cases action <;> first | exact answer.elim | exact preliminary.elim
  | timer now =>
    obtain rfl | ⟨session, closes⟩ := caused
    · exact answer.elim
    · exact absurd closes (lives session)
  | serverDisconnected =>
    obtain rfl | rfl | ⟨session, closes⟩ := caused
    · exact answer.elim
    · exact answer.elim
    · exact absurd closes (lives session)
  | readError session => exact absurd caused (lives session)
  | disconnected session => exact absurd caused (lives session)
  | accept => exact absurd answer (caused ▸ id)
  | serverConnected => exact absurd answer (caused ▸ id)
  | _ => exact caused.elim

private theorem caused_asking {before after : World} {input : Input} {router : Router} {action : Action}
    (caused : Caused before input after router action) (asking : action.Asking) :
    ∃ session clock header message, input = .read session clock header message ∧
      Client.Reads session message before.view.session before.controller.log after.controller.log router action := by
  have lives session : ¬ Closes session action := not_closes_of_asking asking
  cases input with
  | serverRead msgSeqNum message =>
    cases message with
    | userResponse value =>
      cases action with
      | logOn | strand | logOff | openFresh | openStamped | enter =>
        obtain ⟨session, -, closes⟩ := caused
        exact absurd closes (lives session)
      | _ => exact asking.elim
    | logon => exact absurd asking (caused ▸ id)
    | response value => cases action <;> first | exact asking.elim | exact caused.elim
    | _ => exact caused.elim
  | read session clock header message =>
    obtain reads | preliminary := caused
    · exact ⟨session, clock, header, message, rfl, reads⟩
    · cases action <;> first | exact asking.elim | exact preliminary.elim
  | timer now =>
    obtain rfl | ⟨session, closes⟩ := caused
    · exact asking.elim
    · exact absurd closes (lives session)
  | serverDisconnected =>
    obtain rfl | rfl | ⟨session, closes⟩ := caused
    · exact asking.elim
    · exact asking.elim
    · exact absurd closes (lives session)
  | readError session => exact absurd caused (lives session)
  | disconnected session => exact absurd caused (lives session)
  | accept => exact absurd asking (caused ▸ id)
  | serverConnected => exact absurd asking (caused ▸ id)
  | _ => exact caused.elim

theorem caused_opens {before after : World} {input : Input} {router : Router} {action : Action}
    (caused : Caused before input after router action) (opens : action.Opens) :
    ∃ session clock header request, input = .read session clock header (.request request) ∧
      Router.Requests session request before.view.session before.controller.log after.controller.log router action := by
  obtain ⟨session, clock, header, message, rfl, closes | reads⟩ := caused_asking caused (by cases action <;> trivial)
  · exact absurd closes (not_closes_of_opens opens)
  · cases message with
    | request request => exact ⟨session, clock, header, request, rfl, reads⟩
    | _ => cases action <;> first | exact opens.elim | exact reads.elim | simp [Client.LogsOn] at reads

theorem caused_logon {before after : World} {input : Input} {router : Router} {action : Action} {session : Nat}
    (caused : Caused before input after router action)
    (enlists : action = .strand session ∨ ∃ party, action = .logOn session party) :
    ∃ reader clock header value, input = .read reader clock header (.logon value) := by
  have asking : action.Asking := by rcases enlists with rfl | ⟨party, rfl⟩ <;> trivial
  obtain ⟨reader, clock, header, message, rfl, closes | reads⟩ := caused_asking caused asking
  · exact absurd closes (not_closes_of_asking asking)
  · cases message with
    | logon value => exact ⟨reader, clock, header, value, rfl⟩
    | _ => rcases enlists with rfl | ⟨party, rfl⟩ <;> first | exact reads.elim | cases reads

theorem caused_logout {before after : World} {input : Input} {router : Router} {session : Nat}
    (caused : Caused before input after router (.logOff session)) :
    ∃ clock header, input = .read session clock header .logout := by
  obtain ⟨reader, clock, header, message, rfl, closes | reads⟩ := caused_asking caused trivial
  · exact absurd closes (not_closes_of_asking trivial)
  · cases message with
    | logout =>
      cases reads
      exact ⟨clock, header, rfl⟩
    | logon => simp [Client.LogsOn] at reads
    | _ => exact reads.elim

namespace Server
variable {answered : List String} {controller : Controller}

theorem view_timer (env : Env) (now : Nanoseconds) (controller : Controller) :
    (timer env now controller).view answered = controller.view answered := by
  unfold timer
  split
  · rfl
  · split
    · exact Controller.view_sendToServer _ _ fun _ => by simp
    · rfl

theorem connected_moves (env : Env) (down : (controller.view answered).upstream = .disconnected) :
    Step (controller.view answered) .connect ((connected env controller).view answered) := by
  have sent : (sendLogon env controller).view answered = controller.view answered :=
    Controller.view_sendToServer _ _ fun _ => by simp
  have connecting (controller : Controller) : (setState .logonSent controller).view answered =
      { controller.view answered with upstream := .logonSent } := rfl
  unfold connected
  rw [connecting, sent]
  exact .connect down

/-- Losing the upstream connection closes every session, while the controller is not
ready, and only then the connection is reset. -/
theorem disconnected_closes (env : Env) (sound : (controller.view answered).Sound) :
    ∃ closed : Controller, disconnected env controller = .done { closed with serverSession := {} } ∧
      Moves (fun _ action => ∃ session, Closes session action)
        { controller.view answered with ready := false } (closed.view answered) ∧
      ∀ session, Client.Dead (closed.view answered) session := by
  obtain ⟨closed, call, moves, dead⟩ := Client.closeAll env controller.sessions.keys { controller with ready := false }
    (Router.sound_step (@Step.unready (controller.view answered)) sound)
  refine ⟨closed, by simp [disconnected, Controller.serverDisconnected, call], moves, fun session => ?_⟩
  by_cases member : session ∈ controller.sessions.keys
  · exact dead session member
  · refine Client.dead_moves moves (Or.inl ?_)
    have absent : controller.sessions.find session = none := by simpa [Map.mem_keys] using member
    simp [Controller.view, absent]

theorem disconnected_moves (env : Env) (sound : (controller.view answered).Sound) :
    ∃ after, disconnected env controller = .done after ∧
      Moves (fun router action =>
          action = .unready ∨ action = .lost ∨ router.ready = false ∧ ∃ session, Closes session action)
        (controller.view answered) (after.view answered) ∧
      (after.view answered).ready = false ∧ (after.view answered).upstream = .disconnected := by
  obtain ⟨closed, call, moves, dead⟩ := disconnected_closes env sound
  have kept (router : Router) (action : Action) (next : Router) (closing : ∃ session, Closes session action)
      (step : Step router action next) (unready : router.ready = false) : next.ready = false := by
    obtain ⟨session, closes⟩ := closing
    exact (Client.session_closes closes step).1.trans unready
  have closing := moves.refine (fun router => router.ready = false) kept (fun _ _ _ closes _ unready => And.intro unready closes) rfl
  have unready := moves.preserves (fun router => router.ready = false) kept rfl
  refine ⟨_, call, .trans (.single .unready (Or.inl rfl) .unready)
    (.trans (closing.mono fun _ _ closes => Or.inr (Or.inr closes)) (.single .lost (Or.inr (Or.inl rfl)) ?_)), unready, rfl⟩
  have lost : ({ closed with serverSession := {} } : Controller).view answered =
      { closed.view answered with upstream := .disconnected } := rfl
  rw [lost]
  refine .lost unready ?_
  intro session state party held
  obtain gone | ⟨party, zombie⟩ := dead session
  · rw [gone] at held
    cases held
  · rw [zombie] at held
    cases held
    rfl

end Server

private theorem timer_leaves (env : Env) (answered : List String) (now : Nanoseconds) (controller : Controller)
    (sound : (controller.view answered).Sound) :
    ((Outcome.forEach controller.sessions.keys (Client.timer env now) controller).andThen fun controller =>
        .done (Client.removeZombies now controller)).Leaves
      (fun after => Moves (fun _ action => action = .sweep ∨ ∃ session, Closes session action)
        (controller.view answered) (after.view answered)) fun _ => False := by
  have looped : (Outcome.forEach controller.sessions.keys (Client.timer env now) controller).Leaves
      (fun after => Moves (fun _ action => ∃ session, Closes session action)
        (controller.view answered) (after.view answered)) fun _ => False := by
    refine Outcome.Leaves.forEach (fun session _ middle moves => ?_) (.refl _)
    refine Outcome.Leaves.mono (fun after closes => ?_) (fun _ never => never)
      (Client.timer_yields env now (Moves.sound moves sound))
    exact Moves.trans moves (closes.mono fun _ _ ends => ⟨session, ends⟩)
  refine looped.andThen fun middle _ moves => ?_
  exact (Moves.mono (fun _ _ => Or.inr) moves).trans
    ((Client.removeZombies_moves now middle).mono fun _ _ => Or.inl)

namespace World

theorem step_aborts (env : Env) {before : World} {input : Input} {response : UserResponse}
    (answer : response ∈ input.answer) (aborts : before.controller.Aborts response) :
    ∃ what, FixProxy.step env input before.controller = .fatal what := by
  cases input with
  | serverRead msgSeqNum message =>
    cases message with
    | userResponse value =>
      cases answer
      exact Controller.userResponse_aborts env aborts
    | _ => cases answer
  | _ => cases answer

/-- No event ends in an exception and only an answer aborts the process. What an event
leaves behind is reached by actions it can cause. -/
theorem step_leaves (env : Env) {before : World} (input : Input) (permitted : before.Permits input)
    (consistent : before.view.Consistent)
    (unaborted : ∀ response ∈ input.answer, ¬ before.controller.Aborts response) :
    (FixProxy.step env input before.controller).Leaves
      (fun after =>
        let world : World := ⟨after, before.answered ++ (input.answer.map (·.userRequestId)).toList⟩
        Moves (Caused before input world) before.view world.view) fun _ => False := by
  have silent {input : Input} (none : input.answer = none) :
      before.answered ++ (input.answer.map (·.userRequestId)).toList = before.answered := by
    simp [none]
  have sound := consistent.sound
  cases input with
  | timer now =>
    rw [silent rfl]
    have quiet : (Server.timer env now before.controller).view before.answered = before.view :=
      Server.view_timer env now before.controller
    have timed := timer_leaves env before.answered now (Server.timer env now before.controller) (by rw [quiet]; exact sound)
    rw [quiet] at timed
    exact timed
  | accept now =>
    rw [silent rfl]
    exact .single .accept rfl (Client.accept_step env _ now before.controller)
  | read session clock header message =>
    rw [silent rfl]
    exact Client.read_leaves env message header clock consistent
  | readError session =>
    rw [silent rfl]
    exact Client.close_yields env sound
  | disconnected session =>
    rw [silent rfl]
    exact Client.makeZombie_yields sound
  | serverConnected =>
    rw [silent rfl]
    exact .single .connect rfl (Server.connected_moves env permitted)
  | serverDisconnected =>
    rw [silent rfl]
    obtain ⟨after, call, moves, -⟩ := Server.disconnected_moves env sound
    rw [FixProxy.step, call]
    exact moves.mono fun _ _ caused => caused.imp id fun closing => closing.imp id And.right
  | serverRead msgSeqNum message =>
    let controller : Controller := { before.controller with
      serverSession := { before.controller.serverSession with inboundMsgSeqNum := msgSeqNum } }
    have counted : controller.view before.answered = before.view := rfl
    cases message with
    | userResponse value =>
      obtain ⟨-, request, waiting, id, username⟩ := permitted
      obtain ⟨asked, unanswered⟩ := mem_unanswered.mp waiting
      have answers : before.view.Answers value.userRequestId value.username :=
        ⟨request, asked, id, username, id ▸ unanswered⟩
      exact Controller.userResponse_leaves env value sound answers (unaborted value rfl)
    | response value =>
      rw [silent rfl]
      exact Controller.response_moves env value controller
    | logon =>
      rw [silent rfl]
      exact .single .login rfl (.login permitted)
    | testRequest testReqId =>
      rw [silent rfl]
      exact .of_eq (Controller.view_sendToServer _ _ fun _ => by simp)
    | _ =>
      rw [silent rfl]
      exact .refl _
  | authInsert username password strategyId =>
    rw [silent rfl]
    exact .refl _
  | authRemove username =>
    rw [silent rfl]
    exact .refl _

end World
end FixProxy
