import FixProxy.Proofs.Quits

/-! What an event does to the user requests, with what is known of each action: whose
logon is passed on, and which sessions end with their client id still to be logged off. -/

namespace FixProxy
open Codec
open Router (Moves Closes)

namespace Router

private theorem Moves.dying {allowed : Router → Action → Prop} {before after : Router} (moves : Moves allowed before after) :
    Moves (fun router action => allowed router action ∧
      ∀ session, Closes session action → session ≤ before.lastSession → Client.Dead after session) before after := by
  obtain ⟨actions, run⟩ := moves
  have back := run.back (fun router => before.lastSession ≤ router.lastSession)
    (fun router => ∀ session, session ≤ before.lastSession → ¬ Client.Dead after session → ¬ Client.Dead router session)
    (fun performed later => Nat.le_trans later (Client.known_step performed.2 (Nat.le_refl _)))
    (fun performed later alive session known last dead =>
      alive session known last (Client.dead_step performed.2 (Nat.le_trans known later) dead))
    (Nat.le_refl _) fun _ _ alive => alive
  refine ⟨actions, back.2.mono fun performed => ⟨⟨performed.1.1, ?_⟩, performed.1.2⟩⟩
  intro session closes known
  by_contra alive
  refine performed.2 session known alive ?_
  obtain ⟨-, party, sessions⟩ := Client.session_closes closes performed.1.2
  exact Or.inr ⟨party, by rw [sessions, Function.update_self]⟩

/-- Where the sessions that can have a route come from, in an event that answers nothing. -/
structure Origin (first : Router) (departs : Nat → Prop) (router : Router) : Prop where
  ready : ∀ session party, router.session session = some (.ready, party) → first.session session = some (.ready, party)
  leaving : ∀ session party, router.session session = some (.waitingRemoveRoute, party) →
    first.session session = some (.waitingRemoveRoute, party) ∨
      first.session session = some (.ready, party) ∧ departs session
  owner : ∀ session username, router.owner session = some username → first.owner session = some username

theorem Origin.refl (first : Router) (departs : Nat → Prop) : Origin first departs first :=
  ⟨fun _ _ => id, fun _ _ => Or.inl, fun _ _ => id⟩

theorem Origin.fewer {first before after : Router} {departs : Nat → Prop} (origin : Origin first departs before)
    (sessions : ∀ session state party, state = .ready ∨ state = .waitingRemoveRoute →
      after.session session = some (state, party) → before.session session = some (state, party))
    (owners : ∀ session username, after.owner session = some username → before.owner session = some username) :
    Origin first departs after where
  ready session party held := origin.ready session party (sessions session _ party (Or.inl rfl) held)
  leaving session party held := origin.leaving session party (sessions session _ party (Or.inr rfl) held)
  owner session username owned := origin.owner session username (owners session username owned)

theorem origin_step {first before after : Router} {departs : Nat → Prop} {action : Action} (step : Step before action after)
    (quiet : ¬ action.Answer) (leaves : ∀ session, action = .logOff session → departs session)
    (origin : Origin first departs before) : Origin first departs after := by
  have changed {other : Nat} {fate : Client.State} {name : String} (unready : fate ≠ .ready) (staying : fate ≠ .waitingRemoveRoute)
      (session : Nat) (state : Client.State) (party : String) (routed : state = .ready ∨ state = .waitingRemoveRoute)
      (held : Function.update before.session other (some (fate, name)) session = some (state, party)) :
      before.session session = some (state, party) := by
    by_cases same : session = other
    · subst other
      rw [Function.update_self] at held
      cases held
      exact (routed.elim unready staying).elim
    · exact (Function.update_of_ne same ..).symm.trans held
  have disowned {other : Nat} (session : Nat) (username : String)
      (owned : Function.update before.owner other none session = some username) : before.owner session = some username := by
    by_cases same : session = other
    · subst other
      simp at owned
    · exact (Function.update_of_ne same ..).symm.trans owned
  cases step with
  | accept =>
    refine origin.fewer (fun session state party routed held => ?_) fun _ _ => id
    simp only [emplace_apply] at held
    split at held
    · next fresh =>
      subst fresh
      cases older : before.session (before.lastSession + 1) with
      | none =>
        rw [older] at held
        cases held
        simp at routed
      | some identity =>
        rw [older] at held
        exact held
    · exact held
  | nominate | logOn | strand | drop => exact origin.fewer (changed (by simp) (by simp)) fun _ _ => id
  | @logOff session party ready =>
    have departing := leaves session rfl
    refine ⟨fun other name held => ?_, fun other name held => ?_, origin.owner⟩
    · by_cases same : other = session
      · subst other
        simp at held
      · exact origin.ready other name ((Function.update_of_ne same ..).symm.trans held)
    · by_cases same : other = session
      · subst other
        simp only [Function.update_self, Option.some.injEq, Prod.mk.injEq, true_and] at held
        subst name
        exact Or.inr ⟨origin.ready session party ready, departing⟩
      · exact origin.leaving other name ((Function.update_of_ne same ..).symm.trans held)
  | retire | retireAsking => exact origin.fewer (changed (by simp) (by simp)) disowned
  | sweep =>
    refine origin.fewer (fun session state party _ held => ?_) fun _ _ => id
    simp only at held
    split at held
    · cases held
    · exact held
  | grant | refuse | settle | late => exact absurd trivial quiet
  | _ => exact ⟨origin.ready, origin.leaving, origin.owner⟩

end Router

namespace Client
variable {env : Env} {value : Logon} {header : Header} {clock : Clock} {session strategyId : Nat} {controller : Controller}
  {answered : List String}

/-- The strategy that a session logs on for, where its credentials are accepted. -/
def acceptedFor (env : Env) (value : Logon) (header : Header) (clock : Clock) (session : Nat) (controller : Controller) :
    Option Nat :=
  match controller.sessions.find session with
  | none => none
  | some client =>
    if client.state = .waitingLogon ∧ validateLogon env value header = none then
      match controller.shared.sessionLogonHelper env.library.toLibrary env.settings clock.realtime session
          value.username value.password value.rawData with
      | .ok (strategyId, _) => some strategyId
      | .error _ => none
    else none

private theorem acceptedFor_of_accepted (accepted : Accepted env value header clock session controller strategyId) :
    acceptedFor env value header clock session controller = some strategyId := by
  obtain ⟨client, shared, found, arriving, valid, passed⟩ := accepted
  simp [acceptedFor, found, arriving, valid, passed]

private theorem accepted_of_update {change : Session → Session} (quiet : ∀ client, (change client).state = client.state)
    (accepted : Accepted env value header clock session (controller.updateSession session change) strategyId) :
    Accepted env value header clock session controller strategyId := by
  obtain ⟨client, shared, found, arriving, valid, passed⟩ := accepted
  simp only [Controller.updateSession, Map.find_update, if_true] at found
  obtain ⟨older, held, rfl⟩ := Option.map_eq_some_iff.mp found
  exact ⟨older, shared, held, (quiet older).symm.trans arriving, valid, passed⟩

private theorem read_enlists (env : Env) (value : Logon) (header : Header) (clock : Clock)
    (consistent : (controller.view answered).Consistent) :
    (read env (.logon value) header clock session controller).Leaves
      (fun after => Moves
        (fun router action => Closes session action ∨
          ∃ strategyId, Accepted env value header clock session controller strategyId ∧
            Enlists session (toString strategyId) (controller.view answered) router action)
        (controller.view answered) (after.view answered)) fun _ => False := by
  refine withSession_leaves answered (.refl _) fun client found held => ?_
  split
  · exact .refl _
  · let count (client : Session) : Session := { client with inboundMsgSeqNum := header.msgSeqNum }
    let name (client : Session) : Session :=
      { client with compId := if client.compId = "" then header.senderCompId else client.compId }
    have counted := Controller.view_updateSession_quiet answered controller session count fun _ => rfl
    have named := (Controller.view_updateSession_quiet answered (controller.updateSession session count) session name
      fun _ => rfl).trans counted
    have logged := @logon_enlists answered ((controller.updateSession session count).updateSession session name) session
      env value header clock (named ▸ consistent)
    rw [named] at logged
    refine Outcome.Leaves.recover (Outcome.Leaves.mono (fun after moves => ?_) (fun _ never => never) logged)
      fun _ _ never => never.elim
    refine moves.mono fun router action permitted => ?_
    rcases permitted with closes | ⟨strategyId, accepted, enlists⟩
    · exact Or.inl closes
    · have early := @accepted_of_update _ _ _ _ _ _ _ name (fun _ => rfl) accepted
      exact Or.inr ⟨strategyId, @accepted_of_update _ _ _ _ _ _ _ count (fun _ => rfl) early, enlists⟩

end Client

namespace World
variable {env : Env} {before after : World} {input : Input}

def applicant (env : Env) (before : World) : Input → Option String
  | .read session clock header (.logon value) =>
    (Client.acceptedFor env value header clock session before.controller).map toString
  | _ => none

/-- What is known of an action that an event causes. -/
structure Effect (env : Env) (before : World) (input : Input) (after : World) (router : Router) (action : Action) :
    Prop where
  caused : Caused before input after router action
  logOn : ∀ session party, action = .logOn session party →
    before.applicant env input = some party ∧ before.view.route party = none ∧ router.asked = before.view.asked
  strand : ∀ session, action = .strand session → ∃ party ∈ before.applicant env input,
    before.view.route party = none ∧ before.view.upstream ≠ .ready

theorem Step.view_of_silent (step : Step env before input after) (silent : input.answer = none) :
    after.controller.view before.answered = after.view := by
  rw [World.view, step.answered, silent]
  simp

private theorem Step.effects (step : Step env before input after) (consistent : before.view.Consistent) :
    Moves (Effect env before input after) before.view after.view := by
  by_cases logon : ∃ reader clock header value, input = .read reader clock header (.logon value)
  · obtain ⟨reader, clock, header, value, rfl⟩ := logon
    have leaves := @Client.read_enlists reader before.controller before.answered env value header clock consistent
    have performed : Client.read env (.logon value) header clock reader before.controller = .done after.controller :=
      step.performed
    rw [performed] at leaves
    have moves : Moves _ before.view (after.controller.view before.answered) := leaves
    rw [step.view_of_silent rfl] at moves
    refine moves.mono fun router action permitted => ?_
    rcases permitted with closes | ⟨strategyId, accepted, enlists⟩
    · refine ⟨Or.inl (Or.inl closes), ?_, ?_⟩
      · rintro session party rfl
        exact absurd closes (not_closes_of_asking trivial)
      · rintro session rfl
        exact absurd closes (not_closes_of_asking trivial)
    · have applicant : before.applicant env (.read reader clock header (.logon value)) = some (toString strategyId) := by
        simp [World.applicant, Client.acceptedFor_of_accepted accepted]
      refine ⟨Or.inl (Or.inr (Client.logsOn_of_enlists enlists)), ?_, ?_⟩
      · rintro session party rfl
        obtain ⟨-, rfl, free, silent⟩ := enlists
        exact ⟨applicant, free, silent⟩
      · rintro session rfl
        exact ⟨_, applicant, enlists.2⟩
  · refine (step.moves consistent).mono fun router action caused => ⟨caused, ?_, ?_⟩
    · intro session party same
      exact absurd (caused_logon caused (Or.inr ⟨party, same⟩)) logon
    · intro session same
      exact absurd (caused_logon caused (Or.inl same)) logon

end World

namespace World
variable {env : Env} {before after : World} {input : Input} {session : Nat} {client : Client.Session}

/-- Some session ends that has asked for its route to be removed and still has it. -/
def Abandons (before : World) (input : Input) : Prop :=
  ∃ session ∈ before.controller.sessions.keys, ∃ client ∈ before.session session,
    client.state = .waitingRemoveRoute ∧ before.controller.subscriptions.user.sessionToClient.find session ≠ none ∧
      client.GivesUp session input

instance (before : World) (input : Input) : Decidable (before.Abandons input) := by
  unfold Abandons
  infer_instance

theorem Step.ended (step : Step env before input after) (reachable : Reachable env before)
    (held : before.session session = some client) (alive : client.state ≠ .zombie) (dead : Client.Dead after.view session) :
    ∃ deed, before.Allows env input session client deed ∧ deed.Ends := by
  obtain ⟨plays, registered⟩ := step.round reachable
  obtain ⟨deed, last, allowed, fate⟩ := plays.fate registered held
  refine ⟨deed, allowed, ?_⟩
  by_contra lives
  obtain ⟨kept, still⟩ := alive_of_fate fate lives alive
  exact not_dead_iff.mpr ⟨last, kept, still⟩ dead

/-- Unless a session gives up, what is logged off at the end of a session is the client id of
one that was ready. -/
theorem Step.parts (step : Step env before input after) (reachable : Reachable env before)
    (patient : ¬ before.Abandons input) (silent : input.answer = none) :
    Moves (fun router action => Effect env before input after router action ∧
        ∀ session username, action = .retireAsking session username → ∃ party, router.session session = some (.ready, party))
      before.view after.view := by
  have consistent := consistent_of_reachable reachable
  by_cases down : input = .serverDisconnected
  · subst down
    obtain ⟨last, call, moves, -⟩ := Server.disconnected_moves env consistent.sound
    obtain rfl := Outcome.done.inj (call.symm.trans step.performed)
    rw [step.view_of_silent rfl] at moves
    refine moves.refine (fun _ => True) (fun _ _ _ _ _ => id) (fun router action next caused moved _ => ?_) trivial
    have effect : Caused before .serverDisconnected after router action :=
      caused.imp id fun closing => closing.imp id And.right
    refine ⟨⟨effect, fun session party same => ?_, fun session same => ?_⟩, ?_⟩
    · obtain ⟨_, _, _, _, wrong⟩ := caused_logon effect (Or.inr ⟨party, same⟩)
      cases wrong
    · obtain ⟨_, _, _, _, wrong⟩ := caused_logon effect (Or.inl same)
      cases wrong
    · rintro session username rfl
      obtain wrong | wrong | ⟨unready, -⟩ := caused
      · cases wrong
      · cases wrong
      · cases moved with
        | retireAsking _ _ _ ready =>
          rw [unready] at ready
          cases ready
  · refine (step.effects consistent).dying.refine (fun router => router.Consistent ∧
      Router.Origin before.view (fun session => ∃ clock header, input = .read session clock header .logout) router)
      ?_ ?_ ⟨consistent, .refl _ _⟩
    · rintro router action next ⟨effect, -⟩ moved ⟨consistent, origin⟩
      refine ⟨Router.consistent_step moved consistent, Router.origin_step moved ?_ ?_ origin⟩
      · intro answer
        obtain ⟨response, given, -⟩ := caused_answer effect.caused answer
        rw [silent] at given
        cases given
      · rintro session rfl
        exact caused_logout effect.caused
    · rintro router action next ⟨effect, dies⟩ moved ⟨now, origin⟩
      refine ⟨effect, ?_⟩
      rintro session username rfl
      have dead := dies session (Or.inr rfl)
      cases moved with
      | @retireAsking _ state party _ held active owned ready =>
        cases state with
        | waitingLogon | zombie => exact active.elim
        | waitingCreateRoute =>
          have unrouted := now.accounted.unrouted session party (Or.inr held)
          rw [owned] at unrouted
          cases unrouted
        | ready => exact ⟨party, held⟩
        | waitingRemoveRoute =>
          exfalso
          have ended {earlier : Client.State} (was : before.view.session session = some (earlier, party))
              (alive : earlier ≠ .zombie) : ∃ client deed, before.session session = some client ∧ client.state = earlier ∧
                before.Allows env input session client deed ∧ deed.Ends := by
            have known := consistent.sound.known session (by simp [was])
            obtain ⟨client, found, shape⟩ := Option.map_eq_some_iff.mp was
            have state : client.state = earlier := congrArg Prod.fst shape
            obtain ⟨deed, allowed, ends⟩ := step.ended reachable found (state ▸ alive) (dead known)
            exact ⟨client, deed, found, state, allowed, ends⟩
          rcases origin.leaving session party held with leaving | ⟨ready, clock, header, rfl⟩
          · obtain ⟨client, deed, found, state, allowed, ends⟩ := ended leaving (by simp)
            have routed : before.controller.subscriptions.user.sessionToClient.find session = some username :=
              origin.owner session username owned
            refine patient ⟨session, ?_, client, found, state, by simp [routed],
              givesUp_of_allows allowed ends state silent down⟩
            exact Map.mem_keys.mpr (Option.isSome_iff_exists.mpr ⟨client, found⟩)
          · obtain ⟨client, deed, found, state, allowed, ends⟩ := ended ready (by simp)
            simp only [Allows, if_true] at allowed
            unfold Client.Session.Heeds at allowed
            simp only [state] at allowed
            exact (allowed ▸ ends).elim

theorem eq_of_answer {response : UserResponse} (given : input.answer = some response) :
    ∃ msgSeqNum, input = .serverRead msgSeqNum (.userResponse response) := by
  unfold Input.answer at given
  split at given
  · cases given
    exact ⟨_, rfl⟩
  · cases given

/-- An answer has its effect, and then the session that asked may end; it waits for nothing by then. -/
theorem Step.settles {msgSeqNum : Nat} {response : UserResponse}
    (step : Step env before (.serverRead msgSeqNum (.userResponse response)) after) (reachable : Reachable env before) :
    ∃ session action middle, before.view.pending response.userRequestId = some session ∧ action.Answer ∧
      Controller.Answering response before.view before.view action ∧ Router.Step before.view action middle ∧
      Moves (fun router action => Closes session action ∧
          ∀ other username, action = .retireAsking other username → router.waiting other = none) middle after.view := by
  have consistent := consistent_of_reachable reachable
  obtain ⟨-, request, waiting, id, username⟩ := step.permitted
  obtain ⟨asked, unanswered⟩ := mem_unanswered.mp waiting
  have answers : before.view.Answers response.userRequestId response.username :=
    ⟨request, asked, id, username, id ▸ unanswered⟩
  let counted : Controller := { before.controller with
    serverSession := { before.controller.serverSession with inboundMsgSeqNum := msgSeqNum } }
  have performed : counted.userResponse env response = .done after.controller := step.performed
  have unaborted : ¬ counted.Aborts response := by
    intro aborts
    obtain ⟨what, aborted⟩ := Controller.userResponse_aborts env aborts
    rw [performed] at aborted
    cases aborted
  have leaves := @Controller.userResponse_settles before.answered counted env response consistent.sound answers unaborted
  rw [performed] at leaves
  have settles : Controller.Settles before.answered response counted after.controller := leaves
  obtain ⟨session, action, middle, asker, answer, answering, moved, closes⟩ := settles
  have same : after.controller.view (before.answered ++ [response.userRequestId]) = after.view := by
    rw [World.view, step.answered]
    rfl
  rw [same] at closes
  refine ⟨session, action, middle, asker, answer, answering, moved, ?_⟩
  refine closes.refine (fun router => router.waiting session = none ∨ Client.Dead router session) ?_ ?_ ?_
  · intro router action next closes moved _
    obtain ⟨-, party, sessions⟩ := Client.session_closes closes moved
    exact Or.inr (Or.inr ⟨party, by rw [sessions, Function.update_self]⟩)
  · rintro router action next closes moved idle
    refine ⟨closes, ?_⟩
    rintro other username rfl
    obtain wrong | rfl := closes
    · cases wrong
    · rcases idle with idle | dead
      · exact idle
      · cases moved with
        | retireAsking held active =>
          rcases dead with gone | ⟨party, zombie⟩
          · rw [gone] at held
            cases held
          · rw [zombie] at held
            cases held
            exact active.elim
  · cases moved with
    | grant given pending | refuse given pending | settle given pending =>
      obtain ⟨-, rfl, -⟩ := answering
      rw [asker] at pending
      cases pending
      exact Or.inl (Function.update_self ..)
    | late given pending collected =>
      obtain ⟨-, rfl, -⟩ := answering
      rw [asker] at pending
      cases pending
      exact Or.inr (Or.inl collected)
    | _ => exact answer.elim

end World
end FixProxy
