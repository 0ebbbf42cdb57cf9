import FixProxy.Deployment
import FixProxy.Proofs.Callbacks
import FixProxy.Proofs.Fates
import FixProxy.Proofs.Steady

/-! What a tick of the timer settles. After it no session is past a deadline, and the same tick
again does nothing. -/

namespace FixProxy
open Codec

private theorem Outcome.forEach_settles {σ : Type u} {ι : Type v} {body : ι → σ → Outcome σ} {kept : σ → Prop}
    {settled : ι → σ → Prop} {items : List ι} {state last : σ}
    (each : ∀ item state after, kept state → body item state = .done after →
      kept after ∧ settled item after ∧ ∀ other, settled other state → settled other after)
    (start : kept state) (returned : forEach items body state = .done last) :
    kept last ∧ ∀ item, item ∈ items ∨ settled item state → settled item last := by
  induction items generalizing state with
  | nil =>
    cases returned
    exact ⟨start, by simp⟩
  | cons item rest ih =>
    obtain ⟨middle, head, tail⟩ := andThen_eq_done.mp returned
    obtain ⟨still, own, others⟩ := each item state middle start head
    obtain ⟨final, all⟩ := ih still tail
    refine ⟨final, fun other member => all other ?_⟩
    rcases member with member | before
    · rcases List.mem_cons.mp member with rfl | later
      · exact Or.inr own
      · exact Or.inl later
    · exact Or.inr (others other before)

namespace Client
variable {env : Env} {now : Nanoseconds} {controller after : Controller} {session : Nat}

/-- The time is past at which a session had to have done something. -/
def Session.Overdue (now : Nanoseconds) (client : Session) : Prop :=
  match client.state with
  | .waitingLogon => client.logonTimeout < now
  | .waitingCreateRoute | .waitingRemoveRoute => client.userResponseTimeout < now
  | .ready => client.nextHeartbeat < now
  | .zombie => False

def Punctual (now : Nanoseconds) (controller : Controller) (session : Nat) : Prop :=
  ∀ client, controller.sessions.find session = some client → ¬ client.Overdue now

private theorem punctual_of_stopped (stopped : Stopped session controller) : Punctual now controller session := by
  intro client held
  simp [Session.Overdue, stopped client held]

private theorem timer_of_punctual (punctual : Punctual now controller session) :
    timer env now session controller = .done controller := by
  unfold timer withSession
  cases held : controller.sessions.find session with
  | none => rfl
  | some client =>
    have early := punctual client held
    unfold Session.Overdue at early
    cases state : client.state with
    | zombie => simp only [state]
    | _ =>
      simp only [state] at early ⊢
      exact if_neg early

private theorem punctual_of_timer (freq : 0 ≤ env.settings.clientHeartbeatFreq)
    (returned : timer env now session controller = .done after) : Punctual now after session := by
  cases held : controller.sessions.find session with
  | none =>
    have idle : timer env now session controller = .done controller := by simp [timer, withSession, held]
    cases idle.symm.trans returned
    intro client found
    cases held.symm.trans found
  | some client =>
    unfold timer withSession at returned
    rw [held] at returned
    have early (on_time : ¬ client.Overdue now) (same : after = controller) : Punctual now after session := by
      intro other found
      rw [same, held] at found
      exact Option.some.inj found ▸ on_time
    cases state : client.state with
    | zombie =>
      simp only [state] at returned
      cases returned
      exact early (by simp [Session.Overdue, state]) rfl
    | ready =>
      simp only [state] at returned
      split at returned
      · split at returned
        · exact punctual_of_stopped (stopped_of_close returned)
        · cases returned
          intro other found
          have beats : other.state = .ready ∧ other.nextHeartbeat = now + env.settings.clientHeartbeatFreq := by
            simp [Controller.sendToClient, Controller.updateSession, held] at found
            rw [← found]
            exact ⟨state, rfl⟩
          have later : now ≤ now + env.settings.clientHeartbeatFreq := Int.le_add_of_nonneg_right freq
          simpa [Session.Overdue, beats.1, beats.2] using later
      · next on_time =>
        cases returned
        exact early (by simpa [Session.Overdue, state] using on_time) rfl
    | _ =>
      simp only [state] at returned
      split at returned
      · exact punctual_of_stopped (stopped_of_close returned)
      · next on_time =>
        cases returned
        exact early (by simpa [Session.Overdue, state] using on_time) rfl

private theorem punctual_of_timers {answered : List String} (freq : 0 ≤ env.settings.clientHeartbeatFreq)
    (sound : (controller.view answered).Sound)
    (returned : Outcome.forEach controller.sessions.keys (timer env now) controller = .done after) :
    ∀ session, Punctual now after session := by
  have turns (session : Nat) (controller after : Controller) (sound : (controller.view answered).Sound)
      (returned : timer env now session controller = .done after) : (after.view answered).Sound ∧
        Punctual now after session ∧ ∀ other, Punctual now controller other → Punctual now after other := by
    have closes : (timer env now session controller).Gives fun after => (after.view answered).Sound :=
      (Outcome.Gives.of_leaves (timer_yields env now sound)).mono fun after moves => moves.sound sound
    have turn : (timer env now session controller).Gives _ := timer_turn env now sound
    rw [returned] at closes turn
    have own := punctual_of_timer freq returned
    refine ⟨closes, own, fun other punctual => ?_⟩
    by_cases same : other = session
    · exact same ▸ own
    · intro client found
      exact punctual client ((Roster.Turn.aside turn same).record.symm.trans found)
  have settled := @Outcome.forEach_settles Controller Nat (timer env now) (fun controller => (controller.view answered).Sound)
    (fun session controller => Punctual now controller session) _ _ _ turns sound returned
  intro session
  refine settled.2 session ?_
  by_cases held : session ∈ controller.sessions.keys
  · exact Or.inl held
  · refine Or.inr fun client found => absurd (Map.mem_keys.mpr ?_) held
    exact Option.isSome_iff_exists.mpr ⟨client, found⟩

/-- Collecting sessions takes their records away, and nothing else that a timer looks at. -/
structure Fewer (first last : Controller) : Prop where
  sessions : ∀ session client, last.sessions.find session = some client → first.sessions.find session = some client
  nextGarbageCollection : last.nextGarbageCollection = first.nextGarbageCollection
  serverSession : last.serverSession = first.serverSession

private theorem fewer_of_collect (sessions : List Nat) (controller : Controller) :
    Fewer controller (sessions.foldl (fun controller session => collect session controller) controller) := by
  induction sessions generalizing controller with
  | nil => exact ⟨fun _ _ held => held, rfl, rfl⟩
  | cons session rest ih =>
    obtain ⟨fewer, garbage, server⟩ := ih (collect session controller)
    exact ⟨fun other client held => collect_fewer (fewer other client held), garbage, server⟩

/-- The dead are collected, and the next collection is later. -/
theorem fewer_of_removeZombies (now : Nanoseconds) (controller : Controller) :
    (∀ session client, (removeZombies now controller).sessions.find session = some client →
      controller.sessions.find session = some client) ∧
    now < (removeZombies now controller).nextGarbageCollection ∧
    (removeZombies now controller).serverSession = controller.serverSession := by
  unfold removeZombies
  split
  · next early => exact ⟨fun _ _ held => held, early, rfl⟩
  · obtain ⟨fewer, garbage, server⟩ := fewer_of_collect controller.shared.sessionsToRemove
      { controller with nextGarbageCollection := now + garbageCollectionFrequency }
    refine ⟨fewer, ?_, server⟩
    have later : now < now + garbageCollectionFrequency := Int.lt_add_of_pos_right now (by decide)
    exact lt_of_lt_of_eq later garbage.symm

end Client

namespace Controller

def SameClock (first last : Controller) : Prop :=
  last.serverSession.state = first.serverSession.state ∧
    last.serverSession.nextHeartbeat = first.serverSession.nextHeartbeat

theorem sameClock_of_eq {first last : Controller} (same : last.serverSession = first.serverSession) :
    SameClock first last := by
  rw [SameClock, same]
  exact ⟨rfl, rfl⟩

instance : Tended SameClock where
  trans _ _ _ head rest := ⟨rest.1.trans head.1, rest.2.trans head.2⟩
  inner _ _ serverSession _ := sameClock_of_eq serverSession
  record _ _ _ _ := sameClock_of_eq rfl
  say session message controller := by
    unfold sendToClient
    split <;> exact sameClock_of_eq rfl
  shut _ _ := sameClock_of_eq rfl
  relay {message} _ controller := by
    unfold dispatchToServer
    split
    · exact (⟨rfl, rfl⟩ : SameClock ..)
    · exact sameClock_of_eq rfl
  adjust _ _ _ := sameClock_of_eq rfl

end Controller

theorem Server.timer_idle {env : Env} {now : Nanoseconds} {controller : Controller}
    (early : controller.serverSession.state = .ready → now < controller.serverSession.nextHeartbeat) :
    timer env now controller = controller := by
  unfold timer
  split
  · rfl
  · next ready => exact if_neg (Int.not_le.mpr (early (not_not.mp ready)))

private theorem Server.timer_early {env : Env} {now : Nanoseconds} {controller : Controller}
    (freq : 0 < env.settings.serverPingFreq) (ready : (timer env now controller).serverSession.state = .ready) :
    now < (timer env now controller).serverSession.nextHeartbeat := by
  by_cases due : controller.serverSession.state = .ready ∧ controller.serverSession.nextHeartbeat ≤ now
  · simp only [timer, due.1, due.2, ne_eq, not_true_eq_false, if_false, if_true]
    exact Int.lt_add_of_pos_right now freq
  · rw [not_and] at due
    have idle : timer env now controller = controller :=
      timer_idle fun ready => Int.not_le.mp (due ready)
    rw [idle] at ready ⊢
    exact Int.not_le.mp (due ready)

namespace World
variable {env : Env} {before after last : World} {now : Nanoseconds}

/-- What is settled at a time. -/
structure Quiescent (now : Nanoseconds) (controller : Controller) : Prop where
  punctual : ∀ session, Client.Punctual now controller session
  collected : now < controller.nextGarbageCollection
  early : controller.serverSession.state = .ready → now < controller.serverSession.nextHeartbeat

private theorem timer_settles (reachable : Reachable env before) (client : 0 ≤ env.settings.clientHeartbeatFreq)
    (server : 0 < env.settings.serverPingFreq) (step : Step env before (.timer now) after) :
    Quiescent now after.controller := by
  have sound := (consistent_of_reachable reachable).sound
  have quiet : (Server.timer env now before.controller).view before.answered = before.view :=
    Server.view_timer env now before.controller
  rw [← quiet] at sound
  obtain ⟨timed, looped, swept⟩ := Outcome.andThen_eq_done.mp step.performed
  have punctual := Client.punctual_of_timers client sound looped
  have loop : Outcome.Keeping Controller.SameClock
      (Outcome.forEach (Server.timer env now before.controller).sessions.keys (Client.timer env now)) :=
    Outcome.Keeping.forEach Frame.refl (Client.keeping_timer env now)
  have clock := loop (Server.timer env now before.controller)
  rw [looped] at clock
  obtain ⟨fewer, collected, serverSession⟩ := Client.fewer_of_removeZombies now timed
  rw [← Outcome.done.inj swept]
  refine ⟨fun session client held => punctual session client (fewer session client held), collected, ?_⟩
  rw [serverSession, clock.1, clock.2]
  exact Server.timer_early server

private theorem timer_of_settled (settled : Quiescent now before.controller) :
    FixProxy.step env (.timer now) before.controller = .done before.controller := by
  have turns : Outcome.forEach before.controller.sessions.keys (Client.timer env now) before.controller =
      .done before.controller :=
    Outcome.forEach_idle fun session _ => Client.timer_of_punctual (settled.punctual session)
  simp only [FixProxy.step, Server.timer_idle settled.early, turns, Outcome.andThen_done]
  rw [Client.removeZombies, if_pos settled.collected]

/-- After a tick of the timer no session is past its deadline, whatever the tick found: who did
not log on in time, or was not answered in time, or did not answer, is gone, and who is ready has
been asked. The same tick once more does nothing. -/
theorem tick_settles (reachable : Reachable env before) (client : 0 ≤ env.settings.clientHeartbeatFreq)
    (server : 0 < env.settings.serverPingFreq) (step : Step env before (.timer now) after) :
    (∀ session client, after.session session = some client → ¬ client.Overdue now) ∧
      ∀ last, Step env after (.timer now) last ↔ last = after := by
  have settled := timer_settles reachable client server step
  have idle : FixProxy.step env (.timer now) after.controller = .done after.controller := timer_of_settled settled
  refine ⟨fun session => settled.punctual session, fun last => ⟨fun again => ?_, ?_⟩⟩
  · obtain ⟨controller, answered⟩ := last
    have same : controller = after.controller := (Outcome.done.inj (idle.symm.trans again.performed)).symm
    have kept : answered = after.answered ++ [] := again.answered
    rw [kept, List.append_nil, same]
  · rintro rfl
    exact ⟨trivial, idle, (List.append_nil _).symm⟩

/-- A client that has connected and does not log on. -/
theorem tick_settles_accepted : ∃ (before after : World) (client : Client.Session),
    RunsUnder Regular Deployment.env Deployment.users 0 Deployment.connected before ∧
      before.session 1 = some client ∧ client.Overdue 10 ∧ Step Deployment.env before (.timer 10) after ∧
      ∀ session client, after.session session = some client → ¬ client.Overdue 10 := by
  have replayed := exists_step_of_replay Regular Deployment.env Deployment.users 0 Deployment.connected (.timer 10)
    (fun before _ => (before.session 1).any fun client => client.state == .waitingLogon && client.logonTimeout < 10)
    (by decide +kernel)
  obtain ⟨before, after, runs, -, step, checked⟩ := replayed
  simp only [Bool.and_eq_true, beq_iff_eq, decide_eq_true_eq, Option.any_eq_true] at checked
  obtain ⟨client, held, waiting, late⟩ := checked
  have settled := tick_settles (reachable_of_runsUnder runs) (by decide) (by decide) step
  exact ⟨before, after, client, runs, held, by simp [Client.Session.Overdue, waiting, late], step, settled.1⟩

end World
end FixProxy
