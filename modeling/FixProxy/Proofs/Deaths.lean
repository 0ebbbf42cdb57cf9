import FixProxy.Deployment
import FixProxy.Proofs.Fates

/-! The end of a session: the controller hears of it once if the session was past its
logon, nothing happens to the session any more, and the next collection takes it. -/

namespace FixProxy
open Codec
open Roster (Fate Absence)
open Client.State (active_iff)

namespace World
variable {env : Env} {before after world : World} {input : Input} {session : Nat} {client : Client.Session}
  {users : Map String (String × Nat)} {realtime : Nat} {inputs : List Input}

def Active (world : World) (session : Nat) : Prop := ∃ client, world.session session = some client ∧ client.state.Active

def LeftLogon (env : Env) (users : Map String (String × Nat)) (realtime : Nat) (inputs : List Input) (world : World)
    (session : Nat) : Prop :=
  Run.Took (Step env) (fun _ _ after => after.Active session) (create users realtime) inputs world

private theorem leftLogon_snoc (run : Runs env users realtime inputs before) (step : Step env before input after)
    (session : Nat) :
    LeftLogon env users realtime (inputs ++ [input]) after session ↔
      LeftLogon env users realtime inputs before session ∨ after.Active session :=
  Run.took_snoc (fun _ _ _ _ step step' => step.unique step') run step

theorem Scene.rest_of_zombie {deed : Deed} (scene : Scene env before input session client deed)
    (held : before.session session = some client) (zombie : client.state = .zombie) : deed = .rest := by
  cases scene with
  | rest => rfl
  | ends ends alive final => exact absurd zombie alive
  | say message ready | depart ready | pass ready => simp [zombie] at ready
  | @stray clock header message answer read stray =>
    cases message with
    | testRequest testReqId =>
      have waiting : client.state = .waitingCreateRoute := stray
      simp [zombie] at waiting
    | tradingSessionStatusRequest | unexpected => exact absurd zombie stray.2
    | _ => exact stray.elim
  | enlist accepts =>
    obtain ⟨_, _, _, other, _, -, -, found, arriving, -⟩ := accepts
    rw [held] at found
    cases found
    simp [zombie] at arriving
  | welcome waiting => simp [zombie] at waiting

/-- The tally of a session: how often the controller has heard of its end. -/
structure Tally (env : Env) (users : Map String (String × Nat)) (realtime : Nat) (session : Nat) (inputs : List Input)
    (world : World) : Prop where
  active : world.Active session → LeftLogon env users realtime inputs world session
  known : LeftLogon env users realtime inputs world session → session ≤ world.roster.lastSession
  past : LeftLogon env users realtime inputs world session →
    ∀ client, world.session session = some client → client.state ≠ .waitingLogon
  alive : world.Alive session → world.roster.disconnects.count session = 0
  once : LeftLogon env users realtime inputs world session → ¬ world.Alive session →
    world.roster.disconnects.count session = 1
  never : ¬ LeftLogon env users realtime inputs world session → world.roster.disconnects.count session = 0

private theorem tally_absent (run : Runs env users realtime inputs before) (step : Step env before input after)
    (tally : Tally env users realtime session inputs before) (absent : before.session session = none)
    (absence : Absence session before.roster after.roster) (ids : before.roster.lastSession ≤ after.roster.lastSession) :
    Tally env users realtime session (inputs ++ [input]) after := by
  have idle : ¬ after.Active session := by
    rintro ⟨client, held, active⟩
    exact (active_iff.mp active).1 (arrives_of_absence absence held).2
  have same := leftLogon_snoc run step session
  rw [or_iff_left idle] at same
  have dead : ¬ before.Alive session := by
    rintro ⟨client, held, -⟩
    rw [absent] at held
    cases held
  have count : after.roster.disconnects.count session = before.roster.disconnects.count session := absence.disconnects
  have fresh client (held : after.session session = some client) :
      ¬ LeftLogon env users realtime inputs before session := by
    intro left
    have := tally.known left
    have := (arrives_of_absence absence held).1
    omega
  constructor
  · exact fun active => absurd active idle
  · exact fun left => Nat.le_trans (tally.known (same.mp left)) ids
  · exact fun left client held => absurd (same.mp left) (fresh client held)
  · rintro ⟨client, held, -⟩
    rw [count]
    exact tally.never (fresh client held)
  · intro left _
    rw [count]
    exact tally.once (same.mp left) dead
  · intro unleft
    rw [count]
    exact tally.never fun left => unleft (same.mpr left)

private theorem tally_held (run : Runs env users realtime inputs before) (step : Step env before input after)
    (tally : Tally env users realtime session inputs before) (held : before.session session = some client)
    {deed : Deed} {last : Client.Session} (scene : Scene env before input session client deed)
    (fate : Fate session client last deed before.roster after.roster) (known : session ≤ after.roster.lastSession) :
    Tally env users realtime session (inputs ++ [input]) after := by
  have snoc := leftLogon_snoc run step session
  have count := fate.disconnects
  by_cases ended : last.state = .zombie
  · -- dead after the event, by its deed or from before
    have dead := not_alive_of_fate fate ended
    have idle : ¬ after.Active session := fun ⟨client, held, active⟩ => dead ⟨client, held, (active_iff.mp active).2⟩
    rw [or_iff_left idle] at snoc
    have settled : after.roster.disconnects.count session =
        before.roster.disconnects.count session + (if client.state.Active then 1 else 0) := by
      rw [count]
      by_cases zombie : client.state = .zombie
      · simp [scene.rest_of_zombie held zombie, Deed.Ends, zombie, Client.State.Active]
      · have ends : deed.Ends := by
          by_contra lives
          exact (alive_of_fate fate lives zombie).2 ended
        simp [ends, active_iff, zombie]
    have active (active : client.state.Active) : before.Active session := ⟨client, held, active⟩
    constructor
    · exact fun active => absurd active idle
    · exact fun _ => known
    · intro left other found waiting
      exact dead ⟨other, found, by simp [waiting]⟩
    · exact fun alive => absurd alive dead
    · intro left _
      have left := snoc.mp left
      rw [settled]
      by_cases zombie : client.state = .zombie
      · have gone : ¬ before.Alive session := by
          rintro ⟨other, found, alive⟩
          rw [held] at found
          cases found
          exact alive zombie
        simp [tally.once left gone, zombie, Client.State.Active]
      · have active : client.state.Active := active_iff.mpr ⟨tally.past left client held, zombie⟩
        simp [tally.alive ⟨client, held, zombie⟩, active]
    · intro unleft
      have unleft : ¬ LeftLogon env users realtime inputs before session := fun left => unleft (snoc.mpr left)
      have inactive : ¬ client.state.Active := fun here => unleft (tally.active (active here))
      rw [settled]
      simp [tally.never unleft, inactive]
  · -- alive after the event, and so before it
    have alive : client.state ≠ .zombie := by
      intro zombie
      rw [fate.state, scene.rest_of_zombie held zombie] at ended
      exact ended zombie
    have lives : ¬ deed.Ends := fun ends => ended (fate.state.trans (Deed.leads_of_ends ends _))
    have still := kept_of_fate fate ended
    have zero : after.roster.disconnects.count session = 0 := by
      rw [count, tally.alive ⟨client, held, alive⟩]
      simp [lives]
    constructor
    · exact fun active => snoc.mpr (Or.inr active)
    · exact fun _ => known
    · intro left other found
      rw [still] at found
      cases found
      rcases snoc.mp left with past | ⟨other, found, active⟩
      · rw [fate.state]
        exact Deed.leads_ne_waitingLogon (tally.past past client held)
      · rw [still] at found
        cases found
        exact (active_iff.mp active).1
    · exact fun _ => zero
    · exact fun _ dead => absurd ⟨last, still, ended⟩ dead
    · exact fun _ => zero

private theorem tally_of_runs (runs : Runs env users realtime inputs world) (session : Nat) :
    Tally env users realtime session inputs world := by
  refine Run.history (Tally env users realtime session) ?_ ?_ runs
  · have never : ¬ LeftLogon env users realtime [] (create users realtime) session := Run.not_took_nil _ _
    have absent : (create users realtime).session session = none := rfl
    constructor
    · rintro ⟨client, held, -⟩
      rw [absent] at held
      cases held
    · exact fun left => absurd left never
    · exact fun left => absurd left never
    · exact fun _ => rfl
    · exact fun left => absurd left never
    · exact fun _ => rfl
  · intro inputs input before after run step tally
    have reachable : Reachable env before := ⟨users, realtime, inputs, run⟩
    obtain ⟨plays, registered⟩ := step.round reachable
    cases held : before.session session with
    | none => exact tally_absent run step tally held (step.absent reachable held) plays.lastSession
    | some client =>
      obtain ⟨deed, last, scene, fate⟩ := step.fate reachable held
      have known : session ≤ before.roster.lastSession :=
        registered.known session (Option.ne_none_iff_exists'.mpr ⟨client, held⟩)
      exact tally_held run step tally held scene fate (Nat.le_trans known plays.lastSession)

private theorem read_zombie {clock : Clock} {header : Header} {message : FromClient}
    (step : Step env before (.read session clock header message) after) (held : before.session session = some client)
    (zombie : client.state = .zombie) : after = before := by
  have found : before.controller.sessions.find session = some client := held
  refine step.unique ⟨trivial, ?_, by simp [Input.answer]⟩
  simp [FixProxy.step, Client.read, Client.withSession, found, zombie]

theorem zombie_stays (step : Step env before input after) (reachable : Reachable env before)
    (held : before.session session = some client) (zombie : client.state = .zombie) {last : Client.Session}
    (found : after.session session = some last) : last.state = .zombie := by
  obtain ⟨deed, settled, scene, fate⟩ := step.fate reachable held
  have state : settled.state = .zombie := by
    rw [fate.state, scene.rest_of_zombie held zombie]
    exact zombie
  by_contra alive
  exact not_alive_of_fate fate state ⟨last, found, alive⟩

/-- A timer event: the turns of the sessions, and then the collection, if it is due. -/
theorem Step.collects {now : Nanoseconds} (step : Step env before (.timer now) after) (reachable : Reachable env before) :
    ∃ turned : Controller,
      Outcome.forEach (Server.timer env now before.controller).sessions.keys (Client.timer env now)
        (Server.timer env now before.controller) = .done turned ∧
      after.controller = Client.removeZombies now turned ∧ turned.roster.Registered := by
  have sound := (consistent_of_reachable reachable).sound
  have quiet : (Server.timer env now before.controller).view before.answered = before.view :=
    Server.view_timer env now before.controller
  rw [← quiet] at sound
  obtain ⟨turned, turns, collected⟩ := Outcome.andThen_eq_done.mp step.performed
  have run := Client.timer_turns env now sound
  rw [turns] at run
  have told := Server.timer_told env now before.controller
  exact ⟨turned, turns, (Outcome.done.inj collected).symm,
    turns_registered run (told.registered (registered_of_reachable reachable))⟩

private theorem removeZombies_destroys {now : Nanoseconds} {controller : Controller}
    (registered : controller.roster.Registered) (due : controller.nextGarbageCollection ≤ now) (session : Nat) :
    (Client.removeZombies now controller).sessions.find session =
      (controller.sessions.find session).filter fun client => client.state ≠ .zombie := by
  have swept := Client.roster_swept due registered
  have gone : (Client.removeZombies now controller).sessions.find session = controller.roster.sweep.session session :=
    congrFun (congrArg Roster.session swept) session
  rw [gone]
  simp only [Roster.sweep, Roster.forget, registered.doomed]
  have same : controller.roster.session session = controller.sessions.find session := rfl
  rw [same]
  cases controller.sessions.find session with
  | none => simp
  | some client => by_cases zombie : client.state = .zombie <;> simp [zombie, Option.filter]

/-- The controller hears of the end of a session once if the session had left its logon, and
never otherwise; a zombie stays one and does nothing; the sessions to remove are the zombies,
and a collection destroys them and nobody else. -/
theorem deaths_signalled_once (runs : Runs env users realtime inputs world) :
    (∀ session,
      (LeftLogon env users realtime inputs world session ∧ ¬ world.Alive session →
        world.controller.disconnects.count session = 1) ∧
      (¬ (LeftLogon env users realtime inputs world session ∧ ¬ world.Alive session) →
        world.controller.disconnects.count session = 0)) ∧
    (∀ session client, world.session session = some client → client.state = .zombie →
      (∀ input after last, Step env world input after → after.session session = some last → last.state = .zombie) ∧
      (∀ clock header message after, Step env world (.read session clock header message) after → after = world)) ∧
    (∀ session, session ∈ world.controller.shared.sessionsToRemove ↔
      ∃ client, world.session session = some client ∧ client.state = .zombie) ∧
    (∀ now after, Step env world (.timer now) after → ∃ turned : Controller,
      Outcome.forEach (Server.timer env now world.controller).sessions.keys (Client.timer env now)
        (Server.timer env now world.controller) = .done turned ∧
      after.controller = Client.removeZombies now turned ∧
      (turned.nextGarbageCollection ≤ now → ∀ session,
        after.session session = (turned.sessions.find session).filter fun client => client.state ≠ .zombie)) := by
  have reachable : Reachable env world := ⟨users, realtime, inputs, runs⟩
  refine ⟨fun session => ?_, fun session client held zombie => ⟨?_, ?_⟩, fun session => ?_, fun now after step => ?_⟩
  · have tally := tally_of_runs runs session
    refine ⟨fun ended => tally.once ended.1 ended.2, fun unended => ?_⟩
    by_cases left : LeftLogon env users realtime inputs world session
    · exact tally.alive (by_contra fun dead => unended ⟨left, dead⟩)
    · exact tally.never left
  · exact fun input after last step found => zombie_stays step reachable held zombie found
  · exact fun clock header message after step => read_zombie step held zombie
  · have doomed := (registered_of_reachable reachable).doomed session
    rw [Option.map_eq_some_iff] at doomed
    exact doomed
  · obtain ⟨turned, turns, collected, registered⟩ := step.collects reachable
    refine ⟨turned, turns, collected, fun due session => ?_⟩
    have same : after.session session = (Client.removeZombies now turned).sessions.find session := by
      rw [← collected]
      rfl
    rw [same]
    exact removeZombies_destroys registered due session

theorem deaths_signalled_once_disconnected : ∃ world,
    Runs Deployment.env Deployment.users 0 (Deployment.loggedOn ++ [.disconnected 1]) world ∧
      world.controller.disconnects.count 1 = 1 := by
  obtain ⟨world, after, runs, -, step, checked⟩ := exists_step_of_replay Regular Deployment.env Deployment.users 0
    Deployment.loggedOn (.disconnected 1)
    (fun world after => (world.session 1).any (·.state == .ready) && (after.session 1).any (·.state == .zombie))
    (by decide +kernel)
  simp only [Bool.and_eq_true, beq_iff_eq, Option.any_eq_true] at checked
  obtain ⟨⟨client, held, ready⟩, last, found, zombie⟩ := checked
  have runs := runs_of_runsUnder runs
  have continued : Runs Deployment.env Deployment.users 0 (Deployment.loggedOn ++ [.disconnected 1]) after := runs.snoc step
  have left := (tally_of_runs runs 1).active ⟨client, held, by rw [ready]; trivial⟩
  have dead : ¬ after.Alive 1 := by
    rintro ⟨other, held, alive⟩
    rw [found] at held
    cases held
    exact alive zombie
  exact ⟨after, continued, ((deaths_signalled_once continued).1 1).1
    ⟨(leftLogon_snoc runs step 1).mpr (Or.inl left), dead⟩⟩

end World
end FixProxy
