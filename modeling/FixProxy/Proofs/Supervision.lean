import FixProxy.Deployment
import FixProxy.Lib.Watchdog
import FixProxy.Proofs.Gate
import FixProxy.Proofs.Relay
import Mathlib.Data.Int.Order.Basic

/-! The supervision of a client by test requests is a watchdog: its deadline and its flag
follow the ticks and the heartbeats of the session, and nothing else touches them. -/

namespace FixProxy
open Codec
open Outcome (Every Keeping)

namespace Controller

def vigil (session : Nat) (controller : Controller) : Option (Nanoseconds × Bool) :=
  (controller.sessions.find session).map Client.Session.vigil

/-- The supervision of every session is as it was. -/
def Undisturbed (first last : Controller) : Prop := ∀ session, last.vigil session = first.vigil session

private theorem undisturbed_record {change : Client.Session → Client.Session} (session : Nat) (controller : Controller)
    (quiet : ∀ client, (change client).vigil = client.vigil) : Undisturbed controller (controller.updateSession session change) := by
  intro other
  simp only [vigil, updateSession, Map.find_update]
  split
  · next same =>
    subst same
    simp [Function.comp_def, quiet]
  · rfl

private theorem undisturbed_say (session : Nat) (message : ToClient) (controller : Controller) :
    Undisturbed controller (controller.sendToClient session message) := by
  unfold sendToClient
  split
  · exact fun _ => rfl
  · exact undisturbed_record session controller fun _ => rfl

instance : Frame Undisturbed where
  trans _ _ _ head rest session := (rest session).trans (head session)
  inner sessions _ _ _ session := by rw [vigil, sessions, vigil]
  record session controller quiet _ := undisturbed_record session controller quiet
  say := undisturbed_say
  shut _ _ _ := rfl
  relay _ controller := by
    unfold dispatchToServer
    split <;> exact fun _ => rfl

end Controller

namespace Client
open Controller (Undisturbed)
variable {controller after : Controller} {session : Nat} {client : Session}

def Session.ticked (env : Env) (now : Nanoseconds) (client : Session) : Nanoseconds × Bool :=
  if client.state = .ready ∧ client.nextHeartbeat < now then (now + env.settings.clientHeartbeatFreq, true) else client.vigil

private theorem vigil_updateSession (held : controller.sessions.find session = some client) (change : Session → Session) :
    (controller.updateSession session change).vigil session = some (change client).vigil := by
  rw [Controller.vigil, found_updateSession held, Option.map_some]

private theorem timer_vigil (env : Env) (now : Nanoseconds) (held : controller.sessions.find session = some client) :
    (timer env now session controller).Every fun after => after.vigil session = some (client.ticked env now) := by
  by_cases due : client.state = .ready ∧ client.nextHeartbeat < now
  · rw [timer_due env held due.1 due.2, Session.ticked, if_pos due]
    have timed := vigil_updateSession held fun client =>
      { client with nextHeartbeat := now + env.settings.clientHeartbeatFreq }
    split
    · next waiting =>
      have closed := @keeping_sendAndClose Undisturbed _ env session (.logout Texts.missingHeartbeat) (controller.updateSession session
        fun client => { client with nextHeartbeat := now + env.settings.clientHeartbeatFreq })
      refine closed.mono fun after same => (same session).trans ?_
      rw [timed, Session.vigil, waiting]
    · have probed := Controller.undisturbed_say session (.testRequest (toString now ++ "ns")) (controller.updateSession session
        fun client => { client with nextHeartbeat := now + env.settings.clientHeartbeatFreq }) session
      obtain ⟨seen, found, same⟩ := Option.map_eq_some_iff.mp (probed.trans timed)
      refine (vigil_updateSession found _).trans ?_
      rw [Session.vigil, show seen.nextHeartbeat = now + env.settings.clientHeartbeatFreq from congrArg Prod.fst same]
  · have idle : (timer env now session controller).Every (Undisturbed controller) := by
      refine every_timer fun other found ready past => due ?_
      obtain rfl := Option.some.inj (found.symm.trans held)
      exact ⟨ready, past⟩
    refine idle.mono fun after same => (same session).trans ?_
    rw [Session.ticked, if_neg due, Controller.vigil, held, Option.map_some]

def Session.beaten (client : Session) : Nanoseconds × Bool :=
  if client.state = .ready then (client.nextHeartbeat, false) else client.vigil

private theorem heartbeat_vigil (env : Env) (header : Header) (held : controller.sessions.find session = some client) :
    (heartbeat env header session controller).Every fun after => after.vigil session = some client.beaten := by
  have kept {call : Outcome Controller} (unready : client.state ≠ .ready) (keeping : call.Every (Undisturbed controller)) :
      call.Every fun after => after.vigil session = some client.beaten := by
    refine keeping.mono fun after same => (same session).trans ?_
    rw [Session.beaten, if_neg unready, Controller.vigil, held, Option.map_some]
  unfold heartbeat withSession
  rw [held]
  simp only
  cases state : client.state with
  | ready =>
    refine (vigil_updateSession held _).trans ?_
    rw [Session.beaten, if_pos state, Session.vigil]
  | waitingRemoveRoute => exact kept (by simp [state]) (fun _ => rfl)
  | zombie => exact kept (by simp [state]) (fun _ => rfl)
  | _ => exact kept (by simp [state]) (keeping_sendAndClose ..)

private theorem read_heartbeat_vigil (env : Env) (header : Header) (clock : Clock)
    (held : controller.sessions.find session = some client) :
    (read env .heartbeat header clock session controller).Every fun after => after.vigil session = some client.beaten := by
  unfold read withSession
  rw [held]
  simp only
  split
  · next zombie =>
    show controller.vigil session = some client.beaten
    rw [Session.beaten, if_neg (by simp [zombie]), Controller.vigil, held, Option.map_some]
  · have named := found_updateSession (found_updateSession held fun client =>
      { client with inboundMsgSeqNum := header.msgSeqNum }) fun client =>
        { client with compId := if client.compId = "" then header.senderCompId else client.compId }
    have heeded := (heartbeat_vigil env header named).mono fun after same => (same : after.vigil session = some client.beaten)
    refine heeded.recover_of fun what after same => ?_
    have closes : (close env session after).Every (Undisturbed after) := keeping_close env session after
    exact closes.mono fun closed kept => (kept session).trans same

private theorem timer_records (env : Env) (now : Nanoseconds) {answered : List String} {sessions : List Nat}
    (distinct : sessions.Nodup) (sound : (controller.view answered).Sound)
    (returned : Outcome.forEach sessions (timer env now) controller = .done after)
    (held : controller.sessions.find session = some client) : ∃ last, after.sessions.find session = some last ∧
      (session ∈ sessions → last.vigil = client.ticked env now) ∧ (session ∉ sessions → last = client) := by
  induction sessions generalizing controller client with
  | nil =>
    cases returned
    exact ⟨client, held, by simp⟩
  | cons head rest ih =>
    obtain ⟨middle, ticked, others⟩ := Outcome.andThen_eq_done.mp returned
    have settled : (middle.view answered).Sound := by
      have closes : (timer env now head controller).Gives _ := Outcome.Gives.of_leaves (timer_yields env now sound)
      rw [ticked] at closes
      exact closes.sound sound
    rw [List.nodup_cons] at distinct
    by_cases own : session = head
    · subst own
      have timed := timer_vigil env now held
      rw [ticked] at timed
      obtain ⟨seen, found, vigil⟩ := Option.map_eq_some_iff.mp timed
      obtain ⟨last, reached, -, same⟩ := ih distinct.2 settled others found
      exact ⟨last, reached, fun _ => same distinct.1 ▸ vigil, fun absent => absurd List.mem_cons_self absent⟩
    · have turn := @timer_turn controller head answered env now sound
      rw [ticked] at turn
      have record : middle.sessions.find session = some client := (turn.aside own).record.trans held
      obtain ⟨last, reached, same⟩ := ih distinct.2 settled others record
      refine ⟨last, reached, ?_⟩
      simpa only [List.mem_cons, own, false_or] using same

private theorem found_of_removeZombies (now : Nanoseconds)
    (found : (removeZombies now controller).sessions.find session = some client) :
    controller.sessions.find session = some client := by
  have collected (sessions : List Nat) (controller : Controller)
      (found : (sessions.foldl (fun controller session => collect session controller) controller).sessions.find session =
        some client) : controller.sessions.find session = some client := by
    induction sessions generalizing controller with
    | nil => exact found
    | cons head rest ih =>
      have erased := ih (collect head controller) found
      simp only [collect, Map.find_erase] at erased
      split at erased
      · cases erased
      · exact erased
  unfold removeZombies at found
  split at found
  · exact found
  · exact collected _ { controller with nextGarbageCollection := now + garbageCollectionFrequency } found

end Client

namespace Server

private theorem sessions_timer (env : Env) (now : Nanoseconds) (controller : Controller) :
    (timer env now controller).sessions = controller.sessions := by
  unfold timer
  split
  · rfl
  · split <;> rfl

end Server

/-- The supervision of a session after an event. -/
def Client.Session.supervised (env : Env) (session : Nat) (client : Client.Session) : Input → Nanoseconds × Bool
  | .timer now => client.ticked env now
  | .read reader _ _ .heartbeat => if reader = session then client.beaten else client.vigil
  | _ => client.vigil

namespace World
open Controller (Undisturbed)
variable {env : Env} {users : Map String (String × Nat)} {realtime : Nat} {inputs : List Input} {before after world : World}
  {input : Input} {session : Nat} {client last : Client.Session}

private theorem vigil_of_keeping {call : Outcome Controller} (keeping : call.Every (Undisturbed before.controller))
    (returned : call = .done after.controller) (held : before.session session = some client)
    (found : after.session session = some last) : last.vigil = client.vigil := by
  rw [returned] at keeping
  have same : after.controller.vigil session = before.controller.vigil session := keeping session
  rw [Controller.vigil, Controller.vigil, show after.controller.sessions.find session = some last from found,
    show before.controller.sessions.find session = some client from held] at same
  exact Option.some.inj same

theorem Step.vigil (step : Step env before input after) (reachable : Reachable env before)
    (held : before.session session = some client) (found : after.session session = some last) :
    last.vigil = client.supervised env session input := by
  have performed := step.performed
  have kept (keeping : (FixProxy.step env input before.controller).Every (Undisturbed before.controller)) :
      last.vigil = client.vigil := vigil_of_keeping keeping performed held found
  cases input with
  | timer now =>
    obtain ⟨middle, ticked, swept⟩ := Outcome.andThen_eq_done.mp performed
    have timed : (Server.timer env now before.controller).sessions = before.controller.sessions := Server.sessions_timer ..
    have sound : ((Server.timer env now before.controller).view before.answered).Sound := by
      rw [Server.view_timer env now before.controller]
      exact (consistent_of_reachable reachable).sound
    have kept : (Server.timer env now before.controller).sessions.find session = some client := by
      rw [timed]
      exact held
    have known : session ∈ (Server.timer env now before.controller).sessions.keys :=
      Map.mem_keys.mpr (Option.isSome_iff_exists.mpr ⟨client, kept⟩)
    obtain ⟨seen, reached, vigil, -⟩ := Client.timer_records env now (Server.timer env now before.controller).sessions.nodupKeys
      sound ticked kept
    have same : middle.sessions.find session = some last := by
      refine Client.found_of_removeZombies now ?_
      rw [Outcome.done.inj swept]
      exact found
    rw [reached] at same
    cases same
    exact vigil known
  | accept now =>
    have same : after.session session = some client := by
      have accepted : after.controller = Client.accept env now before.controller := (Outcome.done.inj performed).symm
      have kept : before.controller.sessions.find session = some client := held
      simp only [World.session, accepted, Client.accept, Map.find_tryEmplace]
      split
      · next fresh => rw [← fresh, kept, Option.getD_some]
      · exact kept
    rw [found] at same
    cases same
    rfl
  | read reader clock header message =>
    by_cases beats : message = .heartbeat
    · subst beats
      simp only [Client.Session.supervised]
      split
      · next own =>
        subst own
        have beaten := Client.read_heartbeat_vigil env header clock held
        rw [show Client.read env .heartbeat header clock reader before.controller = .done after.controller from performed] at beaten
        obtain ⟨seen, reached, same⟩ := Option.map_eq_some_iff.mp beaten
        obtain rfl := Option.some.inj (reached.symm.trans found)
        exact same
      · next other =>
        have turn := @Client.read_turn before.controller reader before.answered env .heartbeat header clock
          (consistent_of_reachable reachable) (unnamed_of_registered (registered_of_reachable reachable))
        rw [show Client.read env .heartbeat header clock reader before.controller = .done after.controller from performed] at turn
        have record : after.session session = some client := (turn.aside (Ne.symm other)).record.trans held
        rw [found] at record
        cases record
        rfl
    · have unbeaten : client.supervised env session (.read reader clock header message) = client.vigil := by
        cases message <;> first | rfl | exact absurd rfl beats
      rw [unbeaten]
      exact kept (Client.keeping_read env clock (fun same => absurd same beats) _)
  | readError reader => exact kept (Client.keeping_close ..)
  | disconnected other => exact kept (Client.keeping_makeZombie ..)
  | serverConnected => exact kept fun _ => rfl
  | serverDisconnected =>
    have closing (sessions : List Nat) : Keeping Undisturbed (Outcome.forEach sessions (Client.forceDisconnect env)) :=
      Keeping.forEach Frame.refl (Client.keeping_close env)
    have closed : (Controller.serverDisconnected env before.controller).Every (Undisturbed before.controller) :=
      Every.before (Frame.inner rfl rfl rfl rfl) (closing _ _)
    exact kept (Every.andThen closed fun _ => fun _ => rfl)
  | serverRead msgSeqNum message =>
    have numbers : Undisturbed before.controller { before.controller with
        serverSession := { before.controller.serverSession with inboundMsgSeqNum := msgSeqNum } } := fun _ => rfl
    cases message with
    | userResponse value => exact kept (Every.before numbers (Controller.keeping_userResponse env value _))
    | response value => exact kept (Frame.chain numbers (Controller.frame_response env value _))
    | _ => exact kept fun _ => rfl
  | authInsert => exact kept fun _ => rfl
  | authRemove => exact kept fun _ => rfl

end World

/-- What the supervision of a session takes notice of. -/
def Input.signal (session : Nat) : Input → Signal Nanoseconds
  | .timer now => .tick now
  | .read reader _ _ .heartbeat => if reader = session then .reply else .idle
  | _ => .idle

def Input.tick : Input → Option Nanoseconds
  | .timer now => some now
  | _ => none

/-- How far a session has come: before it is ready, while it is, and after. -/
def Client.State.stage : Client.State → Nat
  | .waitingLogon | .waitingCreateRoute => 0
  | .ready => 1
  | .waitingRemoveRoute | .zombie => 2

private theorem Client.State.stage_le {state : Client.State} : state.stage ≤ 2 := by
  cases state <;> decide

private theorem Client.State.stage_eq_one {state : Client.State} : state.stage = 1 ↔ state = .ready := by
  cases state <;> simp [stage]

/-- A session is supervised while it is ready. -/
def Client.Session.watchdog (client : Client.Session) : Option (Watchdog Nanoseconds) :=
  if client.state = .ready then some ⟨client.nextHeartbeat, client.waitingForHeartbeat⟩ else none

private theorem Client.Session.watchdog_eq_some {client : Client.Session} {dog : Watchdog Nanoseconds} :
    client.watchdog = some dog ↔ client.state = .ready ∧ client.vigil = (dog.deadline, dog.waiting) := by
  unfold watchdog vigil
  split
  · next ready =>
    cases dog
    simp [ready]
  · next unready => simp [unready]

private theorem Client.Session.supervised_unready {client : Client.Session} (unready : client.state ≠ .ready) (env : Env)
    (session : Nat) (input : Input) : client.supervised env session input = client.vigil := by
  have beaten : client.beaten = client.vigil := if_neg unready
  have ticked (now : Nanoseconds) : client.ticked env now = client.vigil := if_neg fun ⟨ready, _⟩ => unready ready
  unfold supervised
  split
  · exact ticked _
  · split
    · exact beaten
    · rfl
  · rfl

/-- What a ready session makes of an event is what its watchdog does. -/
private theorem Client.Session.supervised_ready {client : Client.Session} {dog : Watchdog Nanoseconds}
    (ready : client.watchdog = some dog)
    (env : Env) (session : Nat) (input : Input) : client.supervised env session input =
      ((dog.heed (· + env.settings.clientHeartbeatFreq) (input.signal session)).deadline,
        (dog.heed (· + env.settings.clientHeartbeatFreq) (input.signal session)).waiting) := by
  obtain ⟨state, vigil⟩ := watchdog_eq_some.mp ready
  have deadline : client.nextHeartbeat = dog.deadline := congrArg Prod.fst vigil
  cases input with
  | timer now =>
    simp only [supervised, ticked, state, deadline, true_and, Input.signal, Watchdog.heed]
    split
    · rfl
    · exact vigil
  | read reader clock header message =>
    cases message with
    | heartbeat =>
      simp only [supervised, Input.signal]
      split
      · rw [beaten, if_pos state, deadline, Watchdog.heed]
      · exact vigil
    | _ => exact vigil
  | _ => exact vigil

namespace World
variable {env : Env} {users : Map String (String × Nat)} {realtime : Nat} {inputs : List Input} {before after world : World}
  {input : Input} {session : Nat} {client last : Client.Session}

def watchdog (session : Nat) (world : World) : Option (Watchdog Nanoseconds) :=
  (world.session session).bind Client.Session.watchdog

/-- The session will not be ready again. -/
def Spent (session : Nat) (world : World) : Prop :=
  session ≤ world.roster.lastSession ∧ ∀ client, world.session session = some client → client.state.stage = 2

private theorem watchdog_eq_some {dog : Watchdog Nanoseconds} : world.watchdog session = some dog ↔
    ∃ client, world.session session = some client ∧ client.watchdog = some dog := Option.bind_eq_some_iff

private theorem watchdog_of_ready : (∃ dog, world.watchdog session = some dog) ↔ world.Ready session := by
  constructor
  · rintro ⟨dog, found⟩
    obtain ⟨client, held, watched⟩ := watchdog_eq_some.mp found
    exact ⟨client, held, (Client.Session.watchdog_eq_some.mp watched).1⟩
  · rintro ⟨client, held, ready⟩
    exact ⟨_, watchdog_eq_some.mpr ⟨client, held, if_pos ready⟩⟩

private theorem Scene.stage_le {deed : Deed} (scene : Scene env before input session client deed)
    (held : before.session session = some client) : client.state.stage ≤ (deed.leads client.state).stage := by
  cases scene with
  | rest | say | stray | pass => exact Nat.le_refl _
  | ends ends =>
    rw [Deed.leads_of_ends ends]
    cases client.state <;> decide
  | enlist accepts =>
    obtain ⟨-, -, -, other, -, -, -, found, arriving, -⟩ := accepts
    obtain rfl := Option.some.inj (found.symm.trans held)
    rw [arriving]
    exact Nat.zero_le _
  | welcome waiting =>
    rw [waiting]
    exact Nat.zero_le _
  | depart ready =>
    rw [ready]
    exact Nat.le_succ 1

private theorem Step.arrival (step : Step env before input after) (reachable : Reachable env before)
    (absent : before.session session = none) (found : after.session session = some last) :
    last.state.stage = 0 ∧ last.waitingForHeartbeat = false := by
  obtain ⟨plays, registered⟩ := step.round reachable
  obtain ⟨first, middle, settled, head, turn, rest, -, -, settles⟩ := plays.round registered session
  have gone : first.session session = none := head.record.trans absent
  have still : middle = first := by
    unfold Roster.Turn at turn
    rw [gone] at turn
    exact turn
  have lacking : settled.session session = none := rest.record.trans (still ▸ gone)
  have reached : after.roster.session session = some last := found
  cases input with
  | timer now =>
    rcases settles with same | swept
    · rw [same, lacking] at reached
      cases reached
    · rw [swept] at reached
      simp [Roster.sweep, Roster.forget, lacking] at reached
  | accept now =>
    rw [show after.roster = settled.arrive { logonTimeout := now + env.settings.clientLogonTimeout } from settles] at reached
    simp only [Roster.arrive] at reached
    by_cases fresh : session = settled.lastSession + 1
    · subst fresh
      rw [Function.update_self] at reached
      cases reached
      exact ⟨rfl, rfl⟩
    · rw [Function.update_of_ne fresh, lacking] at reached
      cases reached
  | _ =>
    rw [show after.roster = settled from settles, lacking] at reached
    cases reached

private theorem eq_of_fate {deed : Deed} {settled : Client.Session}
    (fate : Roster.Fate session client settled deed before.roster after.roster)
    (found : after.session session = some last) : last = settled := by
  have reached : after.roster.session session = some last := found
  rcases fate.kept with kept | ⟨-, gone⟩
  · exact Option.some.inj (reached.symm.trans kept)
  · rw [reached] at gone
    cases gone

private theorem unawaited_of_reachable (reachable : Reachable env world) (held : world.session session = some client)
    (early : client.state.stage = 0) : client.waitingForHeartbeat = false := by
  obtain ⟨users, realtime, inputs, run⟩ := reachable
  refine (run.preserves (fun world => Reachable env world ∧ ∀ client, world.session session = some client →
    client.state.stage = 0 → client.waitingForHeartbeat = false) ?_ ⟨⟨users, realtime, [], .nil _⟩, ?_⟩).2 client held early
  · rintro before input after step ⟨reachable, unawaited⟩
    refine ⟨reachable.step step, fun last found early => ?_⟩
    cases held : before.session session with
    | none => exact (step.arrival reachable held found).2
    | some client =>
      obtain ⟨deed, settled, scene, fate⟩ := step.fate reachable held
      obtain rfl := eq_of_fate fate found
      have bound := scene.stage_le held
      rw [← fate.state, early, Nat.le_zero] at bound
      have unready : client.state ≠ .ready := fun ready => by simp [ready, Client.State.stage] at bound
      have vigil := step.vigil reachable held found
      rw [Client.Session.supervised_unready unready] at vigil
      exact (congrArg Prod.snd vigil).trans (unawaited client held bound)
  · intro client held
    cases held

private theorem Step.watchdog_starts (step : Step env before input after) (reachable : Reachable env before)
    {dog : Watchdog Nanoseconds} (unwatched : before.watchdog session = none) (watched : after.watchdog session = some dog) :
    dog.waiting = false := by
  obtain ⟨last, found, watched⟩ := watchdog_eq_some.mp watched
  obtain ⟨ready, vigil⟩ := Client.Session.watchdog_eq_some.mp watched
  cases held : before.session session with
  | none =>
    have early := (step.arrival reachable held found).1
    rw [ready] at early
    cases early
  | some client =>
    obtain ⟨deed, settled, scene, fate⟩ := step.fate reachable held
    obtain rfl := eq_of_fate fate found
    have unready : client.state ≠ .ready := by
      intro ready
      rw [watchdog, held, Option.bind_some, Client.Session.watchdog, if_pos ready] at unwatched
      cases unwatched
    have early : client.state.stage = 0 := by
      have bound := scene.stage_le held
      rw [← fate.state, ready, show Client.State.ready.stage = 1 from rfl] at bound
      have other : client.state.stage ≠ 1 := fun same => unready (Client.State.stage_eq_one.mp same)
      omega
    have same := step.vigil reachable held found
    rw [Client.Session.supervised_unready unready, vigil] at same
    exact (congrArg Prod.snd same).trans (unawaited_of_reachable reachable held early)

private theorem Step.watchdog_ends (step : Step env before input after) (reachable : Reachable env before)
    {dog : Watchdog Nanoseconds} (watched : before.watchdog session = some dog) (unwatched : after.watchdog session = none) :
    after.Spent session := by
  obtain ⟨client, held, watched⟩ := watchdog_eq_some.mp watched
  have ready := (Client.Session.watchdog_eq_some.mp watched).1
  obtain ⟨plays, registered⟩ := step.round reachable
  have known : session ≤ before.roster.lastSession := registered.known session (Option.ne_none_iff_exists'.mpr ⟨client, held⟩)
  refine ⟨Nat.le_trans known plays.lastSession, fun last found => ?_⟩
  obtain ⟨deed, settled, scene, fate⟩ := step.fate reachable held
  obtain rfl := eq_of_fate fate found
  have bound := scene.stage_le held
  rw [← fate.state, ready, show Client.State.ready.stage = 1 from rfl] at bound
  have other : last.state.stage ≠ 1 := by
    intro same
    rw [watchdog, found, Option.bind_some, Client.Session.watchdog, if_pos (Client.State.stage_eq_one.mp same)] at unwatched
    cases unwatched
  have top := @Client.State.stage_le last.state
  omega

theorem Step.spent (step : Step env before input after) (reachable : Reachable env before) (spent : before.Spent session) :
    after.Spent session := by
  obtain ⟨known, past⟩ := spent
  obtain ⟨plays, -⟩ := step.round reachable
  refine ⟨Nat.le_trans known plays.lastSession, fun last found => ?_⟩
  cases held : before.session session with
  | none =>
    have fresh := (arrives_of_absence (step.absent reachable held) found).1
    omega
  | some client =>
    obtain ⟨deed, settled, scene, fate⟩ := step.fate reachable held
    obtain rfl := eq_of_fate fate found
    have bound := scene.stage_le held
    rw [← fate.state, past client held] at bound
    have top := @Client.State.stage_le last.state
    omega

/-- A tick is to a session what its record says. -/
theorem Step.ticks {now : Nanoseconds} (step : Step env before (.timer now) after) (reachable : Reachable env before)
    (held : before.session session = some client) :
    ∃ last, Roster.Fate session client last (client.tick now) before.roster after.roster := by
  obtain ⟨plays, registered⟩ := step.round reachable
  obtain ⟨deed, last, allowed, fate⟩ := plays.fate registered held
  exact ⟨last, (show deed = client.tick now from allowed) ▸ fate⟩

private theorem signal_eq_tick {now : Nanoseconds} (tick : input.signal session = .tick now) : input = .timer now := by
  cases input with
  | timer time =>
    cases tick
    rfl
  | read reader clock header message =>
    cases message with
    | heartbeat =>
      simp only [Input.signal] at tick
      split at tick <;> cases tick
    | _ => cases tick
  | _ => cases tick

private theorem tick_eq_dismiss {now : Nanoseconds} : client.tick now = .dismiss (.logout Texts.missingHeartbeat) ↔
    ∃ dog, client.watchdog = some dog ∧ dog.Alarms now := by
  unfold Client.Session.tick Client.Session.watchdog Watchdog.Alarms
  cases client.state with
  | waitingLogon => simp only; split <;> simp
  | waitingCreateRoute | waitingRemoveRoute =>
    simp only
    split <;> simp [Texts.userResponseTimeout, Texts.missingHeartbeat]
  | ready =>
    simp only
    split
    · split <;> simp [*]
    · simp [*]
  | zombie => simp

private theorem tick_eq_say {now : Nanoseconds} {testReqId : String}
    (asks : client.tick now = .say (.testRequest testReqId)) :
    ∃ dog, client.watchdog = some dog ∧ dog.Probes now := by
  unfold Client.Session.tick at asks
  unfold Client.Session.watchdog Watchdog.Probes
  cases state : client.state with
  | waitingLogon | waitingCreateRoute | waitingRemoveRoute =>
    simp only [state] at asks
    split at asks <;> cases asks
  | ready =>
    simp only [state] at asks
    split at asks
    · split at asks
      · cases asks
      · next due waiting => exact ⟨_, if_pos rfl, due, by simpa using waiting⟩
    · cases asks
  | zombie =>
    rw [state] at asks
    cases asks

private theorem tick_of_probes {dog : Watchdog Nanoseconds} {now : Nanoseconds} (watched : client.watchdog = some dog)
    (probes : dog.Probes now) : client.tick now = .say (.testRequest (toString now ++ "ns")) := by
  obtain ⟨ready, vigil⟩ := Client.Session.watchdog_eq_some.mp watched
  have deadline : client.nextHeartbeat = dog.deadline := congrArg Prod.fst vigil
  have due : client.nextHeartbeat < now := deadline ▸ probes.1
  have waiting : client.waitingForHeartbeat = false := (congrArg Prod.snd vigil).trans probes.2
  simp only [Client.Session.tick, ready, if_pos due, waiting, Bool.false_eq_true, if_false]

/-- The supervision of a session is its watchdog. -/
private theorem guards_session (env : Env) (session : Nat) :
    Watchdog.Guards (fun before input after => Reachable env before ∧ Step env before input after)
      (· + env.settings.clientHeartbeatFreq) (Input.signal session) (watchdog session) (Spent session) where
  starts := fun ⟨reachable, step⟩ => step.watchdog_starts reachable
  follows := by
    rintro before input after dog next ⟨reachable, step⟩ watched after
    obtain ⟨client, held, ready⟩ := watchdog_eq_some.mp watched
    obtain ⟨last, found, still⟩ := watchdog_eq_some.mp after
    have same := step.vigil reachable held found
    rw [Client.Session.supervised_ready ready, (Client.Session.watchdog_eq_some.mp still).2, Prod.mk.injEq] at same
    cases next
    exact Watchdog.mk.injEq .. ▸ same
  alarmed := by
    rintro before input after dog now ⟨reachable, step⟩ watched tick alarms
    obtain ⟨client, held, ready⟩ := watchdog_eq_some.mp watched
    obtain rfl := signal_eq_tick tick
    obtain ⟨last, fate⟩ := step.ticks reachable held
    have zombie : last.state = .zombie := by rw [fate.state, tick_eq_dismiss.mpr ⟨dog, ready, alarms⟩, Deed.leads]
    cases found : after.session session with
    | none => rw [watchdog, found, Option.bind_none]
    | some other =>
      obtain rfl := eq_of_fate fate found
      rw [watchdog, found, Option.bind_some, Client.Session.watchdog, if_neg (by simp [zombie])]
  ends := fun ⟨reachable, step⟩ => step.watchdog_ends reachable
  remains := fun ⟨reachable, step⟩ => step.spent reachable
  gone := by
    rintro world ⟨-, past⟩
    cases held : world.session session with
    | none => rw [watchdog, held, Option.bind_none]
    | some client =>
      have unready : client.state ≠ .ready := fun ready => by
        have stage := past client held
        rw [ready] at stage
        cases stage
      rw [watchdog, held, Option.bind_some, Client.Session.watchdog, if_neg unready]

/-! What the connection of the session is given. -/

/-- The supervision asks the session for a heartbeat. -/
def Tests (session : Nat) (before after : World) : Prop :=
  ∃ msgSeqNum testReqId, after.roster.heard session =
    before.roster.heard session ++ [.toClient session msgSeqNum (.testRequest testReqId)]

/-- The session is closed for a missing heartbeat. -/
def Expires (session : Nat) (before after : World) : Prop :=
  ∃ msgSeqNum, after.roster.heard session = before.roster.heard session ++
    [.toClient session msgSeqNum (.logout Texts.missingHeartbeat), .closeClient session]

private theorem outputs_of_fate {deed : Deed} {outputs : List Output}
    (fate : Roster.Fate session client last deed before.roster after.roster)
    (heard : after.roster.heard session = before.roster.heard session ++ outputs) :
    ∃ msgSeqNum, deed.outputs session msgSeqNum = outputs := by
  obtain ⟨msgSeqNum, told⟩ := fate.heard
  exact ⟨msgSeqNum, List.append_cancel_left (told.symm.trans heard)⟩

private theorem eq_say_of_outputs {deed : Deed} {msgSeqNum other : Nat} {testReqId : String}
    (outputs : deed.outputs session msgSeqNum = [.toClient session other (.testRequest testReqId)]) :
    deed = .say (.testRequest testReqId) := by
  cases deed <;> simp_all [Deed.outputs]

private theorem eq_dismiss_of_outputs {deed : Deed} {msgSeqNum other : Nat} {text : String}
    (outputs : deed.outputs session msgSeqNum = [.toClient session other (.logout text), .closeClient session]) :
    deed = .dismiss (.logout text) := by
  cases deed <;> simp_all [Deed.outputs]

private theorem tests_iff {now : Nanoseconds} (step : Step env before (.timer now) after) (reachable : Reachable env before) :
    Tests session before after ↔ ∃ dog, before.watchdog session = some dog ∧ dog.Probes now := by
  constructor
  · rintro ⟨msgSeqNum, testReqId, heard⟩
    cases held : before.session session with
    | none =>
      rw [(step.absent reachable held).heard] at heard
      simp at heard
    | some client =>
      obtain ⟨last, fate⟩ := step.ticks reachable held
      obtain ⟨other, outputs⟩ := outputs_of_fate fate heard
      obtain ⟨dog, watched, probes⟩ := tick_eq_say (eq_say_of_outputs outputs)
      exact ⟨dog, watchdog_eq_some.mpr ⟨client, held, watched⟩, probes⟩
  · rintro ⟨dog, watched, probes⟩
    obtain ⟨client, held, watched⟩ := watchdog_eq_some.mp watched
    obtain ⟨last, fate⟩ := step.ticks reachable held
    rw [tick_of_probes watched probes] at fate
    obtain ⟨msgSeqNum, heard⟩ := fate.heard
    exact ⟨msgSeqNum, _, heard⟩

private theorem expires_tick {now : Nanoseconds} (step : Step env before (.timer now) after)
    (reachable : Reachable env before) :
    Expires session before after ↔ ∃ dog, before.watchdog session = some dog ∧ dog.Alarms now := by
  constructor
  · rintro ⟨msgSeqNum, heard⟩
    cases held : before.session session with
    | none =>
      rw [(step.absent reachable held).heard] at heard
      simp at heard
    | some client =>
      obtain ⟨last, fate⟩ := step.ticks reachable held
      obtain ⟨other, outputs⟩ := outputs_of_fate fate heard
      obtain ⟨dog, watched, alarms⟩ := tick_eq_dismiss.mp (eq_dismiss_of_outputs outputs)
      exact ⟨dog, watchdog_eq_some.mpr ⟨client, held, watched⟩, alarms⟩
  · rintro ⟨dog, watched, alarms⟩
    obtain ⟨client, held, watched⟩ := watchdog_eq_some.mp watched
    obtain ⟨last, fate⟩ := step.ticks reachable held
    rw [tick_eq_dismiss.mpr ⟨dog, watched, alarms⟩] at fate
    exact fate.heard

private theorem not_heeds_logout {clock : Clock} {header : Header} {shared : Shared} {message : FromClient} {text : String}
    (heeds : client.Heeds env clock header shared session message (.dismiss (.logout text))) : False := by
  unfold Client.Session.Heeds at heeds
  cases state : client.state <;> rw [state] at heeds <;> cases message <;> simp_all [Deed.Refuses]

private theorem timer_of_expires (step : Step env before input after) (reachable : Reachable env before)
    (expires : Expires session before after) : ∃ now, input = .timer now := by
  obtain ⟨msgSeqNum, heard⟩ := expires
  cases held : before.session session with
  | none =>
    rw [(step.absent reachable held).heard] at heard
    simp at heard
  | some client =>
    obtain ⟨plays, registered⟩ := step.round reachable
    obtain ⟨deed, last, allowed, fate⟩ := plays.fate registered held
    obtain ⟨other, outputs⟩ := outputs_of_fate fate heard
    obtain rfl := eq_dismiss_of_outputs outputs
    cases input with
    | timer now => exact ⟨now, rfl⟩
    | read reader clock header message =>
      simp only [Allows] at allowed
      split at allowed
      · exact (not_heeds_logout allowed).elim
      · cases allowed
    | serverRead number message =>
      cases message with
      | userResponse response =>
        simp only [Allows] at allowed
        split at allowed
        · unfold Client.Session.Answers at allowed
          split at allowed
          · cases allowed
          · cases allowed
          · cases allowed
          · split at allowed <;> cases allowed
          · rcases allowed with same | ⟨-, same⟩
            · cases same
            · simp [Texts.goodbye, Texts.missingHeartbeat] at same
        · cases allowed
      | response value =>
        rcases allowed with same | ⟨-, response, same⟩ <;> cases same
      | _ => cases allowed
    | readError reader =>
      simp only [Allows, Client.Session.closing] at allowed
      split at allowed
      · split at allowed <;> cases allowed
      · cases allowed
    | disconnected reader =>
      simp only [Allows, Client.Session.ending] at allowed
      split at allowed
      · split at allowed <;> cases allowed
      · cases allowed
    | serverDisconnected =>
      simp only [Allows, Client.Session.closing] at allowed
      split at allowed <;> cases allowed
    | _ => cases allowed

/-! The past of a run. -/

def ticks (inputs : List Input) : List Nanoseconds := inputs.filterMap Input.tick

/-- A tick at some time found the session ready. -/
def TickedReady (env : Env) (users : Map String (String × Nat)) (realtime : Nat) (session : Nat) (inputs : List Input)
    (time : Nanoseconds) : Prop :=
  ∃ earlier later world, inputs = earlier ++ .timer time :: later ∧ Runs env users realtime earlier world ∧ world.Ready session

/-- A tick sent the session a test request, and it has sent no heartbeat since. -/
def Silent (env : Env) (users : Map String (String × Nat)) (realtime : Nat) (session : Nat) (inputs : List Input)
    (world : World) (start : Nanoseconds) : Prop :=
  ∃ earlier between asking asked, inputs = earlier ++ .timer start :: between ∧ Runs env users realtime earlier asking ∧
    Step env asking (.timer start) asked ∧ Tests session asking asked ∧ Run (Step env) asked between world ∧
    ∀ clock header, .read session clock header .heartbeat ∉ between

/-- Whenever a tick that is due finds the session ready, it has answered the test requests before. -/
def Answers (env : Env) (users : Map String (String × Nat)) (realtime : Nat) (session : Nat) (inputs : List Input) : Prop :=
  ∀ earlier now later world start, inputs = earlier ++ .timer now :: later → Runs env users realtime earlier world →
    world.Ready session → start + env.settings.clientHeartbeatFreq < now → ¬ Silent env users realtime session earlier world start

private theorem signal_reply :
    input.signal session = .reply ↔ ∃ clock header, input = .read session clock header .heartbeat := by
  cases input with
  | read reader clock header message =>
    cases message <;> simp [Input.signal]
  | _ => simp [Input.signal]

private theorem run_reached (run : Run (Step env) before inputs after) (reachable : Reachable env before) :
    Run (fun before input after => Reachable env before ∧ Step env before input after) before inputs after :=
  run.mono_of (Reachable env) (fun step reachable => reachable.step step) (fun step reachable => ⟨reachable, step⟩) reachable

private theorem silent_iff {start : Nanoseconds} : Silent env users realtime session inputs world start ↔
    ∃ between, Watchdog.Unanswered (fun before input after => Reachable env before ∧ Step env before input after)
      (Input.signal session) (watchdog session) (create users realtime) inputs world start between := by
  have reached {inputs : List Input} {world : World} (runs : Runs env users realtime inputs world) : Reachable env world :=
    ⟨users, realtime, inputs, runs⟩
  constructor
  · rintro ⟨earlier, between, asking, asked, split, runs, step, tests, run, silent⟩
    obtain ⟨dog, watched, probes⟩ := (tests_iff step (reached runs)).mp tests
    refine ⟨between, earlier, .timer start, asking, asked, dog, split, run_reached runs ⟨users, realtime, [], .nil _⟩,
      ⟨reached runs, step⟩, run_reached run ((reached runs).step step), rfl, watched, probes, fun later member reply => ?_⟩
    obtain ⟨clock, header, rfl⟩ := signal_reply.mp reply
    exact silent clock header member
  · rintro ⟨between, earlier, event, asking, asked, dog, split, runs, ⟨reachable, step⟩, run, tick, watched, probes, silent⟩
    obtain rfl := signal_eq_tick tick
    refine ⟨earlier, between, asking, asked, split, runs.mono fun step => step.2, step, (tests_iff step reachable).mpr ⟨dog, watched,
      probes⟩, run.mono fun step => step.2, fun clock header member => ?_⟩
    exact silent _ member (signal_reply.mpr ⟨clock, header, rfl⟩)

private theorem ticks_signal (session : Nat) (inputs : List Input) :
    inputs.filterMap (fun input => (input.signal session).time) = ticks inputs := by
  refine congrFun (congrArg List.filterMap (funext fun input => ?_)) inputs
  cases input with
  | read reader clock header message =>
    cases message with
    | heartbeat =>
      simp only [Input.signal]
      split <;> rfl
    | _ => rfl
  | _ => rfl

/-- At a tick that finds the session ready, supervision closes it exactly when it was sent a
test request that is overdue and unanswered, and no tick in between was due. -/
private theorem expires_iff {now : Nanoseconds} (freq : 0 ≤ env.settings.clientHeartbeatFreq)
    (runs : Runs env users realtime inputs before) (forward : (ticks inputs).Pairwise (· ≤ ·))
    (step : Step env before (.timer now) after) : Expires session before after ↔ before.Ready session ∧
      ∃ start, Silent env users realtime session inputs before start ∧ start + env.settings.clientHeartbeatFreq < now ∧
        ∀ time, TickedReady env users realtime session inputs time →
          ¬ (start + env.settings.clientHeartbeatFreq < time ∧ time < now) := by
  have reachable : Reachable env before := ⟨users, realtime, inputs, runs⟩
  have guarded {dog : Watchdog Nanoseconds} (watched : before.watchdog session = some dog) :=
    (guards_session env session).alarms_iff (run_reached runs ⟨users, realtime, [], .nil _⟩) rfl
      (fun _ => Int.le_add_of_nonneg_right freq) (ticks_signal session inputs ▸ forward) watched now
  rw [expires_tick step reachable]
  constructor
  · rintro ⟨dog, watched, alarms⟩
    obtain ⟨start, between, unanswered, due, quiet⟩ := (guarded watched).mp alarms
    refine ⟨watchdog_of_ready.mp ⟨dog, watched⟩, start, silent_iff.mpr ⟨between, unanswered⟩, due, ?_⟩
    rintro time ⟨earlier, later, world, split, -⟩
    exact quiet (.timer time) (by simp [split]) time rfl
  · rintro ⟨ready, start, silent, due, -⟩
    obtain ⟨dog, watched⟩ := watchdog_of_ready.mpr ready
    obtain ⟨between, unanswered⟩ := silent_iff.mp silent
    refine ⟨dog, watched, ?_⟩
    rw [(guards_session env session).waits unanswered watched]
    exact ⟨due, rfl⟩

private theorem not_alive_of_expires (step : Step env before input after) (reachable : Reachable env before)
    (expires : Expires session before after) : ¬ after.Alive session := by
  obtain ⟨now, rfl⟩ := timer_of_expires step reachable expires
  obtain ⟨dog, watched, alarms⟩ := (expires_tick step reachable).mp expires
  obtain ⟨client, held, watched⟩ := watchdog_eq_some.mp watched
  obtain ⟨last, fate⟩ := step.ticks reachable held
  refine not_alive_of_fate fate ?_
  rw [fate.state, tick_eq_dismiss.mpr ⟨dog, watched, alarms⟩, Deed.leads]

/-- Supervision closes exactly the silent clients. -/
theorem silent_closed (freq : 0 ≤ env.settings.clientHeartbeatFreq) (runs : Runs env users realtime inputs before)
    (forward : (ticks inputs).Pairwise (· ≤ ·)) (step : Step env before input after) :
    (Expires session before after ↔ ∃ now, input = .timer now ∧ before.Ready session ∧
      ∃ start, Silent env users realtime session inputs before start ∧ start + env.settings.clientHeartbeatFreq < now ∧
        ∀ time, TickedReady env users realtime session inputs time →
          ¬ (start + env.settings.clientHeartbeatFreq < time ∧ time < now)) ∧
    (Expires session before after → ¬ after.Alive session) ∧
    (∀ later, Answers env users realtime session (inputs ++ input :: later) → ¬ Expires session before after) ∧
    ∀ now start, input = .timer now → before.Ready session → Silent env users realtime session inputs before start →
      start + env.settings.clientHeartbeatFreq < now → Expires session before after := by
  have reachable : Reachable env before := ⟨users, realtime, inputs, runs⟩
  have closes : Expires session before after ↔ ∃ now, input = .timer now ∧ before.Ready session ∧
      ∃ start, Silent env users realtime session inputs before start ∧ start + env.settings.clientHeartbeatFreq < now ∧
        ∀ time, TickedReady env users realtime session inputs time →
          ¬ (start + env.settings.clientHeartbeatFreq < time ∧ time < now) := by
    constructor
    · intro expires
      obtain ⟨now, rfl⟩ := timer_of_expires step reachable expires
      exact ⟨now, rfl, (expires_iff freq runs forward step).mp expires⟩
    · rintro ⟨now, rfl, overdue⟩
      exact (expires_iff freq runs forward step).mpr overdue
  refine ⟨closes, not_alive_of_expires step reachable, fun later answers expires => ?_, ?_⟩
  · obtain ⟨now, rfl, ready, start, silent, due, -⟩ := closes.mp expires
    exact answers inputs now later before start rfl runs ready due silent
  · rintro now start rfl ready silent due
    obtain ⟨dog, watched⟩ := watchdog_of_ready.mpr ready
    obtain ⟨between, unanswered⟩ := silent_iff.mp silent
    have waits := (guards_session env session).waits unanswered watched
    exact (expires_tick step reachable).mpr ⟨dog, watched, waits ▸ due, waits ▸ rfl⟩

/-- A client is asked for a heartbeat at the first tick and closed at the next one that is due. -/
theorem silent_closed_loggedOn : ∃ world asked last,
    Runs Deployment.env Deployment.users 0 Deployment.loggedOn world ∧ Step Deployment.env world (.timer 10) asked ∧
      Step Deployment.env asked (.timer 50) last ∧ Tests 1 world asked ∧ Expires 1 asked last ∧ ¬ last.Alive 1 := by
  obtain ⟨world, asked, last, runs, asks, run, checked⟩ := exists_runs_of_replay Regular Deployment.env Deployment.users 0
    Deployment.loggedOn (.timer 10) [.timer 50]
    (fun world asked _ => asked.controller.log ==
        world.controller.log ++ [.toServer 3 (.testRequest "10"), .toClient 1 2 (.testRequest "10ns")] &&
      (asked.session 1).any fun client => client.state == .ready) (by decide +kernel)
  simp only [Bool.and_eq_true, beq_iff_eq, Option.any_eq_true] at checked
  obtain ⟨log, client, held, ready⟩ := checked
  cases run with
  | cons head rest =>
    cases rest
    have start := runs_of_runsUnder runs
    have tests : Tests 1 world asked := by
      refine ⟨2, "10ns", ?_⟩
      show (asked.controller.log).filter _ = (world.controller.log).filter _ ++ _
      rw [log, List.filter_append]
      rfl
    have silent : Silent Deployment.env Deployment.users 0 1 (Deployment.loggedOn ++ [.timer 10]) asked 10 :=
      ⟨Deployment.loggedOn, [], world, asked, rfl, start, asks, tests, .nil _, by simp⟩
    obtain ⟨-, ends, -, closes⟩ :=
      @silent_closed Deployment.env Deployment.users 0 _ _ _ _ 1 (by decide) (start.snoc asks) (by decide) head.2
    have expires := closes 50 10 rfl ⟨client, held, ready⟩ silent (by decide)
    exact ⟨world, asked, last, start, asks, head.2, tests, expires, ends expires⟩

end World
end FixProxy
