import FixProxy.Deployment
import FixProxy.Proofs.Deaths

/-! Who holds a username: the one session that passed the credential check under it and
has not ended. -/

namespace FixProxy
open Codec
open Roster (Fate Absence)
open Client.State (active_iff)

private theorem Client.Session.identity_of_departed {client : Client.Session} (departed : client.state ≠ .waitingLogon) :
    client.identity = (client.state, client.username, client.partyId) := by
  unfold Client.Session.identity
  split
  · next waiting => exact absurd waiting departed
  · rfl

namespace World
variable {env : Env} {before after world : World} {input : Input} {session : Nat} {client : Client.Session}
  {users : Map String (String × Nat)} {realtime : Nat} {inputs : List Input} {username : String}

/-- The session passed the credential check under a username in some event of the run. -/
def Passed (env : Env) (users : Map String (String × Nat)) (realtime : Nat) (session : Nat) (username : String)
    (inputs : List Input) (world : World) : Prop :=
  Run.Took (Step env) (fun before input _ => ∃ strategyId, before.Accepts env input session username strategyId)
    (create users realtime) inputs world

private theorem passed_snoc (run : Runs env users realtime inputs before) (step : Step env before input after) (session : Nat)
    (username : String) :
    Passed env users realtime session username (inputs ++ [input]) after ↔
      Passed env users realtime session username inputs before ∨
        ∃ strategyId, before.Accepts env input session username strategyId :=
  Run.took_snoc (fun _ _ _ _ step step' => step.unique step') run step

/-- A logon that passes the credential check makes its session the user's, or the session ends. -/
theorem Step.admits {strategyId : Nat} (step : Step env before input after) (reachable : Reachable env before)
    (accepts : before.Accepts env input session username strategyId) (alive : after.Alive session) :
    ∃ last, after.session session = some last ∧ last.state = .waitingCreateRoute ∧ last.username = username ∧
      last.partyId = toString strategyId := by
  obtain ⟨clock, header, value, client, shared, rfl, rfl, held, arriving, valid, accepted⟩ := accepts
  obtain ⟨plays, registered⟩ := step.round reachable
  obtain ⟨deed, last, allowed, fate⟩ := plays.fate registered held
  simp only [Allows, if_true] at allowed
  unfold Client.Session.Heeds at allowed
  rw [arriving] at allowed
  rcases allowed with refuses | ⟨-, strategyId', shared', accepted', rfl⟩
  · have ends : deed.Ends := by cases deed <;> trivial
    exact absurd alive (not_alive_of_fate fate (fate.state.trans (Deed.leads_of_ends ends _)))
  · rw [accepted] at accepted'
    cases accepted'
    have state : last.state = .waitingCreateRoute := fate.state
    have identity := fate.identity (by exact id)
    rw [Client.Session.identity_of_departed (by simp [state])] at identity
    obtain ⟨-, name, party⟩ : _ ∧ last.username = value.username ∧ last.partyId = toString strategyId := by
      simpa [Deed.identify] using identity
    exact ⟨last, kept_of_fate fate (by simp [state]), state, name, party⟩

/-- Who is past its logon, and how it came there. -/
structure Identified (env : Env) (users : Map String (String × Nat)) (realtime : Nat) (session : Nat) (inputs : List Input)
    (world : World) : Prop where
  passed : ∀ client, world.session session = some client → client.state.Active →
    Passed env users realtime session client.username inputs world
  active : ∀ username, Passed env users realtime session username inputs world → world.Alive session →
    ∃ client, world.session session = some client ∧ client.state.Active ∧ client.username = username
  known : ∀ username, Passed env users realtime session username inputs world → session ≤ world.roster.lastSession

theorem who_of_fate {deed : Deed} {last : Client.Session} (scene : Scene env before input session client deed)
    (fate : Fate session client last deed before.roster after.roster) (held : before.session session = some client)
    (active : client.state.Active) (alive : last.state ≠ .zombie) :
    last.state.Active ∧ last.username = client.username ∧ last.partyId = client.partyId := by
  have departed := (active_iff.mp active).1
  have state : last.state ≠ .waitingLogon := fate.state ▸ Deed.leads_ne_waitingLogon departed
  have lives : ¬ deed.Ends := fun ends => alive (fate.state.trans (Deed.leads_of_ends ends _))
  have identity := fate.identity lives
  rw [Client.Session.identity_of_departed state, Client.Session.identity_of_departed departed] at identity
  have who : (last.username, last.partyId) = (client.username, client.partyId) := by
    cases scene with
    | rest | say | stray | pass | welcome | depart => exact congrArg Prod.snd identity
    | ends ends => exact absurd ends lives
    | enlist accepts =>
      obtain ⟨_, _, _, other, _, -, -, found, arriving, -⟩ := accepts
      rw [held] at found
      cases found
      exact absurd arriving departed
  exact ⟨active_iff.mpr ⟨state, alive⟩, congrArg Prod.fst who, congrArg Prod.snd who⟩

private theorem identified_held (run : Runs env users realtime inputs before) (step : Step env before input after)
    (named : Identified env users realtime session inputs before) (held : before.session session = some client)
    {deed : Deed} {last : Client.Session} (scene : Scene env before input session client deed)
    (fate : Fate session client last deed before.roster after.roster) (known : session ≤ after.roster.lastSession) :
    Identified env users realtime session (inputs ++ [input]) after := by
  have reachable : Reachable env before := ⟨users, realtime, inputs, run⟩
  have snoc := passed_snoc run step session
  have found {other : Client.Session} (held : after.session session = some other) (alive : other.state ≠ .zombie) :
      other = last ∧ last.state ≠ .zombie := by
    have lives : last.state ≠ .zombie := fun zombie => not_alive_of_fate fate zombie ⟨other, held, alive⟩
    rw [kept_of_fate fate lives] at held
    exact ⟨(Option.some.inj held).symm, lives⟩
  constructor
  · intro other heldAfter active
    obtain ⟨rfl, alive⟩ := found heldAfter (active_iff.mp active).2
    rw [snoc]
    by_cases was : client.state.Active
    · left
      obtain ⟨-, name, -⟩ := who_of_fate scene fate held was alive
      rw [name]
      exact named.passed client held was
    · right
      have departed := (active_iff.mp active).1
      have living : client.state ≠ .zombie := by
        intro zombie
        rw [fate.state, scene.rest_of_zombie held zombie] at alive
        exact alive zombie
      have waiting : client.state = .waitingLogon := by
        by_contra departed
        exact was (active_iff.mpr ⟨departed, living⟩)
      cases scene with
      | rest | stray => exact absurd (fate.state.trans waiting) departed
      | ends ends => exact absurd (fate.state.trans (Deed.leads_of_ends ends _)) alive
      | say message ready | depart ready | pass ready => simp [waiting] at ready
      | welcome creating => simp [waiting] at creating
      | @enlist username strategyId accepts =>
        obtain ⟨settled, heldSettled, -, name, -⟩ := step.admits reachable accepts ⟨other, heldAfter, alive⟩
        rw [heldAfter] at heldSettled
        cases heldSettled
        exact ⟨strategyId, name ▸ accepts⟩
  · intro username passed alive
    obtain ⟨other, heldAfter, living⟩ := alive
    obtain ⟨rfl, lives⟩ := found heldAfter living
    rcases (snoc username).mp passed with past | ⟨strategyId, accepts⟩
    · have was : client.state ≠ .zombie := by
        intro zombie
        rw [fate.state, scene.rest_of_zombie held zombie] at lives
        exact lives zombie
      obtain ⟨same, heldBefore, active, name⟩ := named.active username past ⟨client, held, was⟩
      rw [held] at heldBefore
      cases heldBefore
      obtain ⟨active, kept, -⟩ := who_of_fate scene fate held active lives
      exact ⟨other, heldAfter, active, kept.trans name⟩
    · obtain ⟨settled, heldSettled, state, name, -⟩ := step.admits reachable accepts ⟨other, heldAfter, living⟩
      exact ⟨settled, heldSettled, state ▸ trivial, name⟩
  · exact fun _ _ => known

private theorem identified_absent (run : Runs env users realtime inputs before) (step : Step env before input after)
    (named : Identified env users realtime session inputs before) (absent : before.session session = none)
    (absence : Absence session before.roster after.roster) (ids : before.roster.lastSession ≤ after.roster.lastSession) :
    Identified env users realtime session (inputs ++ [input]) after := by
  have past username (passed : Passed env users realtime session username (inputs ++ [input]) after) :
      Passed env users realtime session username inputs before := by
    rcases (passed_snoc run step session username).mp passed with past | ⟨strategyId, accepts⟩
    · exact past
    · obtain ⟨_, _, _, _, _, -, -, held, -⟩ := accepts
      rw [absent] at held
      cases held
  constructor
  · intro client held active
    exact absurd (arrives_of_absence absence held).2 (active_iff.mp active).1
  · rintro username passed ⟨client, held, -⟩
    have := named.known username (past username passed)
    have := (arrives_of_absence absence held).1
    omega
  · exact fun username passed => Nat.le_trans (named.known username (past username passed)) ids

private theorem identified_of_runs (runs : Runs env users realtime inputs world) (session : Nat) :
    Identified env users realtime session inputs world := by
  refine Run.history (Identified env users realtime session) ?_ ?_ runs
  · have never username : ¬ Passed env users realtime session username [] (create users realtime) := Run.not_took_nil _ _
    constructor
    · intro client held
      have absent : (create users realtime).session session = none := rfl
      rw [absent] at held
      cases held
    · exact fun username passed => absurd passed (never username)
    · exact fun username passed => absurd passed (never username)
  · intro inputs input before after run step named
    have reachable : Reachable env before := ⟨users, realtime, inputs, run⟩
    obtain ⟨plays, registered⟩ := step.round reachable
    cases held : before.session session with
    | none => exact identified_absent run step named held (step.absent reachable held) plays.lastSession
    | some client =>
      obtain ⟨deed, last, scene, fate⟩ := step.fate reachable held
      have known : session ≤ before.roster.lastSession :=
        registered.known session (Option.ne_none_iff_exists'.mpr ⟨client, held⟩)
      exact identified_held run step named held scene fate (Nat.le_trans known plays.lastSession)

/-- The two maps of usernames are inverse to each other; they hold exactly the sessions that
passed the credential check and have not ended; and nobody is refused as logged on already
whose username no such session holds. -/
theorem usernames_exact (runs : Runs env users realtime inputs world) :
    (∀ username session, world.controller.shared.usernameToSession.find username = some session ↔
      world.controller.shared.sessionToUsername.find session = some username) ∧
    (∀ username session, world.controller.shared.usernameToSession.find username = some session ↔
      Passed env users realtime session username inputs world ∧ world.Alive session) ∧
    (∀ username session password rawData now,
      (∀ other, world.Alive other → ¬ Passed env users realtime other username inputs world) →
      world.controller.shared.sessionLogonHelper env.library.toLibrary env.settings now session username password rawData ≠
        .error Error.alreadyLoggedOn) := by
  have registered := registered_of_reachable ⟨users, realtime, inputs, runs⟩
  have exact_ username session : world.controller.shared.usernameToSession.find username = some session ↔
      Passed env users realtime session username inputs world ∧ world.Alive session := by
    have named := identified_of_runs runs session
    have inverse : world.controller.shared.usernameToSession.find username = some session ↔
        world.roster.username session = some username := registered.inverse username session
    rw [inverse, registered.named]
    constructor
    · intro login
      obtain ⟨client, held, name⟩ := Option.bind_eq_some_iff.mp login
      have active : client.state.Active ∧ client.username = username := by
        unfold Client.Session.login at name
        split at name <;> simp_all [Client.State.Active]
      exact ⟨active.2 ▸ named.passed client held active.1, client, held, (active_iff.mp active.1).2⟩
    · rintro ⟨passed, alive⟩
      obtain ⟨client, held, active, rfl⟩ := named.active username passed alive
      have found : world.roster.session session = some client := held
      rw [found, Option.bind_some]
      unfold Client.Session.login
      split <;> simp_all [Client.State.Active]
  refine ⟨registered.inverse, exact_, fun username session password rawData now free => ?_⟩
  unfold Shared.sessionLogonHelper
  split
  · simp [Error.invalidUsername, Error.alreadyLoggedOn]
  · split
    · simp [Error.invalidPassword, Error.alreadyLoggedOn]
    · split
      · next taken =>
        obtain ⟨other, holds⟩ := Option.isSome_iff_exists.mp taken
        obtain ⟨passed, alive⟩ := (exact_ username other).mp holds
        exact absurd passed (free other alive)
      · simp

theorem usernames_exact_loggedOn : ∃ world, Runs Deployment.env Deployment.users 0 Deployment.loggedOn world ∧
    Passed Deployment.env Deployment.users 0 1 "trader" Deployment.loggedOn world ∧ world.Alive 1 := by
  obtain ⟨world, runs, checked⟩ := exists_run_of_replay Regular Deployment.env Deployment.users 0 Deployment.loggedOn
    (fun world => world.controller.shared.usernameToSession.find "trader" == some 1) (by decide +kernel)
  have runs := runs_of_runsUnder runs
  have holds : world.controller.shared.usernameToSession.find "trader" = some 1 := by simpa using checked
  exact ⟨world, runs, ((usernames_exact runs).2.1 "trader" 1).mp holds⟩

end World
end FixProxy
