import FixProxy.Deployment
import FixProxy.Proofs.Fates
import FixProxy.Proofs.Usernames

/-! The life of a session goes one way. It arrives, logs on, is ready, logs out and ends, it may
skip what is in between but never goes back, and it keeps its name. Once its connection has been
closed nothing more is handed to it. -/

namespace FixProxy
open Codec
open Roster (Fate Absence)

/-- How far a session has come. -/
def Client.State.rank : Client.State → Nat
  | .waitingLogon => 0
  | .waitingCreateRoute => 1
  | .ready => 2
  | .waitingRemoveRoute => 3
  | .zombie => 4

namespace World
variable {env : Env} {users : Map String (String × Nat)} {realtime : Nat} {before after first last world : World}
  {input : Input} {inputs : List Input} {session : Nat} {client : Client.Session}

private theorem rank_of_scene {deed : Deed} (scene : Scene env before input session client deed)
    (held : before.session session = some client) : client.state.rank ≤ (deed.leads client.state).rank := by
  cases scene with
  | rest | say | stray | pass => exact Nat.le_refl _
  | ends ends alive =>
    rw [Deed.leads_of_ends ends]
    cases client.state <;> decide
  | welcome waiting | depart waiting => simp [waiting, Deed.leads, Client.State.rank]
  | enlist accepts =>
    obtain ⟨_, _, _, other, _, -, -, found, arriving, -⟩ := accepts
    cases held.symm.trans found
    simp [arriving, Deed.leads, Client.State.rank]

/-- A session that has arrived is as far as it was or further, or it is gone for good. -/
structure Onward (session : Nat) (first last : World) : Prop where
  known : session ≤ first.roster.lastSession → session ≤ last.roster.lastSession
  gone : session ≤ first.roster.lastSession → first.session session = none → last.session session = none
  further : ∀ client, first.session session = some client → ∀ other, last.session session = some other →
    client.state.rank ≤ other.state.rank ∧
      (client.state.Active → other.state.Active → other.username = client.username ∧ other.partyId = client.partyId)

private theorem onward_step (step : Step env before input after) (reachable : Reachable env before) (session : Nat) :
    Onward session before after := by
  obtain ⟨plays, registered⟩ := step.round reachable
  have absence (absent : before.session session = none) := plays.absent registered absent
  refine ⟨fun known => Nat.le_trans known plays.lastSession, fun known absent => ?_, fun client held other heldOther => ?_⟩
  · by_contra held
    obtain ⟨client, found⟩ := Option.ne_none_iff_exists'.mp held
    have fresh := (arrives_of_absence (absence absent) found).1
    omega
  · obtain ⟨deed, done, scene, fate⟩ := step.fate reachable held
    have found : after.roster.session session = some other := heldOther
    rcases fate.kept with kept | ⟨-, gone⟩
    · obtain rfl := Option.some.inj (kept.symm.trans found)
      refine ⟨fate.state ▸ rank_of_scene scene held, fun active later => ?_⟩
      have who := who_of_fate scene fate held active (Client.State.active_iff.mp later).2
      exact who.2
    · cases gone.symm.trans found

private theorem active_of_rank {state : Client.State} : state.Active ↔ 1 ≤ state.rank ∧ state.rank ≤ 3 := by
  cases state <;> simp [Client.State.Active, Client.State.rank]

theorem Onward.trans {middle : World} (held : ∀ client, first.session session = some client → session ≤ first.roster.lastSession)
    (head : Onward session first middle) (rest : Onward session middle last) : Onward session first last where
  known := fun known => rest.known (head.known known)
  gone := fun known absent => rest.gone (head.known known) (head.gone known absent)
  further client held' other heldOther := by
    cases found : middle.session session with
    | none => cases heldOther.symm.trans (rest.gone (head.known (held client held')) found)
    | some between =>
      obtain ⟨rank, who⟩ := head.further client held' between found
      obtain ⟨later, same⟩ := rest.further between found other heldOther
      refine ⟨Nat.le_trans rank later, fun active still => ?_⟩
      have lower := (active_of_rank.mp active).1
      have upper := (active_of_rank.mp still).2
      have meanwhile : between.state.Active := active_of_rank.mpr ⟨by omega, by omega⟩
      obtain ⟨username, party⟩ := who active meanwhile
      obtain ⟨username', party'⟩ := same meanwhile still
      exact ⟨username'.trans username, party'.trans party⟩

/-- In every run a session that was there is as far as it was or further, under the name and for
the client id that it logged on with; and one that is gone does not come back. -/
theorem life_goes_on (reachable : Reachable env first) (run : Run (Step env) first inputs last) (session : Nat) :
    (∀ client, first.session session = some client → ∀ other, last.session session = some other →
      client.state.rank ≤ other.state.rank ∧
        (client.state.Active → other.state.Active → other.username = client.username ∧ other.partyId = client.partyId)) ∧
      (session ≤ first.controller.shared.nextSessionId → first.session session = none → last.session session = none) := by
  have onward : Onward session first last := by
    induction run with
    | nil =>
      refine ⟨id, fun _ absent => absent, fun client held other heldOther => ?_⟩
      cases held.symm.trans heldOther
      exact ⟨Nat.le_refl _, fun _ _ => ⟨rfl, rfl⟩⟩
    | @cons first _ _ _ _ head _ ih =>
      have known client (held : first.session session = some client) : session ≤ first.roster.lastSession :=
        (registered_of_reachable reachable).known session (Option.ne_none_iff_exists'.mpr ⟨client, held⟩)
      exact .trans known (onward_step head reachable session) (ih (reachable.step head))
  exact ⟨onward.further, onward.gone⟩

/-- A client that has got its route is the one that asked for it. -/
theorem life_goes_on_arrived : ∃ (first last : World) (client other : Client.Session),
    RunsUnder Regular Deployment.env Deployment.users 0 Deployment.arrived first ∧
      first.session 1 = some client ∧ last.session 1 = some other ∧ other.state = .ready ∧
      other.username = client.username ∧ other.partyId = client.partyId := by
  obtain ⟨first, last, runs, -, step, checked⟩ := exists_step_of_replay Regular Deployment.env Deployment.users 0
    Deployment.arrived (Deployment.answer "proxy-1" "1" .loggedIn)
    (fun first last => ((first.session 1).any fun client => client.state == .waitingCreateRoute) &&
      (last.session 1).any fun client => client.state == .ready) (by decide +kernel)
  simp only [Bool.and_eq_true, beq_iff_eq, Option.any_eq_true] at checked
  obtain ⟨⟨client, held, waiting⟩, other, heldOther, ready⟩ := checked
  have further := (life_goes_on (reachable_of_runsUnder runs) (.single step) 1).1 client held other heldOther
  obtain ⟨username, party⟩ := further.2 (by simp [waiting, Client.State.Active]) (by simp [ready, Client.State.Active])
  exact ⟨first, last, client, other, runs, held, heldOther, ready, username, party⟩

/-! The last that a connection is given. -/

/-- Whatever is handed to a connection after it has been closed. -/
def Hushed (session : Nat) (outputs : List Output) : Prop :=
  ∀ earlier later, outputs = earlier ++ .closeClient session :: later → later = []

/-- The connection of a session is open, unless the session has ended; it has been given nothing
before its arrival, and nothing after it was closed. -/
structure Heard (session : Nat) (world : World) : Prop where
  hushed : Hushed session (world.roster.heard session)
  opened : world.Alive session → Output.closeClient session ∉ world.roster.heard session
  silent : world.roster.lastSession < session → world.roster.heard session = []

private theorem hushed_append {outputs more : List Output} (opened : Output.closeClient session ∉ outputs)
    (hushed : Hushed session more) : Hushed session (outputs ++ more) := by
  intro earlier later split
  rcases List.append_eq_append_iff.mp split with ⟨between, rfl, rest⟩ | ⟨between, rfl, rest⟩
  · exact hushed between later rest
  · cases between with
    | nil => exact hushed [] later rest.symm
    | cons output between =>
      obtain ⟨rfl, -⟩ := List.cons.inj rest
      exact absurd (by simp) opened

/-- A deed closes the connection last, and only if it ends the session. -/
private theorem hushed_outputs (deed : Deed) (msgSeqNum : Nat) :
    Hushed session (deed.outputs session msgSeqNum) ∧
      (¬ deed.Ends → Output.closeClient session ∉ deed.outputs session msgSeqNum) := by
  refine ⟨fun earlier later split => ?_, fun lives => ?_⟩
  · cases deed with
    | dismiss message =>
      rcases earlier with _ | ⟨first, _ | ⟨second, earlier⟩⟩ <;> simp_all [Deed.outputs]
    | leave => rcases earlier with _ | ⟨first, earlier⟩ <;> simp_all [Deed.outputs]
    | say | welcome => rcases earlier with _ | ⟨first, earlier⟩ <;> simp_all [Deed.outputs]
    | _ => simp_all [Deed.outputs]
  · cases deed with
    | dismiss | leave | vanish => exact absurd trivial lives
    | _ => simp [Deed.outputs]

private theorem heard_step (step : Step env before input after) (reachable : Reachable env before)
    (heard : Heard session before) :
    Heard session after := by
  obtain ⟨plays, registered⟩ := step.round reachable
  cases held : before.session session with
  | none =>
    have absence := plays.absent registered held
    refine ⟨absence.heard ▸ heard.hushed, fun alive => ?_, fun later => ?_⟩
    · obtain ⟨client, found, -⟩ := alive
      have fresh := (arrives_of_absence absence found).1
      rw [absence.heard, heard.silent (by omega)]
      simp
    · rw [absence.heard]
      exact heard.silent (Nat.lt_of_le_of_lt plays.lastSession later)
  | some client =>
    obtain ⟨deed, last, scene, fate⟩ := step.fate reachable held
    obtain ⟨msgSeqNum, told⟩ := fate.heard
    have known : session ≤ before.roster.lastSession :=
      registered.known session (Option.ne_none_iff_exists'.mpr ⟨client, held⟩)
    have unknown : ¬ after.roster.lastSession < session := by
      have := plays.lastSession
      omega
    by_cases dead : client.state = .zombie
    · obtain rfl := scene.rest_of_zombie held dead
      have same : after.roster.heard session = before.roster.heard session := told.trans (List.append_nil _)
      refine ⟨same ▸ heard.hushed, fun alive => ?_, fun later => absurd later unknown⟩
      exact absurd alive (not_alive_of_fate fate (fate.state.trans dead))
    · have opened := heard.opened ⟨client, held, dead⟩
      obtain ⟨hushed, quiet⟩ := @hushed_outputs session deed msgSeqNum
      refine ⟨told ▸ hushed_append opened hushed, fun alive => ?_, fun later => absurd later unknown⟩
      have lives : ¬ deed.Ends := fun ends =>
        not_alive_of_fate fate (fate.state.trans (Deed.leads_of_ends ends _)) alive
      rw [told, List.mem_append, not_or]
      exact ⟨opened, quiet lives⟩

/-- Nothing is handed to a connection once it has been closed, neither a message nor a second close. -/
theorem nothing_after_close (runs : Runs env users realtime inputs world) {earlier later : List Output} {session : Nat}
    (closed : world.controller.log = earlier ++ .closeClient session :: later) :
    ∀ output ∈ later, output.client ≠ some session := by
  have both := runs.preserves (fun world => Reachable env world ∧ Heard session world)
    (fun step ⟨reachable, heard⟩ => ⟨reachable.step step, heard_step step reachable heard⟩)
    ⟨⟨users, realtime, [], .nil _⟩, by
      refine ⟨?_, ?_, fun _ => rfl⟩
      · intro earlier later split
        simp [Roster.heard, World.roster, Controller.roster, create, Controller.create] at split
      · simp [Roster.heard, World.roster, Controller.roster, create, Controller.create]⟩
  have own : Output.client (.closeClient session) = some session := rfl
  have split : world.roster.heard session = (earlier.filter fun output => output.client = some session) ++
      .closeClient session :: later.filter fun output => output.client = some session := by
    have log : world.roster.log = earlier ++ .closeClient session :: later := closed
    rw [Roster.heard, log, List.filter_append, List.filter_cons_of_pos (by simp [own])]
  have none := both.2.hushed _ _ split
  simpa [List.filter_eq_nil_iff] using none

/-- A client that asks for a resend is refused and its connection is closed; it disconnects. -/
theorem nothing_after_close_loggedOn : ∃ world earlier later,
    RunsUnder Regular Deployment.env Deployment.users 0 (Deployment.loggedOn ++ [Deployment.sends 1 .resendRequest,
      .disconnected 1]) world ∧ world.controller.log = earlier ++ .closeClient 1 :: later ∧ later ≠ [] ∧
      ∀ output ∈ later, output.client ≠ some 1 := by
  obtain ⟨world, runs, checked⟩ := exists_run_of_replay Regular Deployment.env Deployment.users 0
    (Deployment.loggedOn ++ [Deployment.sends 1 .resendRequest, .disconnected 1])
    (fun world => world.controller.log.drop 4 == .closeClient 1 :: world.controller.log.drop 5 &&
      world.controller.log.drop 5 != []) (by decide +kernel)
  simp only [Bool.and_eq_true, beq_iff_eq, bne_iff_ne] at checked
  have closed : world.controller.log = world.controller.log.take 4 ++ .closeClient 1 :: world.controller.log.drop 5 := by
    rw [← checked.1, List.take_append_drop]
  exact ⟨world, _, _, runs, closed, checked.2, nothing_after_close (runs_of_runsUnder runs) closed⟩

end World
end FixProxy
