import FixProxy.Proofs.Asks
import FixProxy.Proofs.Usernames

/-! What goes upstream, and for whom: a session's requests only after it was let in, and
only under its own name. -/

namespace FixProxy
open Codec
open Roster (Turn Fate Absence)
open Client.State (active_iff)

inductive Deed.Sends (client : Client.Session) : Deed → ToServer → Prop where
  | enlist {username party userRequestId : String} :
      Sends client (.enlist username party) (.userRequest ⟨userRequestId, .logOnUser, party⟩)
  | depart {userRequestId : String} : Sends client .depart (.userRequest ⟨userRequestId, .logOffUser, client.partyId⟩)
  | pass {sent : Request} : Sends client (.pass sent) (.request sent)
  | part {deed : Deed} {message : ToServer} (ends : deed.Ends) (parting : message.Parting) : Sends client deed message

namespace Roster
variable {before middle after : Roster} {session : Nat} {client : Client.Session} {deed : Deed}

/-- Outputs are added, and those that go upstream are of some kind. -/
def Adds (sends : ToServer → Prop) (before after : Roster) : Prop :=
  ∃ outputs, after.log = before.log ++ outputs ∧ ∀ msgSeqNum message, .toServer msgSeqNum message ∈ outputs → sends message

theorem Adds.of_eq {sends : ToServer → Prop} (same : after.log = before.log) : Adds sends before after :=
  ⟨[], by simp [same], fun _ _ member => nomatch member⟩

theorem Adds.trans {sends : ToServer → Prop} (head : Adds sends before middle) (rest : Adds sends middle after) :
    Adds sends before after := by
  obtain ⟨outputs, log, kind⟩ := head
  obtain ⟨more, log', kind'⟩ := rest
  refine ⟨outputs ++ more, by rw [log', log, List.append_assoc], fun msgSeqNum message member => ?_⟩
  rcases List.mem_append.mp member with early | late
  · exact kind _ _ early
  · exact kind' _ _ late

theorem Adds.mono {sends other : ToServer → Prop} (weaker : ∀ message, sends message → other message)
    (adds : Adds sends before after) : Adds other before after := by
  obtain ⟨outputs, log, kind⟩ := adds
  exact ⟨outputs, log, fun msgSeqNum message member => weaker _ (kind _ _ member)⟩

private theorem adds_one {sends : ToServer → Prop} {msgSeqNum : Nat} {message : ToServer}
    (log : after.log = before.log ++ [.toServer msgSeqNum message]) (kind : sends message) : Adds sends before after := by
  refine ⟨_, log, fun other sent member => ?_⟩
  cases List.mem_singleton.mp member
  exact kind

private theorem adds_toClient {sends : ToServer → Prop} {outputs : List Output} (log : after.log = before.log ++ outputs)
    (toClient : ∀ output ∈ outputs, output.client ≠ none) : Adds sends before after :=
  ⟨_, log, fun _ _ member => absurd rfl (toClient _ member)⟩

private theorem adds_partings {partings : List Output} (ends : deed.Ends) (parting : ∀ output ∈ partings, output.Parting)
    (log : after.log = before.log ++ partings) : Adds (deed.Sends client) before after :=
  ⟨_, log, fun _ _ member => .part ends (parting _ member)⟩

theorem Told.adds (told : Told before after) : Adds ToServer.Own before after := by
  obtain ⟨outputs, own, rfl⟩ := told
  exact ⟨outputs, rfl, fun _ _ member => own _ member⟩

theorem Does.adds (does : Does session before deed after) (held : before.session session = some client) :
    Adds (deed.Sends client) before after := by
  cases does with
  | rest => exact .of_eq rfl
  | say found => exact adds_toClient rfl (by simp [Output.client])
  | enlist found arriving free unnamed => exact adds_one rfl .enlist
  | welcome found waiting => exact adds_toClient rfl (by simp [Output.client])
  | @depart departing _ _ found ready =>
    obtain rfl : departing = client := Option.some.inj (found.symm.trans held)
    exact adds_one rfl .depart
  | pass found ready => exact adds_one rfl .pass
  | @dismiss dismissed message partings found alive parting =>
    have told : Adds (Deed.Sends client (.dismiss message)) before (before.say session dismissed message) :=
      adds_toClient rfl (by simp [Output.client])
    have shut : Adds (Deed.Sends client (.dismiss message)) (before.say session dismissed message)
        ((before.say session dismissed message).shut session) := adds_toClient rfl (by simp [Output.client])
    exact (told.trans shut).trans (adds_partings trivial parting rfl)
  | leave found alive parting =>
    have told : Adds (Deed.Sends client .leave) before (before.shut session) := adds_toClient rfl (by simp [Output.client])
    exact told.trans (adds_partings trivial parting rfl)
  | vanish found alive parting => exact adds_partings trivial parting rfl

theorem Acts.adds (acts : Acts session deed before after) (held : before.session session = some client) :
    Adds (deed.Sends client) before after := by
  obtain ⟨first, last, head, does, rest⟩ := acts
  have identity := head.identity
  rw [held, Option.map_some] at identity
  obtain ⟨seen, found, same⟩ := Option.map_eq_some_iff.mp identity
  refine ((Adds.of_eq head.log).trans ((does.adds found).mono fun message sends => ?_)).trans (.of_eq rest.log)
  cases sends with
  | enlist => exact .enlist
  | depart =>
    have party : seen.partyId = client.partyId := by
      cases does with
      | depart departing ready =>
        cases found.symm.trans departing
        have state := Client.Session.state_of_identity same
        exact (Client.Session.party_of_identity same (by simp [← state, ready])).2
    exact party ▸ .depart
  | pass => exact .pass
  | part ends parting => exact .part ends parting

def Gone (session : Nat) (roster : Roster) : Prop :=
  ∀ client, roster.session session = some client → client.state = .zombie

private theorem gone_of_ends (acts : Acts session deed before after) (held : before.session session = some client)
    (ends : deed.Ends) : after.Gone session := by
  intro other heldAfter
  obtain ⟨last, fate⟩ := acts.fate held
  rcases fate.kept with kept | ⟨-, gone⟩
  · obtain rfl := Option.some.inj (kept.symm.trans heldAfter)
    exact fate.state.trans (Deed.leads_of_ends ends _)
  · rw [gone] at heldAfter
    cases heldAfter

/-- What is sent upstream in a turn of some session, and that the session is gone if its
deed ends it. -/
def Utters (allowed : Nat → Client.Session → Deed → Prop) (before after : Roster) (session : Nat) (message : ToServer) :
    Prop :=
  ∃ client deed, before.session session = some client ∧ allowed session client deed ∧ deed.Sends client message ∧
    (deed.Ends → after.Gone session)

theorem Turn.adds {allowed : Nat → Client.Session → Deed → Prop} (turn : Turn (allowed session) before session after) :
    Adds (Utters allowed before after session) before after := by
  cases held : before.session session with
  | none =>
    unfold Turn at turn
    rw [held] at turn
    exact .of_eq (congrArg Roster.log turn)
  | some client =>
    obtain ⟨deed, permitted, acts⟩ := turn.of_held held
    exact (acts.adds held).mono fun message sends => ⟨client, deed, held, permitted, sends, gone_of_ends acts held⟩

private theorem turns_adds {allowed : Nat → Client.Session → Deed → Prop} {sessions : List Nat}
    (run : Run (fun roster session next => Turn (allowed session) roster session next) before sessions after)
    (distinct : sessions.Nodup) :
    Adds (fun message => ∃ session ∈ sessions, Utters allowed before after session message) before after := by
  induction run with
  | nil => exact .of_eq rfl
  | @cons first middle last session rest turn run ih =>
    rw [List.nodup_cons] at distinct
    have aside := turns_aside run distinct.1
    refine Adds.trans (turn.adds.mono fun message sends => ?_) ((ih distinct.2).mono fun message sends => ?_)
    · obtain ⟨client, deed, held, permitted, sends, ended⟩ := sends
      refine ⟨session, by simp, client, deed, held, permitted, sends, fun ends other heldAfter => ?_⟩
      exact ended ends other (aside.record.symm.trans heldAfter)
    · obtain ⟨other, member, client, deed, held, permitted, sends, ended⟩ := sends
      have different : other ≠ session := fun same => distinct.1 (same ▸ member)
      exact ⟨other, by simp [member], client, deed, (turn.aside different).record.symm.trans held, permitted, sends, ended⟩

end Roster

namespace World
variable {env : Env} {before after world : World} {input : Input} {session : Nat} {client : Client.Session}
  {users : Map String (String × Nat)} {realtime : Nat} {inputs : List Input}

theorem gone_of_settles {last : Roster} (settles : input.Settles env last after.roster) :
    after.roster.log = last.log ∧
      ∀ session, session ≤ last.lastSession → last.Gone session → after.roster.Gone session := by
  cases input with
  | timer now =>
    rcases settles with same | swept
    · exact same ▸ ⟨rfl, fun _ _ => id⟩
    · rw [swept]
      refine ⟨rfl, fun session _ gone client held => ?_⟩
      simp only [Roster.sweep, Roster.forget] at held
      split at held
      · cases held
      · exact gone client held
  | accept now =>
    rw [settles]
    refine ⟨rfl, fun session known gone client held => gone client ?_⟩
    rw [← held]
    exact (Function.update_of_ne (by omega) ..).symm
  | _ => exact settles ▸ ⟨rfl, fun _ _ => id⟩

/-- What an event sends upstream: messages of the connection itself, and what the deeds of
the sessions send. -/
theorem Step.adds (step : Step env before input after) (reachable : Reachable env before) :
    Roster.Adds (fun message => message.Own ∨ ∃ session client deed, before.session session = some client ∧
      Scene env before input session client deed ∧ deed.Sends client message ∧ (deed.Ends → ¬ after.Alive session))
      before.roster after.roster := by
  obtain ⟨⟨first, sessions, last, told, distinct, -, run, settles⟩, registered⟩ := step.round reachable
  obtain ⟨log, gone⟩ := gone_of_settles settles
  have ids := Roster.turns_lastSession run
  refine ((told.adds.mono fun _ => Or.inl).trans ((Roster.turns_adds run distinct).mono fun message sends => ?_)).trans
    (.of_eq log)
  obtain ⟨session, -, client, deed, held, allowed, sends, ended⟩ := sends
  obtain ⟨heldBefore, idsBefore⟩ : before.session session = some client ∧ first.lastSession = before.roster.lastSession := by
    obtain ⟨outputs, -, rfl⟩ := told
    exact ⟨held, rfl⟩
  have known : session ≤ before.roster.lastSession :=
    registered.known session (Option.ne_none_iff_exists'.mpr ⟨client, heldBefore⟩)
  refine Or.inr ⟨session, client, deed, heldBefore, scene_of_allows heldBefore allowed, sends, fun ends => ?_⟩
  rintro ⟨other, heldAfter, alive⟩
  exact alive (gone session (by rw [ids, idsBefore]; exact known) (ended ends) other heldAfter)

/-- The credentials of a session are accepted, and the log-on of the client id that they are
for goes upstream. -/
def Applies (env : Env) (session : Nat) (id party : String) (before : World) (input : Input) (after : World) : Prop :=
  ∃ username strategyId msgSeqNum, before.Accepts env input session username strategyId ∧ party = toString strategyId ∧
    after.controller.log = before.controller.log ++ [.toServer msgSeqNum (.userRequest ⟨id, .logOnUser, party⟩)]

theorem Step.reads {clock : Clock} {header : Header} {message : FromClient}
    (step : Step env before (.read session clock header message) after) (reachable : Reachable env before) :
    Turn (fun client deed => client.Heeds env clock header before.controller.shared session message deed)
      before.roster session after.roster := by
  have unnamed : Client.Unnamed session before.controller := unnamed_of_registered (registered_of_reachable reachable)
  have turn := Client.read_turn env message header clock (consistent_of_reachable reachable) unnamed
  have performed := step.performed
  rw [FixProxy.step] at performed
  rw [performed] at turn
  exact turn

private theorem Step.applies {username : String} {strategyId : Nat} (step : Step env before input after)
    (reachable : Reachable env before) (accepts : before.Accepts env input session username strategyId)
    (alive : after.Alive session) : ∃ id, Applies env session id (toString strategyId) before input after := by
  obtain ⟨last, heldAfter, creating, -, -⟩ := step.admits reachable accepts alive
  have accepted := accepts
  obtain ⟨clock, header, value, client, shared, rfl, rfl, held, arriving, valid, helped⟩ := accepts
  obtain ⟨deed, heeds, acts⟩ := (step.reads reachable).of_held held
  unfold Client.Session.Heeds at heeds
  rw [arriving] at heeds
  rcases heeds with refuses | ⟨-, strategyId', shared', accepted', rfl⟩
  · have ends : deed.Ends := by cases deed <;> trivial
    obtain ⟨dead, fate⟩ := acts.fate held
    exact absurd alive (not_alive_of_fate fate (fate.state.trans (Deed.leads_of_ends ends _)))
  · rw [helped] at accepted'
    cases accepted'
    obtain ⟨first, middle, head, does, rest⟩ := acts
    cases does with
    | @enlist _ _ _ userRequestId msgSeqNum =>
      refine ⟨userRequestId, value.username, strategyId, msgSeqNum, accepted, rfl, ?_⟩
      have log : after.roster.log = before.roster.log ++
          [.toServer msgSeqNum (.userRequest ⟨userRequestId, .logOnUser, toString strategyId⟩)] := by
        rw [rest.log, ← head.log]
        rfl
      exact log

theorem asked_append {outputs : List Output} (log : after.controller.log = before.controller.log ++ outputs) :
    after.view.asked = before.view.asked ++ outputs.filterMap Output.userRequest? := by
  have split : (before.controller.log ++ outputs).filterMap Output.userRequest? =
      before.controller.log.filterMap Output.userRequest? ++ outputs.filterMap Output.userRequest? :=
    List.filterMap_append ..
  rw [← log] at split
  exact split

theorem Applies.pending {id party : String} (applies : Applies env session id party before input after)
    (step : Step env before input after) (reachable : Reachable env before) :
    ⟨id, .logOnUser, party⟩ ∈ after.view.asked ∧ id ∉ after.answered ∧ after.view.pending id = some session := by
  have consistent := consistent_of_reachable reachable
  obtain ⟨username, strategyId, msgSeqNum, accepts, rfl, log⟩ := applies
  have extended : after.view.asked = before.view.asked ++ [⟨id, .logOnUser, toString strategyId⟩] := asked_append log
  have asked : ⟨id, .logOnUser, toString strategyId⟩ ∈ after.view.asked := by simp [extended]
  obtain ⟨clock, header, value, client, shared, rfl, -⟩ := accepts
  rcases (step.asks consistent).asked _ asked with old | ⟨fresh, asker, rfl, pending⟩
  · have nodup := nodup_of_reachable (reachable.step step)
    rw [extended, List.map_append, List.nodup_append] at nodup
    exact absurd rfl (nodup.2.2 id (List.mem_map.mpr ⟨_, old, rfl⟩) id (by simp))
  · refine ⟨asked, fun answered => fresh ?_, pending⟩
    rw [step.answered] at answered
    obtain ⟨request, known, same⟩ := answered_of_reachable reachable id (by simpa [Input.answer] using answered)
    have issued := consistent.accounted.issued request known
    rw [same] at issued
    exact issued

def Ready (world : World) (session : Nat) : Prop := ∃ client, world.session session = some client ∧ client.state = .ready

/-- The session was let in under a party: its credentials were accepted and the log-on was
sent, upstream answered that very request with `LOGGED_IN`, and the session has been ready
ever since. -/
def Granted (env : Env) (users : Map String (String × Nat)) (realtime : Nat) (session : Nat) (party : String)
    (inputs : List Input) (world : World) : Prop :=
  ∃ earlier msgSeqNum response later asked confirmed,
    inputs = earlier ++ .serverRead msgSeqNum (.userResponse response) :: later ∧ response.userStatus = .loggedIn ∧
    Runs env users realtime earlier asked ∧
    Run.Took (Step env) (Applies env session response.userRequestId party) (create users realtime) earlier asked ∧
    Step env asked (.serverRead msgSeqNum (.userResponse response)) confirmed ∧ confirmed.Ready session ∧
    Run (fun before input after => Step env before input after ∧ after.Ready session) confirmed later world

theorem Granted.snoc {party : String} (granted : Granted env users realtime session party inputs before)
    (step : Step env before input after) (ready : after.Ready session) :
    Granted env users realtime session party (inputs ++ [input]) after := by
  obtain ⟨earlier, msgSeqNum, response, later, asked, confirmed, rfl, loggedIn, run, applied, answer, was, since⟩ := granted
  exact ⟨earlier, msgSeqNum, response, later ++ [input], asked, confirmed, by simp, loggedIn, run, applied, answer, was,
    since.snoc ⟨step, ready⟩⟩

/-- How a session comes to be ready. -/
structure Gated (env : Env) (users : Map String (String × Nat)) (realtime : Nat) (session : Nat) (inputs : List Input)
    (world : World) : Prop where
  waiting : ∀ client, world.session session = some client → client.state = .waitingCreateRoute → ∃ id,
    Run.Took (Step env) (Applies env session id client.partyId) (create users realtime) inputs world ∧
      ⟨id, .logOnUser, client.partyId⟩ ∈ world.view.asked ∧ id ∉ world.answered ∧ world.view.pending id = some session
  ready : ∀ client, world.session session = some client → client.state = .ready →
    Granted env users realtime session client.partyId inputs world

private theorem gated_held (run : Runs env users realtime inputs before) (step : Step env before input after)
    (gated : Gated env users realtime session inputs before) (held : before.session session = some client) {deed : Deed}
    {last : Client.Session} (allowed : before.Allows env input session client deed)
    (fate : Fate session client last deed before.roster after.roster) :
    Gated env users realtime session (inputs ++ [input]) after := by
  have reachable : Reachable env before := ⟨users, realtime, inputs, run⟩
  have consistent := consistent_of_reachable reachable
  have scene := scene_of_allows held allowed
  have found {other : Client.Session} (held : after.session session = some other) (alive : other.state ≠ .zombie) :
      other = last := by
    have lives : last.state ≠ .zombie := fun zombie => not_alive_of_fate fate zombie ⟨other, held, alive⟩
    rw [kept_of_fate fate lives] at held
    exact (Option.some.inj held).symm
  have party (active : client.state.Active) (alive : last.state ≠ .zombie) : last.partyId = client.partyId :=
    (who_of_fate scene fate held active alive).2.2
  constructor
  · intro other heldAfter creating
    obtain rfl := found heldAfter (by simp [creating])
    have alive : after.Alive session := ⟨other, heldAfter, by simp [creating]⟩
    by_cases was : client.state = .waitingCreateRoute
    · obtain ⟨id, applied, asked, unanswered, pending⟩ := gated.waiting client held was
      have same : other.partyId = client.partyId := party (by simp [was, Client.State.Active]) (by simp [creating])
      have others : ∀ response ∈ input.answer, response.userRequestId ≠ id := by
        rintro response given rfl
        cases input with
        | serverRead msgSeqNum message =>
          cases message with
          | userResponse answer =>
            cases given
            have asker : before.controller.subscriptions.user.serverToClient.find response.userRequestId = some session :=
              pending
            simp only [Allows, asker, if_true] at allowed
            have state := fate.state
            unfold Client.Session.Answers at allowed
            simp only [was] at allowed
            split at allowed <;> simp [allowed, Deed.leads, creating] at state
          | _ => cases given
        | _ => cases given
      refine ⟨id, ?_, ?_, ?_, ?_⟩
      · rw [same]
        exact (Run.took_snoc (fun _ _ _ _ step step' => step.unique step') run step).mpr (Or.inl applied)
      · obtain ⟨outputs, log, -⟩ := step.adds reachable
        rw [same, asked_append log]
        exact List.mem_append_left _ asked
      · rw [step.answered]
        intro member
        rcases List.mem_append.mp member with old | new
        · exact unanswered old
        · obtain ⟨response, given, rfl⟩ : ∃ response ∈ input.answer, response.userRequestId = id := by
            simpa using new
          exact others response given rfl
      · rw [step.pending consistent (consistent.accounted.issued _ asked) others, pending]
    · have state := fate.state
      rw [creating] at state
      cases scene with
      | rest | say | stray | pass => exact absurd state.symm was
      | ends ends => simp [Deed.leads_of_ends ends] at state
      | welcome | depart => simp [Deed.leads] at state
      | enlist accepts =>
        obtain ⟨settled, heldSettled, -, -, same⟩ := step.admits reachable accepts alive
        rw [heldAfter] at heldSettled
        cases heldSettled
        obtain ⟨id, applies⟩ := step.applies reachable accepts alive
        obtain ⟨asked, unanswered, pending⟩ := applies.pending step reachable
        rw [← same] at applies asked
        refine ⟨id, ?_, asked, unanswered, pending⟩
        exact (Run.took_snoc (fun _ _ _ _ step step' => step.unique step') run step).mpr (Or.inr applies)
  · intro other heldAfter ready
    obtain rfl := found heldAfter (by simp [ready])
    have still (was : client.state = .ready) : Granted env users realtime session other.partyId (inputs ++ [input]) after := by
      rw [party (by simp [was, Client.State.Active]) (by simp [ready])]
      exact (gated.ready client held was).snoc step ⟨other, heldAfter, ready⟩
    have state := fate.state
    rw [ready] at state
    cases scene with
    | rest | say | stray | pass => exact still state.symm
    | ends ends => simp [Deed.leads_of_ends ends] at state
    | enlist | depart => simp [Deed.leads] at state
    | @welcome msgSeqNum response waiting answer confirmed asked =>
      subst answer
      obtain ⟨id, applied, logOn, unanswered, pending⟩ := gated.waiting client held waiting
      obtain ⟨-, request, open_, same, -⟩ := step.permitted
      obtain ⟨known, fresh⟩ := mem_unanswered.mp open_
      have asker : before.view.pending request.userRequestId = some session := same ▸ asked
      have this_ : response.userRequestId = id := same.symm.trans
        (Router.awaited_unique consistent.accounted.awaits (view_session held) (by simp [waiting]) known fresh asker logOn
          unanswered pending)
      rw [party (by simp [waiting, Client.State.Active]) (by simp [ready])]
      exact ⟨inputs, msgSeqNum, response, [], before, after, rfl, confirmed, run, this_ ▸ applied, step,
        ⟨other, heldAfter, ready⟩, .nil _⟩

private theorem gated_of_runs (run : Runs env users realtime inputs world) (session : Nat) :
    Gated env users realtime session inputs world := by
  refine run.history (fun inputs world => Gated env users realtime session inputs world) ?_ ?_
  · exact ⟨fun _ held => (nomatch held), fun _ held => (nomatch held)⟩
  · intro inputs input before after run step gated
    have reachable : Reachable env before := ⟨users, realtime, inputs, run⟩
    cases held : before.session session with
    | some client =>
      obtain ⟨plays, registered⟩ := step.round reachable
      obtain ⟨deed, last, allowed, fate⟩ := plays.fate registered held
      exact gated_held run step gated held allowed fate
    | none =>
      have arrives {client : Client.Session} (heldAfter : after.session session = some client) :
          client.state = .waitingLogon := (arrives_of_absence (step.absent reachable held) heldAfter).2
      exact ⟨fun client held creating => absurd (arrives held) (by simp [creating]),
        fun client held ready => absurd (arrives held) (by simp [ready])⟩

private theorem Granted.strategy {party : String} (granted : Granted env users realtime session party inputs world) :
    ∃ strategyId : Nat, party = toString strategyId := by
  obtain ⟨_, _, _, _, _, _, -, -, -, ⟨_, _, _, _, _, -, -, -, ⟨_, strategyId, _, -, same, -⟩, -⟩, -⟩ := granted
  exact ⟨strategyId, same⟩

private theorem ready_of_survives {clock : Clock} {header : Header} {request : Request}
    (step : Step env before (.read session clock header (.request request)) after) (reachable : Reachable env before)
    (alive : after.Alive session) : before.Ready session := by
  have turn := step.reads reachable
  cases held : before.session session with
  | none =>
    unfold Turn at turn
    have absent : before.roster.session session = none := held
    rw [absent] at turn
    obtain ⟨client, heldAfter, -⟩ := alive
    have found : after.roster.session session = some client := heldAfter
    rw [turn, absent] at found
    cases found
  | some client =>
    obtain ⟨deed, heeds, acts⟩ := turn.of_held held
    obtain ⟨last, fate⟩ := acts.fate held
    have ended (ends : deed.Ends) : before.Ready session :=
      absurd alive (not_alive_of_fate fate (fate.state.trans (Deed.leads_of_ends ends _)))
    have refused (refuses : deed.Refuses) : before.Ready session := ended (by cases deed <;> trivial)
    unfold Client.Session.Heeds at heeds
    cases state : client.state with
    | ready => exact ⟨client, held, state⟩
    | waitingLogon | waitingCreateRoute =>
      rw [state] at heeds
      exact refused heeds
    | waitingRemoveRoute =>
      rw [state] at heeds
      exact ended (heeds ▸ trivial)
    | zombie =>
      rw [state] at heeds
      subst heeds
      exact absurd alive (not_alive_of_fate fate (fate.state.trans state))

/-- Every request that a session reads and survives, and every request that goes upstream
but the unsubscribe of a session that ends, is one of a session that was let in; what
goes upstream names the party that the session was let in under, and no other. -/
theorem requests_gated (run : Runs env users realtime inputs before) (step : Step env before input after) :
    (∀ session clock header request, input = .read session clock header (.request request) → after.Alive session →
      before.Ready session ∧ ∃ strategyId : Nat, Granted env users realtime session (toString strategyId) inputs before) ∧
    ∃ outputs, after.controller.log = before.controller.log ++ outputs ∧
      ∀ msgSeqNum sent, .toServer msgSeqNum (.request sent) ∈ outputs →
        (∃ session clock header request, ∃ strategyId : Nat, input = .read session clock header (.request request) ∧
          before.Ready session ∧ Granted env users realtime session (toString strategyId) inputs before ∧
          sent.key.1 = request.key.1 ∧ request.Unparted ∧ ∀ parties, sent.parties = some parties →
            parties = [{ partyId := toString strategyId, partyIdSource := .proprietaryCustomCode, partyRole := .clientId }]) ∨
        ∃ session value, sent = .marketDataRequest value ∧ value.subscriptionRequestType = .unsubscribe ∧
          before.Alive session ∧ ¬ after.Alive session := by
  have reachable : Reachable env before := ⟨users, realtime, inputs, run⟩
  have granted {session : Nat} {client : Client.Session} (held : before.session session = some client)
      (ready : client.state = .ready) : ∃ strategyId : Nat, client.partyId = toString strategyId ∧
        Granted env users realtime session (toString strategyId) inputs before := by
    have let_in := (gated_of_runs run session).ready client held ready
    obtain ⟨strategyId, same⟩ := let_in.strategy
    exact ⟨strategyId, same, same ▸ let_in⟩
  constructor
  · rintro session clock header request rfl alive
    obtain ⟨client, held, ready⟩ := ready_of_survives step reachable alive
    obtain ⟨strategyId, -, let_in⟩ := granted held ready
    exact ⟨⟨client, held, ready⟩, strategyId, let_in⟩
  · obtain ⟨outputs, log, sends⟩ := step.adds reachable
    refine ⟨outputs, log, fun msgSeqNum sent member => ?_⟩
    rcases sends _ _ member with own | ⟨session, client, deed, held, scene, sends, ended⟩
    · exact own.elim
    · cases sends with
      | pass =>
        left
        cases scene with
        | @pass clock header request _ ready read unparted kind parties =>
          obtain ⟨strategyId, same, let_in⟩ := granted held ready
          refine ⟨session, clock, header, request, strategyId, read, ⟨client, held, ready⟩, let_in, kind, unparted, ?_⟩
          intro named names
          rw [Client.stamped_parties (parties.symm.trans names), Client.ownParties, same]
        | ends ends => exact ends.elim
      | part ends parting =>
        right
        cases sent with
        | marketDataRequest value =>
          have alive : client.state ≠ .zombie := by
            cases scene with
            | ends _ alive => exact alive
            | _ => exact ends.elim
          exact ⟨session, value, rfl, parting, ⟨client, held, alive⟩, ended ends⟩
        | _ => exact parting.elim

theorem requests_gated_order : ∃ world after,
    Runs Deployment.env Deployment.users 0 Deployment.loggedOn world ∧
      Step Deployment.env world (Deployment.asks 1 (Deployment.order "AAAA")) after ∧ world.Ready 1 ∧
      (∃ strategyId : Nat, Granted Deployment.env Deployment.users 0 1 (toString strategyId) Deployment.loggedOn world) ∧
      .toServer 3 (.request ((Deployment.order "proxy-1:AAAA").stamped
        (Client.ownParties { logonTimeout := 0, partyId := "1" }))) ∈ after.controller.log := by
  obtain ⟨world, after, runs, -, step, checked⟩ := exists_step_of_replay Regular Deployment.env Deployment.users 0
    Deployment.loggedOn (Deployment.asks 1 (Deployment.order "AAAA"))
    (fun _ after => ((after.session 1).any fun client => client.state == .ready) &&
      after.controller.log.contains (.toServer 3 (.request ((Deployment.order "proxy-1:AAAA").stamped
        (Client.ownParties { logonTimeout := 0, partyId := "1" }))))) (by decide +kernel)
  simp only [Bool.and_eq_true, beq_iff_eq, Option.any_eq_true, List.contains_iff_mem] at checked
  obtain ⟨⟨client, held, ready⟩, sent⟩ := checked
  have run := runs_of_runsUnder runs
  obtain ⟨was, let_in⟩ := (requests_gated run step).1 1 _ _ _ rfl ⟨client, held, by simp [ready]⟩
  exact ⟨world, after, run, step, was, let_in, sent⟩

end World
end FixProxy
