import FixProxy.Proofs.RosterSteps

/-! What one event is to one session: everything beside its own turn leaves it as it is,
and its turn is told by its deed. -/

namespace FixProxy
open Codec

def Output.client : Output → Option Nat
  | .toClient session _ _ | .closeClient session => some session
  | _ => none

namespace Deed

def outputs (session msgSeqNum : Nat) : Deed → List Output
  | .say message => [.toClient session msgSeqNum message]
  | .welcome message => [.toClient session msgSeqNum (.logon message)]
  | .dismiss message => [.toClient session msgSeqNum message, .closeClient session]
  | .leave => [.closeClient session]
  | .rest | .enlist _ _ | .depart | .pass _ | .vanish => []

def leads (deed : Deed) (state : Client.State) : Client.State :=
  match deed with
  | .rest | .say _ | .pass _ => state
  | .enlist _ _ => .waitingCreateRoute
  | .welcome _ => .ready
  | .depart => .waitingRemoveRoute
  | .dismiss _ | .leave | .vanish => .zombie

def identify : Deed → Client.State × String × String → Client.State × String × String
  | .enlist username party, _ => (.waitingCreateRoute, username, party)
  | .welcome _, (_, who) => (.ready, who)
  | .depart, (_, who) => (.waitingRemoveRoute, who)
  | _, identity => identity

theorem leads_of_ends {deed : Deed} (ends : deed.Ends) (state : Client.State) : deed.leads state = .zombie := by
  cases deed <;> first | rfl | exact ends.elim

theorem leads_ne_waitingLogon {deed : Deed} {state : Client.State} (departed : state ≠ .waitingLogon) :
    deed.leads state ≠ .waitingLogon := by
  cases deed <;> first | exact departed | exact fun same => nomatch same

private theorem leads_ne_zombie {deed : Deed} (lives : ¬ deed.Ends) {state : Client.State} (alive : state ≠ .zombie) :
    deed.leads state ≠ .zombie := by
  cases deed <;> first | exact alive | exact absurd trivial lives | exact fun same => nomatch same

end Deed

namespace Roster
variable {before middle after : Roster} {session other : Nat} {client last : Client.Session} {deed : Deed}

/-- What the connection of a session has been given. -/
def heard (session : Nat) (roster : Roster) : List Output := roster.log.filter fun output => output.client = some session

/-- What happens is beside one session. -/
structure Aside (session : Nat) (before after : Roster) : Prop where
  record : after.session session = before.session session
  disconnects : after.disconnects.count session = before.disconnects.count session
  heard : after.heard session = before.heard session

theorem Aside.refl (session : Nat) (roster : Roster) : Aside session roster roster := ⟨rfl, rfl, rfl⟩

theorem Aside.trans (head : Aside session before middle) (rest : Aside session middle after) : Aside session before after where
  record := rest.record.trans head.record
  disconnects := rest.disconnects.trans head.disconnects
  heard := rest.heard.trans head.heard

theorem Calm.aside (calm : Calm other before after) (different : session ≠ other) : Aside session before after where
  record := calm.others session different
  disconnects := by rw [calm.disconnects]
  heard := by rw [Roster.heard, Roster.heard, calm.log]

/-- Messages that go upstream are nothing to any session. -/
theorem heard_append {roster : Roster} {outputs : List Output}
    (apart : ∀ output ∈ outputs, output.client ≠ some session) :
    (roster.log ++ outputs).filter (fun output => output.client = some session) = roster.heard session := by
  rw [List.filter_append, Roster.heard, List.append_right_eq_self, List.filter_eq_nil_iff]
  intro output member
  simpa using apart output member

theorem client_of_parting {output : Output} (parting : output.Parting) : output.client = none := by
  cases output <;> first | rfl | exact parting.elim

theorem client_of_own {output : Output} (own : output.Own) : output.client = none := by
  cases output <;> first | rfl | exact own.elim

theorem Told.aside (told : Told before after) (session : Nat) : Aside session before after := by
  obtain ⟨outputs, own, rfl⟩ := told
  exact ⟨rfl, rfl, heard_append fun output member => by simp [client_of_own (own output member)]⟩

private theorem bury_aside (client : Client.Session) {partings : List Output} (parting : ∀ output ∈ partings, output.Parting)
    (roster : Roster) (different : session ≠ other) : Aside session roster (roster.bury other client partings) where
  record := Function.update_of_ne different ..
  disconnects := by
    simp only [Roster.bury]
    split
    · rfl
    · simp [List.count_append, Ne.symm different]
  heard := heard_append fun output member => by simp [client_of_parting (parting output member)]

theorem Does.aside (does : Does other before deed after) (different : session ≠ other) : Aside session before after := by
  have elsewhere {outputs : List Output} (apart : ∀ output ∈ outputs, output.client ≠ some session) :
      (before.log ++ outputs).filter (fun output => output.client = some session) = before.heard session :=
    heard_append apart
  cases does with
  | rest => exact .refl ..
  | say held => exact ⟨Function.update_of_ne different .., rfl, elsewhere (by simp [Output.client, Ne.symm different])⟩
  | enlist held arriving free unnamed =>
    exact ⟨Function.update_of_ne different .., rfl, elsewhere (by simp [Output.client])⟩
  | @welcome client message held waiting =>
    refine ⟨?_, rfl, elsewhere (by simp [Output.client, Ne.symm different])⟩
    simp [Roster.say, different]
  | depart held ready => exact ⟨Function.update_of_ne different .., rfl, elsewhere (by simp [Output.client])⟩
  | pass held ready => exact ⟨rfl, rfl, elsewhere (by simp [Output.client])⟩
  | @dismiss client message partings held alive parting =>
    have shut : Aside session before ((before.say other client message).shut other) := by
      refine ⟨Function.update_of_ne different .., rfl, ?_⟩
      simp only [Roster.heard, Roster.say, Roster.shut, List.append_assoc]
      exact elsewhere (by simp [Output.client, Ne.symm different])
    exact shut.trans (bury_aside _ parting _ different)
  | @leave client partings held alive parting =>
    have shut : Aside session before (before.shut other) :=
      ⟨rfl, rfl, elsewhere (by simp [Output.client, Ne.symm different])⟩
    exact shut.trans (bury_aside _ parting _ different)
  | vanish held alive parting => exact bury_aside _ parting _ different

theorem Turn.aside {allowed : Client.Session → Deed → Prop} (turn : Turn allowed before other after)
    (different : session ≠ other) : Aside session before after := by
  unfold Turn at turn
  split at turn
  · exact turn ▸ .refl ..
  · obtain ⟨deed, -, first, last, head, does, rest⟩ := turn
    exact (head.aside different).trans ((does.aside different).trans (rest.aside different))

theorem turns_aside {allowed : Nat → Client.Session → Deed → Prop} {sessions : List Nat}
    (run : Run (fun roster session next => Turn (allowed session) roster session next) before sessions after)
    (absent : session ∉ sessions) : Aside session before after := by
  induction run with
  | nil => exact .refl ..
  | cons turn _ ih =>
    rw [List.mem_cons, not_or] at absent
    exact (turn.aside absent.1).trans (ih absent.2)

private theorem turns_turn {allowed : Nat → Client.Session → Deed → Prop} {sessions : List Nat}
    (run : Run (fun roster session next => Turn (allowed session) roster session next) before sessions after)
    (distinct : sessions.Nodup) (member : session ∈ sessions) :
    ∃ first last, Aside session before first ∧ Turn (allowed session) first session last ∧ Aside session last after := by
  obtain ⟨earlier, later, rfl⟩ := List.append_of_mem member
  obtain ⟨first, before, rest⟩ := run.split
  rw [List.nodup_append, List.nodup_cons] at distinct
  cases rest with
  | @cons _ last _ _ _ turn after =>
    refine ⟨first, last, turns_aside before fun early => ?_, turn, turns_aside after distinct.2.1.1⟩
    exact distinct.2.2 session early session (by simp) rfl

theorem Turn.lastSession {allowed : Client.Session → Deed → Prop} (turn : Turn allowed before session after) :
    after.lastSession = before.lastSession := by
  unfold Turn at turn
  split at turn
  · rw [turn]
  · obtain ⟨deed, -, first, last, head, does, rest⟩ := turn
    have done : last.lastSession = first.lastSession := by cases does <;> rfl
    rw [rest.lastSession, done, head.lastSession]

theorem turns_lastSession {allowed : Nat → Client.Session → Deed → Prop} {sessions : List Nat}
    (run : Run (fun roster session next => Turn (allowed session) roster session next) before sessions after) :
    after.lastSession = before.lastSession :=
  run.preserves (fun roster => roster.lastSession = before.lastSession) (fun turn same => turn.lastSession.trans same) rfl

/-- What becomes of a session by one deed of its own. -/
structure Fate (session : Nat) (client last : Client.Session) (deed : Deed) (before after : Roster) : Prop where
  kept : after.session session = some last ∨ last.state = .zombie ∧ after.session session = none
  state : last.state = deed.leads client.state
  identity : ¬ deed.Ends → last.identity = deed.identify client.identity
  heard : ∃ msgSeqNum, after.heard session = before.heard session ++ deed.outputs session msgSeqNum
  disconnects : after.disconnects.count session = before.disconnects.count session +
    if deed.Ends ∧ client.state ≠ .waitingLogon then 1 else 0

private theorem count_bury (session : Nat) (client : Client.Session) (partings : List Output) (roster : Roster) :
    (roster.bury session client partings).disconnects.count session =
      roster.disconnects.count session + if client.state ≠ .waitingLogon then 1 else 0 := by
  simp only [bury]
  split
  · next waiting => simp [waiting]
  · simp

private theorem heard_bury (client : Client.Session) {partings : List Output} (parting : ∀ output ∈ partings, output.Parting)
    (roster : Roster) : (roster.bury session client partings).heard session = roster.heard session :=
  heard_append fun output member => by simp [client_of_parting (parting output member)]

private theorem fate_bury {shut : Roster} {closing : Client.Session} (msgSeqNum : Nat) (ends : deed.Ends)
    {partings : List Output} (parting : ∀ output ∈ partings, output.Parting) (state : closing.state = client.state)
    (disconnects : shut.disconnects = before.disconnects)
    (heard : shut.heard session = before.heard session ++ deed.outputs session msgSeqNum) :
    Fate session client { closing with state := .zombie } deed before (shut.bury session closing partings) where
  kept := Or.inl (Function.update_self ..)
  state := (Deed.leads_of_ends ends _).symm
  identity lives := absurd ends lives
  heard := ⟨msgSeqNum, (heard_bury closing parting shut).trans heard⟩
  disconnects := by
    rw [count_bury, disconnects, state]
    simp [ends]

theorem Does.fate (does : Does session before deed after) (held : before.session session = some client) :
    ∃ last, Fate session client last deed before after := by
  have apart {outputs : List Output} (none : ∀ output ∈ outputs, output.client ≠ some session) :
      (before.log ++ outputs).filter (fun output => output.client = some session) = before.heard session :=
    heard_append none
  have told (outputs : List Output) (own : ∀ output ∈ outputs, output.client = some session) :
      (before.log ++ outputs).filter (fun output => output.client = some session) = before.heard session ++ outputs := by
    have kept : outputs.filter (fun output => output.client = some session) = outputs :=
      List.filter_eq_self.mpr (by simpa using own)
    rw [List.filter_append, kept, Roster.heard]
  cases does with
  | rest => exact ⟨client, Or.inl held, rfl, fun _ => rfl, ⟨0, by simp [Deed.outputs]⟩, by simp [Deed.Ends]⟩
  | @say speaker message found =>
    obtain rfl : speaker = client := Option.some.inj (found.symm.trans held)
    refine ⟨_, Or.inl (Function.update_self ..), rfl, fun _ => rfl, ⟨_, told _ ?_⟩, by simp [Deed.Ends, Roster.say]⟩
    simp [Output.client]
  | @enlist arrived username party userRequestId msgSeqNum found arriving free unnamed =>
    refine ⟨_, Or.inl (Function.update_self ..), rfl, fun _ => rfl, ⟨0, ?_⟩, by simp [Deed.Ends, tell]⟩
    rw [Deed.outputs, List.append_nil]
    exact apart (by simp [Output.client])
  | @welcome waited message found waiting =>
    obtain rfl : waited = client := Option.some.inj (found.symm.trans held)
    refine ⟨_, Or.inl (Function.update_self ..), rfl, fun _ => ?_, ⟨_, told _ ?_⟩, by simp [Deed.Ends, Roster.say]⟩
    · simp [Client.Session.identity, Deed.identify, waiting]
    · simp [Output.client]
  | @depart departing userRequestId msgSeqNum found ready =>
    obtain rfl : departing = client := Option.some.inj (found.symm.trans held)
    refine ⟨_, Or.inl (Function.update_self ..), rfl, fun _ => ?_, ⟨0, ?_⟩, by simp [Deed.Ends, tell]⟩
    · simp [Client.Session.identity, Deed.identify, ready]
    · rw [Deed.outputs, List.append_nil]
      exact apart (by simp [Output.client])
  | @pass passing sent msgSeqNum found ready =>
    refine ⟨client, Or.inl held, rfl, fun _ => rfl, ⟨0, ?_⟩, by simp [Deed.Ends, tell]⟩
    rw [Deed.outputs, List.append_nil]
    exact apart (by simp [Output.client])
  | @dismiss dismissed message partings found alive parting =>
    obtain rfl : dismissed = client := Option.some.inj (found.symm.trans held)
    refine ⟨_, fate_bury (dismissed.outboundMsgSeqNum + 1) (by trivial) parting rfl rfl ?_⟩
    simp only [Roster.heard, Roster.say, shut, List.append_assoc]
    exact told _ (by simp [Output.client])
  | @leave leaving partings found alive parting =>
    obtain rfl : leaving = client := Option.some.inj (found.symm.trans held)
    exact ⟨_, fate_bury 0 (by trivial) parting rfl rfl (told _ (by simp [Output.client]))⟩
  | @vanish leaving partings found alive parting =>
    obtain rfl : leaving = client := Option.some.inj (found.symm.trans held)
    exact ⟨_, fate_bury 0 (by trivial) parting rfl rfl (List.append_nil _).symm⟩

/-- Calm before a deed, and anything that is beside its session. -/
theorem Acts.fate (acts : Acts session deed before after) (held : before.session session = some client) :
    ∃ last, Fate session client last deed before after := by
  obtain ⟨first, middle, head, does, rest⟩ := acts
  have identity := head.identity
  rw [held, Option.map_some] at identity
  obtain ⟨seen, foundSeen, sameSeen⟩ := Option.map_eq_some_iff.mp identity
  obtain ⟨done, fate⟩ := does.fate foundSeen
  have stateSeen : seen.state = client.state := Client.Session.state_of_identity sameSeen
  have heard : ∃ msgSeqNum, after.heard session = before.heard session ++ deed.outputs session msgSeqNum := by
    obtain ⟨msgSeqNum, heard⟩ := fate.heard
    refine ⟨msgSeqNum, ?_⟩
    rw [Roster.heard, rest.log, ← Roster.heard, heard, Roster.heard, head.log, ← Roster.heard]
  have disconnects := fate.disconnects
  rw [stateSeen, head.disconnects, ← rest.disconnects] at disconnects
  have settled := rest.identity
  rcases fate.kept with kept | ⟨zombie, gone⟩
  · rw [kept, Option.map_some] at settled
    obtain ⟨last, foundLast, sameLast⟩ := Option.map_eq_some_iff.mp settled
    refine ⟨last, Or.inl foundLast, ?_, fun lives => ?_, heard, disconnects⟩
    · rw [Client.Session.state_of_identity sameLast, fate.state, stateSeen]
    · rw [sameLast, fate.identity lives, sameSeen]
  · rw [gone, Option.map_none, Option.map_eq_none_iff] at settled
    exact ⟨done, Or.inr ⟨zombie, settled⟩, stateSeen ▸ fate.state, fun lives => sameSeen ▸ fate.identity lives, heard,
      disconnects⟩

/-- What becomes of a session that is not held: nothing, but that it arrives. -/
structure Absence (session : Nat) (before after : Roster) : Prop where
  heard : after.heard session = before.heard session
  disconnects : after.disconnects.count session = before.disconnects.count session
  record : after.session session = none ∨ session = before.lastSession + 1 ∧
    ∃ client, after.session session = some client ∧ client.state = .waitingLogon

private theorem Fate.of_aside {first last' : Roster} (fate : Fate session client last deed first last')
    (head : Aside session before first) (rest : Aside session last' after) : Fate session client last deed before after where
  kept := by
    rw [rest.record]
    exact fate.kept
  state := fate.state
  identity := fate.identity
  heard := by
    rw [rest.heard, ← head.heard]
    exact fate.heard
  disconnects := by
    rw [rest.disconnects, ← head.disconnects]
    exact fate.disconnects

theorem Fate.sweep (fate : Fate session client last deed before after) (registered : after.Registered) :
    Fate session client last deed before after.sweep where
  kept := by
    simp only [Roster.sweep, Roster.forget]
    split
    · next doomed =>
      obtain ⟨dead, held, zombie⟩ := Option.map_eq_some_iff.mp ((registered.doomed session).mp doomed)
      refine Or.inr ⟨?_, rfl⟩
      rcases fate.kept with kept | ⟨zombie, -⟩
      · rw [kept] at held
        cases held
        exact zombie
      · exact zombie
    · exact fate.kept
  state := fate.state
  identity := fate.identity
  heard := fate.heard
  disconnects := fate.disconnects

private theorem arrive_aside (arriving : Client.Session) {roster : Roster} (known : session ≤ roster.lastSession) :
    Aside session roster (roster.arrive arriving) :=
  ⟨Function.update_of_ne (by omega) .., rfl, rfl⟩

end Roster

open Roster (Aside Fate Absence Turn)

namespace World
variable {env : Env} {before after : World} {input : Input} {session : Nat} {client : Client.Session} {roster : Roster}

/-- An event, as one session takes part in it. -/
theorem Plays.round (plays : before.Plays env input roster) (registered : before.roster.Registered) (session : Nat) :
    ∃ first last settled, Aside session before.roster first ∧ Turn (before.Allows env input session) first session last ∧
      Aside session last settled ∧ settled.Registered ∧ settled.lastSession = before.roster.lastSession ∧
      input.Settles env settled roster := by
  obtain ⟨first, sessions, settled, told, distinct, resting, run, settles⟩ := plays
  have kept := turns_registered run (told.registered registered)
  have ids : settled.lastSession = before.roster.lastSession := by
    obtain ⟨outputs, -, same⟩ := told
    rw [Roster.turns_lastSession run, same]
    rfl
  by_cases member : session ∈ sessions
  · obtain ⟨middle, last, head, turn, rest⟩ := Roster.turns_turn run distinct member
    exact ⟨middle, last, settled, (told.aside session).trans head, turn, rest, kept, ids, settles⟩
  · have aside := (told.aside session).trans (Roster.turns_aside run member)
    refine ⟨before.roster, before.roster, settled, .refl .., .rest fun client held => ?_, aside, kept, ids, settles⟩
    exact resting session client member held

theorem Plays.lastSession (plays : before.Plays env input roster) : before.roster.lastSession ≤ roster.lastSession := by
  obtain ⟨first, sessions, last, ⟨outputs, -, rfl⟩, -, -, run, settles⟩ := plays
  have same : last.lastSession = (before.roster.tellAll outputs).lastSession := Roster.turns_lastSession run
  have kept : before.roster.lastSession ≤ last.lastSession := Nat.le_of_eq same.symm
  cases input with
  | timer now =>
    rcases settles with settled | swept
    · exact settled ▸ kept
    · exact swept ▸ kept
  | accept now =>
    obtain rfl := settles
    exact Nat.le_succ_of_le kept
  | _ =>
    obtain rfl := settles
    exact kept

/-- Every event is at most one deed of a session that is held. -/
theorem Plays.fate (plays : before.Plays env input roster) (registered : before.roster.Registered)
    (held : before.session session = some client) :
    ∃ deed last, before.Allows env input session client deed ∧ Fate session client last deed before.roster roster := by
  obtain ⟨first, middle, settled, head, turn, rest, kept, ids, settles⟩ := plays.round registered session
  obtain ⟨deed, allowed, acts⟩ := turn.of_held (head.record.trans held)
  obtain ⟨last, fate⟩ := acts.fate (head.record.trans held)
  have settledFate := fate.of_aside head rest
  refine ⟨deed, last, allowed, ?_⟩
  cases input with
  | timer now =>
    rcases settles with same | swept
    · exact same ▸ settledFate
    · exact swept ▸ settledFate.sweep kept
  | accept now =>
    obtain rfl := settles
    have known : session ≤ before.roster.lastSession :=
      registered.known session (Option.ne_none_iff_exists'.mpr ⟨client, held⟩)
    exact settledFate.of_aside (.refl ..) (Roster.arrive_aside _ (ids ▸ known))
  | _ =>
    obtain rfl := settles
    exact settledFate

/-- What an event is to a session that is not held: nothing, or its arrival. -/
theorem Plays.absent (plays : before.Plays env input roster) (registered : before.roster.Registered)
    (absent : before.session session = none) :
    Absence session before.roster roster := by
  obtain ⟨first, middle, settled, head, turn, rest, kept, ids, settles⟩ := plays.round registered session
  have still : middle = first := by
    have gone := head.record.trans absent
    unfold Turn at turn
    rw [gone] at turn
    exact turn
  subst still
  have aside := head.trans rest
  have gone : settled.session session = none := aside.record.trans absent
  have unmoved : Absence session before.roster settled := ⟨aside.heard, aside.disconnects, Or.inl gone⟩
  cases input with
  | timer now =>
    rcases settles with same | swept
    · exact same ▸ unmoved
    · refine ⟨swept ▸ aside.heard, swept ▸ aside.disconnects, Or.inl ?_⟩
      rw [swept]
      simp [Roster.sweep, Roster.forget, gone]
  | accept now =>
    obtain rfl := settles
    refine ⟨aside.heard, aside.disconnects, ?_⟩
    by_cases fresh : session = settled.lastSession + 1
    · let arriving : Client.Session := { logonTimeout := now + env.settings.clientLogonTimeout }
      refine Or.inr ⟨by rw [fresh, ids], arriving, ?_, rfl⟩
      rw [fresh]
      exact Function.update_self ..
    · exact Or.inl ((Function.update_of_ne fresh ..).trans gone)
  | _ =>
    obtain rfl := settles
    exact unmoved

/-- A session's logon passes the credential check. -/
def Accepts (env : Env) (before : World) (input : Input) (session : Nat) (username : String) (strategyId : Nat) : Prop :=
  ∃ clock header value client shared, input = .read session clock header (.logon value) ∧ value.username = username ∧
    before.session session = some client ∧ client.state = .waitingLogon ∧ Client.validateLogon env value header = none ∧
    before.controller.shared.sessionLogonHelper env.library.toLibrary env.settings clock.realtime session value.username
      value.password value.rawData = .ok (strategyId, shared)

end World

/-- A message that is answered although the session is not ready. -/
def Codec.FromClient.Stray (state : Client.State) : FromClient → Prop
  | .testRequest _ => state = .waitingCreateRoute
  | .tradingSessionStatusRequest _ | .unexpected _ => state ≠ .ready ∧ state ≠ .zombie
  | _ => False

/-- What a session is told before its connection is closed. -/
def Codec.ToClient.Final : ToClient → Prop
  | .reject _ | .logout _ => True
  | _ => False

namespace World
variable {env : Env} {before after : World} {input : Input} {session : Nat} {client : Client.Session}

/-- The deeds of a session, each with what it takes. -/
inductive Scene (env : Env) (before : World) (input : Input) (session : Nat) (client : Client.Session) : Deed → Prop where
  | rest : Scene env before input session client .rest
  | ends {deed : Deed} (ends : deed.Ends) (alive : client.state ≠ .zombie)
      (final : ∀ message, deed = .dismiss message → message.Final) : Scene env before input session client deed
  | say (message : ToClient) (ready : client.state = .ready) : Scene env before input session client (.say message)
  | stray {clock : Clock} {header : Header} {message : FromClient} (answer : ToClient)
      (read : input = .read session clock header message) (stray : message.Stray client.state) :
      Scene env before input session client (.say answer)
  | enlist {username : String} {strategyId : Nat} (accepts : before.Accepts env input session username strategyId) :
      Scene env before input session client (.enlist username (toString strategyId))
  | welcome {msgSeqNum : Nat} {response : UserResponse} (waiting : client.state = .waitingCreateRoute)
      (answer : input = .serverRead msgSeqNum (.userResponse response)) (confirmed : response.userStatus = .loggedIn)
      (asked : before.controller.subscriptions.user.serverToClient.find response.userRequestId = some session) :
      Scene env before input session client (.welcome (Client.logonResponse env))
  | depart {clock : Clock} {header : Header} (ready : client.state = .ready)
      (read : input = .read session clock header .logout) : Scene env before input session client .depart
  | pass {clock : Clock} {header : Header} {request sent : Request} (ready : client.state = .ready)
      (read : input = .read session clock header (.request request)) (unparted : request.Unparted)
      (kind : sent.key.1 = request.key.1)
      (parties : sent.parties = (request.stamped (Client.ownParties client)).parties) :
      Scene env before input session client (.pass sent)

private theorem scene_of_refuses {deed : Deed} (refuses : deed.Refuses) (alive : client.state ≠ .zombie) :
    Scene env before input session client deed := by
  cases deed with
  | dismiss message =>
    refine .ends trivial alive fun other same => ?_
    cases same
    cases message with
    | reject value => trivial
    | _ => exact refuses.elim
  | _ => exact refuses.elim

private theorem scene_of_leave (alive : client.state ≠ .zombie) : Scene env before input session client .leave :=
  .ends trivial alive (fun _ same => nomatch same)

private theorem scene_of_vanish (alive : client.state ≠ .zombie) : Scene env before input session client .vanish :=
  .ends trivial alive (fun _ same => nomatch same)

private theorem scene_of_logout (text : String) (alive : client.state ≠ .zombie) :
    Scene env before input session client (.dismiss (.logout text)) := by
  refine .ends trivial alive fun message same => ?_
  cases same
  trivial

private theorem scene_of_tick (now : Nanoseconds) : Scene env before input session client (client.tick now) := by
  unfold Client.Session.tick
  cases state : client.state with
  | waitingLogon =>
    simp only
    split
    · exact scene_of_leave (by simp [state])
    · exact .rest
  | waitingCreateRoute =>
    simp only
    split
    · exact scene_of_logout _ (by simp [state])
    · exact .rest
  | ready =>
    simp only
    split
    · split
      · exact scene_of_logout _ (by simp [state])
      · exact .say _ state
    · exact .rest
  | waitingRemoveRoute =>
    simp only
    split
    · exact scene_of_logout _ (by simp [state])
    · exact .rest
  | zombie => exact .rest

private theorem scene_of_closing : Scene env before input session client client.closing := by
  unfold Client.Session.closing
  split
  · exact .rest
  · next alive => exact scene_of_leave alive

private theorem scene_of_ending : Scene env before input session client client.ending := by
  unfold Client.Session.ending
  split
  · exact .rest
  · next alive => exact scene_of_vanish alive

private theorem scene_of_answers {deed : Deed} {msgSeqNum : Nat} {response : UserResponse}
    (answer : input = .serverRead msgSeqNum (.userResponse response))
    (asked : before.controller.subscriptions.user.serverToClient.find response.userRequestId = some session)
    (answers : client.Answers env response.userStatus deed) : Scene env before input session client deed := by
  unfold Client.Session.Answers at answers
  cases state : client.state with
  | waitingLogon | ready | zombie =>
    simp only [state] at answers
    exact answers ▸ .rest
  | waitingCreateRoute =>
    simp only [state] at answers
    split at answers
    · next confirmed => exact answers ▸ .welcome state answer confirmed asked
    · exact answers ▸ scene_of_vanish (by simp [state])
  | waitingRemoveRoute =>
    simp only [state] at answers
    rcases answers with same | ⟨-, same⟩
    · exact same ▸ scene_of_vanish (by simp [state])
    · exact same ▸ scene_of_logout _ (by simp [state])

private theorem scene_of_heeds {deed : Deed} {clock : Clock} {header : Header} {message : FromClient}
    (read : input = .read session clock header message) (held : before.session session = some client)
    (heeds : client.Heeds env clock header before.controller.shared session message deed) :
    Scene env before input session client deed := by
  unfold Client.Session.Heeds at heeds
  cases state : client.state with
  | waitingLogon =>
    have alive : client.state ≠ .zombie := by simp [state]
    rw [state] at heeds
    cases message with
    | reject => exact heeds ▸ scene_of_leave alive
    | tradingSessionStatusRequest tradSesReqId =>
      obtain ⟨value, rfl⟩ := heeds
      exact .stray _ read ⟨by simp [state], alive⟩
    | unexpected msgType =>
      obtain ⟨value, rfl⟩ := heeds
      exact .stray _ read ⟨by simp [state], alive⟩
    | logon value =>
      rcases heeds with refuses | ⟨valid, strategyId, shared, accepted, rfl⟩
      · exact scene_of_refuses refuses alive
      · exact .enlist ⟨clock, header, value, client, shared, read, rfl, held, state, valid, accepted⟩
    | _ => exact scene_of_refuses heeds alive
  | waitingCreateRoute =>
    have alive : client.state ≠ .zombie := by simp [state]
    rw [state] at heeds
    cases message with
    | reject => exact heeds ▸ scene_of_leave alive
    | testRequest testReqId => exact heeds ▸ .stray _ read state
    | tradingSessionStatusRequest tradSesReqId =>
      obtain ⟨value, rfl⟩ := heeds
      exact .stray _ read ⟨by simp [state], alive⟩
    | unexpected msgType =>
      obtain ⟨value, rfl⟩ := heeds
      exact .stray _ read ⟨by simp [state], alive⟩
    | _ => exact scene_of_refuses heeds alive
  | ready =>
    have alive : client.state ≠ .zombie := by simp [state]
    rw [state] at heeds
    cases message with
    | reject => exact heeds ▸ scene_of_leave alive
    | testRequest testReqId => exact heeds ▸ .say _ state
    | heartbeat => exact heeds ▸ .rest
    | logout => exact heeds ▸ .depart state read
    | tradingSessionStatusRequest tradSesReqId =>
      obtain ⟨value, rfl⟩ := heeds
      exact .say _ state
    | unexpected msgType =>
      obtain ⟨value, rfl⟩ := heeds
      exact .say _ state
    | request request =>
      rcases heeds with ⟨response, rfl⟩ | ⟨unparted, sent, rfl, kind, parties⟩
      · exact .say _ state
      · exact .pass state read unparted kind parties
    | _ => exact scene_of_refuses heeds alive
  | waitingRemoveRoute =>
    have alive : client.state ≠ .zombie := by simp [state]
    rw [state] at heeds
    cases message with
    | reject => exact heeds ▸ scene_of_leave alive
    | testRequest testReqId => exact heeds ▸ .rest
    | heartbeat => exact heeds ▸ .rest
    | tradingSessionStatusRequest tradSesReqId =>
      obtain ⟨value, rfl⟩ := heeds
      exact .stray _ read ⟨by simp [state], alive⟩
    | unexpected msgType =>
      obtain ⟨value, rfl⟩ := heeds
      exact .stray _ read ⟨by simp [state], alive⟩
    | _ => exact heeds ▸ scene_of_vanish alive
  | zombie =>
    rw [state] at heeds
    exact heeds ▸ .rest

theorem scene_of_allows {deed : Deed} (held : before.session session = some client)
    (allowed : before.Allows env input session client deed) : Scene env before input session client deed := by
  cases input with
  | timer now => exact allowed ▸ scene_of_tick now
  | read reader clock header message =>
    simp only [Allows] at allowed
    split at allowed
    · next same =>
      subst same
      exact scene_of_heeds rfl held allowed
    · exact allowed ▸ .rest
  | readError reader =>
    simp only [Allows] at allowed
    split at allowed
    · exact allowed ▸ scene_of_closing
    · exact allowed ▸ .rest
  | disconnected other =>
    simp only [Allows] at allowed
    split at allowed
    · exact allowed ▸ scene_of_ending
    · exact allowed ▸ .rest
  | serverDisconnected => exact allowed ▸ scene_of_closing
  | serverRead msgSeqNum message =>
    cases message with
    | userResponse response =>
      simp only [Allows] at allowed
      split at allowed
      · next asked => exact scene_of_answers rfl asked allowed
      · exact allowed ▸ .rest
    | response value =>
      rcases allowed with rfl | ⟨ready, response, rfl⟩
      · exact .rest
      · exact .say _ ready
    | _ => exact allowed ▸ .rest
  | _ => exact allowed ▸ .rest

/-! Reachable states. -/

theorem Step.round (step : Step env before input after) (reachable : Reachable env before) :
    before.Plays env input after.roster ∧ before.roster.Registered :=
  have registered := registered_of_reachable reachable
  ⟨step.plays (consistent_of_reachable reachable) registered, registered⟩

theorem Step.fate (step : Step env before input after) (reachable : Reachable env before)
    (held : before.session session = some client) :
    ∃ deed last, Scene env before input session client deed ∧ Fate session client last deed before.roster after.roster := by
  obtain ⟨plays, registered⟩ := step.round reachable
  obtain ⟨deed, last, allowed, fate⟩ := plays.fate registered held
  exact ⟨deed, last, scene_of_allows held allowed, fate⟩

theorem Step.absent (step : Step env before input after) (reachable : Reachable env before)
    (absent : before.session session = none) : Absence session before.roster after.roster := by
  obtain ⟨plays, registered⟩ := step.round reachable
  exact plays.absent registered absent

theorem arrives_of_absence (absence : Absence session before.roster after.roster)
    (held : after.session session = some client) :
    session = before.roster.lastSession + 1 ∧ client.state = .waitingLogon := by
  have found : after.roster.session session = some client := held
  rcases absence.record with gone | ⟨fresh, other, held, arriving⟩
  · rw [gone] at found
    cases found
  · rw [held] at found
    cases found
    exact ⟨fresh, arriving⟩

theorem kept_of_fate {last : Client.Session} {deed : Deed}
    (fate : Fate session client last deed before.roster after.roster) (alive : last.state ≠ .zombie) :
    after.session session = some last := by
  rcases fate.kept with kept | ⟨zombie, -⟩
  · exact kept
  · exact absurd zombie alive

theorem not_alive_of_fate {last : Client.Session} {deed : Deed}
    (fate : Fate session client last deed before.roster after.roster) (zombie : last.state = .zombie) :
    ¬ after.Alive session := by
  rintro ⟨other, held, alive⟩
  have found : after.roster.session session = some other := held
  rcases fate.kept with kept | ⟨-, gone⟩
  · rw [kept] at found
    cases found
    exact alive zombie
  · rw [gone] at found
    cases found

theorem alive_of_fate {last : Client.Session} {deed : Deed}
    (fate : Fate session client last deed before.roster after.roster) (lives : ¬ deed.Ends)
    (alive : client.state ≠ .zombie) : after.session session = some last ∧ last.state ≠ .zombie := by
  have state : last.state ≠ .zombie := fate.state ▸ Deed.leads_ne_zombie lives alive
  exact ⟨kept_of_fate fate state, state⟩

end World
end FixProxy
