import FixProxy.View

/-! The sessions as the client manager and the credential table know them, with
everything that is handed to their connections. A handler of the program is one
deed of one session here, and changes nothing else that another session can see. -/

namespace FixProxy
open Codec

namespace Codec

/-- What ends the subscriptions and the route of a session that goes. -/
def ToServer.Parting : ToServer → Prop
  | .request (.marketDataRequest value) => value.subscriptionRequestType = .unsubscribe
  | .userRequest value => value.userRequestType = .logOffUser
  | _ => False

/-- What belongs to the upstream connection itself. -/
def ToServer.Own : ToServer → Prop
  | .logon _ | .logout _ | .heartbeat _ | .testRequest _ => True
  | .userRequest _ | .request _ => False

end Codec

def Output.Parting : Output → Prop
  | .toServer _ message => message.Parting
  | _ => False

def Output.Own : Output → Prop
  | .toServer _ message => message.Own
  | .closeServer => True
  | _ => False

/-- How far a session has come and, once it is past its logon, who it is. -/
def Client.Session.identity (client : Client.Session) : Client.State × String × String :=
  match client.state with
  | .waitingLogon => (.waitingLogon, "", "")
  | state => (state, client.username, client.partyId)

theorem Client.Session.state_of_identity {client other : Client.Session} (same : other.identity = client.identity) :
    other.state = client.state := by
  unfold Client.Session.identity at same
  cases first : client.state <;> cases second : other.state <;> simp_all

theorem Client.Session.party_of_identity {client other : Client.Session} (same : other.identity = client.identity)
    (departed : client.state ≠ .waitingLogon) : other.username = client.username ∧ other.partyId = client.partyId := by
  have state := state_of_identity same
  unfold Client.Session.identity at same
  cases first : client.state <;> simp_all

structure Roster where
  session : Nat → Option Client.Session
  /-- who is logged on under a username -/
  holder : String → Option Nat
  username : Nat → Option String
  doomed : List Nat
  disconnects : List Nat
  lastSession : Nat
  log : List Output

/-- The roster behind a controller. -/
def Controller.roster (controller : Controller) : Roster where
  session := controller.sessions.find
  holder := controller.shared.usernameToSession.find
  username := controller.shared.sessionToUsername.find
  doomed := controller.shared.sessionsToRemove
  disconnects := controller.disconnects
  lastSession := controller.shared.nextSessionId
  log := controller.log

def World.roster (world : World) : Roster := world.controller.roster

/-- What a session does about an event. -/
inductive Deed where
  | rest
  | say (message : ToClient)
  /-- the credentials are accepted and the log-on goes upstream -/
  | enlist (username party : String)
  /-- the route is there -/
  | welcome (message : Logon)
  /-- the log-off goes upstream -/
  | depart
  /-- a request goes upstream -/
  | pass (sent : Request)
  /-- the last message, and the connection is closed -/
  | dismiss (message : ToClient)
  | leave
  /-- the connection is gone, or is left to itself -/
  | vanish
  deriving DecidableEq

/-- The deeds that end a session. -/
def Deed.Ends : Deed → Prop
  | .dismiss _ | .leave | .vanish => True
  | _ => False

instance : DecidablePred Deed.Ends := fun deed => by
  unfold Deed.Ends
  split <;> infer_instance

namespace Roster

/-- The roster with another record under one session id. -/
abbrev record (session : Nat) (client : Client.Session) (roster : Roster) : Roster :=
  { roster with session := Function.update roster.session session (some client) }

def say (session : Nat) (client : Client.Session) (message : ToClient) (roster : Roster) : Roster :=
  { roster.record session { client with outboundMsgSeqNum := client.outboundMsgSeqNum + 1 } with
    log := roster.log ++ [.toClient session (client.outboundMsgSeqNum + 1) message] }

def tell (msgSeqNum : Nat) (message : ToServer) (roster : Roster) : Roster :=
  { roster with log := roster.log ++ [.toServer msgSeqNum message] }

/-- Outputs that are no session's. -/
def tellAll (outputs : List Output) (roster : Roster) : Roster := { roster with log := roster.log ++ outputs }

@[simp] theorem tellAll_nil (roster : Roster) : roster.tellAll [] = roster := by
  simp [tellAll]

@[simp] theorem tellAll_tellAll (outputs more : List Output) (roster : Roster) :
    (roster.tellAll outputs).tellAll more = roster.tellAll (outputs ++ more) := by
  simp [tellAll]

def shut (session : Nat) (roster : Roster) : Roster := { roster with log := roster.log ++ [.closeClient session] }

/-- The session is a zombie, its username is free, and the controller has learnt of its
end unless it was still waiting for a logon. -/
def bury (session : Nat) (client : Client.Session) (partings : List Output) (roster : Roster) : Roster :=
  { roster.record session { client with state := .zombie } with
    holder := fun username => if roster.username session = some username then none else roster.holder username
    username := Function.update roster.username session none
    doomed := roster.doomed.insert session
    disconnects := if client.state = .waitingLogon then roster.disconnects else roster.disconnects ++ [session]
    log := roster.log ++ partings }

/-- The username of a session that ends is free, whether or not it was given back before. -/
theorem bury_released {session : Nat} {username : String} {roster : Roster} (named : roster.username session = some username)
    (client : Client.Session) (partings : List Output) :
    ({ roster with
        holder := Function.update roster.holder username none
        username := Function.update roster.username session none } : Roster).bury session client partings =
      roster.bury session client partings := by
  simp only [bury, named, Function.update_self, Function.update_idem, Option.some.injEq, reduceCtorEq, if_false]
  congr 1
  funext other
  simp [Function.update_apply, eq_comm]

/-- A new connection. -/
def arrive (client : Client.Session) (roster : Roster) : Roster :=
  { roster with
    session := Function.update roster.session (roster.lastSession + 1) (some client)
    lastSession := roster.lastSession + 1 }

/-- Records that are no longer held. -/
def forget (sessions : List Nat) (roster : Roster) : Roster :=
  { roster with session := fun session => if session ∈ sessions then none else roster.session session }

theorem forget_cons (session : Nat) (rest : List Nat) (roster : Roster) :
    (roster.forget [session]).forget rest = roster.forget (session :: rest) := by
  simp only [forget, List.mem_cons]
  congr 1
  funext other
  by_cases same : other = session <;> simp [same]

/-- The dead sessions are collected. -/
def sweep (roster : Roster) : Roster := { roster.forget roster.doomed with doomed := [] }

/-- One deed of one session. -/
inductive Does (session : Nat) (before : Roster) : Deed → Roster → Prop where
  | rest : Does session before .rest before
  | say {client : Client.Session} {message : ToClient} (held : before.session session = some client) :
      Does session before (.say message) (before.say session client message)
  | enlist {client : Client.Session} {username party userRequestId : String} {msgSeqNum : Nat}
      (held : before.session session = some client) (arriving : client.state = .waitingLogon)
      (free : before.holder username = none) (unnamed : before.username session = none) :
      Does session before (.enlist username party)
        { (before.record session { client with state := .waitingCreateRoute, username, partyId := party }).tell msgSeqNum
            (.userRequest ⟨userRequestId, .logOnUser, party⟩) with
          holder := Function.update before.holder username (some session)
          username := Function.update before.username session (some username) }
  | welcome {client : Client.Session} {message : Logon} (held : before.session session = some client)
      (waiting : client.state = .waitingCreateRoute) :
      Does session before (.welcome message)
        ((before.say session client (.logon message)).record session
          { client with outboundMsgSeqNum := client.outboundMsgSeqNum + 1, state := .ready })
  | depart {client : Client.Session} {userRequestId : String} {msgSeqNum : Nat}
      (held : before.session session = some client) (ready : client.state = .ready) :
      Does session before .depart
        ((before.record session { client with state := .waitingRemoveRoute }).tell msgSeqNum
          (.userRequest ⟨userRequestId, .logOffUser, client.partyId⟩))
  | pass {client : Client.Session} {sent : Request} {msgSeqNum : Nat} (held : before.session session = some client)
      (ready : client.state = .ready) :
      Does session before (.pass sent) (before.tell msgSeqNum (.request sent))
  | dismiss {client : Client.Session} {message : ToClient} {partings : List Output}
      (held : before.session session = some client) (alive : client.state ≠ .zombie)
      (parting : ∀ output ∈ partings, output.Parting) :
      Does session before (.dismiss message)
        (((before.say session client message).shut session).bury session
          { client with outboundMsgSeqNum := client.outboundMsgSeqNum + 1 } partings)
  | leave {client : Client.Session} {partings : List Output} (held : before.session session = some client)
      (alive : client.state ≠ .zombie) (parting : ∀ output ∈ partings, output.Parting) :
      Does session before .leave ((before.shut session).bury session client partings)
  | vanish {client : Client.Session} {partings : List Output} (held : before.session session = some client)
      (alive : client.state ≠ .zombie) (parting : ∀ output ∈ partings, output.Parting) :
      Does session before .vanish (before.bury session client partings)

/-- Nothing changes but counters, timeouts and the sender of one session. -/
structure Calm (session : Nat) (before after : Roster) : Prop where
  others : ∀ other, other ≠ session → after.session other = before.session other
  identity : (after.session session).map Client.Session.identity = (before.session session).map Client.Session.identity
  holder : after.holder = before.holder
  username : after.username = before.username
  doomed : after.doomed = before.doomed
  disconnects : after.disconnects = before.disconnects
  lastSession : after.lastSession = before.lastSession
  log : after.log = before.log

theorem Calm.refl {session : Nat} (roster : Roster) : Calm session roster roster :=
  ⟨fun _ _ => rfl, rfl, rfl, rfl, rfl, rfl, rfl, rfl⟩

theorem calm_record {session : Nat} {client other : Client.Session} {roster : Roster}
    (held : roster.session session = some client) (same : other.identity = client.identity) :
    Calm session roster (roster.record session other) where
  others _ different := Function.update_of_ne different ..
  identity := by simp [held, same]
  holder := rfl
  username := rfl
  doomed := rfl
  disconnects := rfl
  lastSession := rfl
  log := rfl

theorem Calm.trans {session : Nat} {first middle last : Roster} (head : Calm session first middle)
    (rest : Calm session middle last) : Calm session first last where
  others other different := (rest.others other different).trans (head.others other different)
  identity := rest.identity.trans head.identity
  holder := rest.holder.trans head.holder
  username := rest.username.trans head.username
  doomed := rest.doomed.trans head.doomed
  disconnects := rest.disconnects.trans head.disconnects
  lastSession := rest.lastSession.trans head.lastSession
  log := rest.log.trans head.log

/-- A deed, with calm before and after it. -/
def Acts (session : Nat) (deed : Deed) (before after : Roster) : Prop :=
  ∃ first last, Calm session before first ∧ Does session first deed last ∧ Calm session last after

theorem Acts.of_does {session : Nat} {deed : Deed} {before after : Roster} (does : Does session before deed after) :
    Acts session deed before after :=
  ⟨before, after, .refl _, does, .refl _⟩

theorem Acts.rest {session : Nat} {before after : Roster} (calm : Calm session before after) :
    Acts session .rest before after :=
  ⟨before, before, .refl _, .rest, calm⟩

theorem Acts.after {session : Nat} {deed : Deed} {first middle last : Roster} (calm : Calm session first middle)
    (acts : Acts session deed middle last) : Acts session deed first last := by
  obtain ⟨before, after, head, does, rest⟩ := acts
  exact ⟨before, after, calm.trans head, does, rest⟩

theorem Acts.before {session : Nat} {deed : Deed} {first middle last : Roster} (acts : Acts session deed first middle)
    (calm : Calm session middle last) : Acts session deed first last := by
  obtain ⟨before, after, head, does, rest⟩ := acts
  exact ⟨before, after, head, does, rest.trans calm⟩

theorem Does.timed {session : Nat} {deed : Deed} {before middle after : Roster} {client other : Client.Session}
    (does : Does session before deed middle) (held : middle.session session = some client)
    (same : other.identity = client.identity) (set : after = middle.record session other) :
    Acts session deed before after := by
  subst set
  exact ⟨before, middle, .refl _, does, calm_record held same⟩

/-- The turn of one session, which does one of the deeds that its record allows. -/
def Turn (allowed : Client.Session → Deed → Prop) (before : Roster) (session : Nat) (after : Roster) : Prop :=
  match before.session session with
  | none => after = before
  | some client => ∃ deed, allowed client deed ∧ Acts session deed before after

theorem Turn.of_held {allowed : Client.Session → Deed → Prop} {before after : Roster} {session : Nat}
    {client : Client.Session} (turn : Turn allowed before session after) (held : before.session session = some client) :
    ∃ deed, allowed client deed ∧ Acts session deed before after := by
  unfold Turn at turn
  rw [held] at turn
  exact turn

theorem Turn.mono {allowed allowed' : Client.Session → Deed → Prop} {before after : Roster} {session : Nat}
    (weaker : ∀ client deed, allowed client deed → allowed' client deed) (turn : Turn allowed before session after) :
    Turn allowed' before session after := by
  unfold Turn at *
  split at turn
  · exact turn
  · obtain ⟨deed, permitted, acts⟩ := turn
    exact ⟨deed, weaker _ deed permitted, acts⟩

theorem Turn.absent {allowed : Client.Session → Deed → Prop} {before : Roster} {session : Nat}
    (absent : before.session session = none) : Turn allowed before session before := by
  unfold Turn
  rw [absent]

theorem Turn.rest {allowed : Client.Session → Deed → Prop} {before : Roster} {session : Nat}
    (resting : ∀ client, before.session session = some client → allowed client .rest) :
    Turn allowed before session before := by
  unfold Turn
  split
  · rfl
  · next client held => exact ⟨.rest, resting client held, .rest (.refl _)⟩

/-- Messages of the upstream connection itself. -/
def Told (before after : Roster) : Prop :=
  ∃ outputs : List Output, (∀ output ∈ outputs, output.Own) ∧ after = before.tellAll outputs

theorem Told.refl (roster : Roster) : Told roster roster := ⟨[], by simp, by simp⟩

end Roster
end FixProxy
