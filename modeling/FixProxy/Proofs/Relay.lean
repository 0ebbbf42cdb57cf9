import FixProxy.Proofs.Frame

/-! What a handler sends upstream. Only `server::Session::send` does it, one message
under the number that is next, and for a client only while the session is ready. -/

namespace FixProxy
open Codec

def Output.goesUp : Output → Bool
  | .toServer _ _ | .closeServer => true
  | .toClient _ _ _ | .closeClient _ => false

def numbered (last : Nat) : List ToServer → List Output
  | [] => []
  | message :: rest => .toServer (last + 1) message :: numbered (last + 1) rest

theorem numbered_append (last : Nat) (messages more : List ToServer) :
    numbered last (messages ++ more) = numbered last messages ++ numbered (last + messages.length) more := by
  induction messages generalizing last with
  | nil => rfl
  | cons message rest ih =>
    rw [List.cons_append, numbered, ih, numbered, List.cons_append, List.length_cons, Nat.add_right_comm, Nat.add_assoc]

namespace Controller

/-- Everything handed to the upstream connection so far. -/
def sentUp (controller : Controller) : List Output := controller.log.filter Output.goesUp

variable {first middle last : Controller}

/-- These messages, of some kind, went up; the connection is otherwise as it was. -/
def Speaks (kind : ToServer → Prop) (first last : Controller) : Prop :=
  ∃ messages : List ToServer, (∀ message ∈ messages, kind message) ∧
    last.sentUp = first.sentUp ++ numbered first.serverSession.outboundMsgSeqNum messages ∧
    last.serverSession.outboundMsgSeqNum = first.serverSession.outboundMsgSeqNum + messages.length ∧
    last.serverSession.state = first.serverSession.state

/-- What is sent for clients, and only through a session that is ready. -/
def Relays (first last : Controller) : Prop :=
  Speaks (fun message => message.Relayed ∧ first.serverSession.state = .ready) first last

structure Mute (first last : Controller) : Prop where
  sentUp : last.sentUp = first.sentUp
  serverSession : last.serverSession = first.serverSession

theorem Mute.trans (head : Mute first middle) (rest : Mute middle last) : Mute first last :=
  ⟨rest.sentUp.trans head.sentUp, rest.serverSession.trans head.serverSession⟩

theorem Mute.speaks {kind : ToServer → Prop} (mute : Mute first last) : Speaks kind first last :=
  ⟨[], fun _ member => (nomatch member), by simp [mute.sentUp, numbered], by simp [mute.serverSession],
    congrArg _ mute.serverSession⟩

theorem Speaks.trans {kind other : ToServer → Prop} (head : Speaks kind first middle) (rest : Speaks other middle last)
    (same : middle.serverSession.state = first.serverSession.state → ∀ message, other message → kind message) :
    Speaks kind first last := by
  obtain ⟨messages, kinds, up, next, state⟩ := head
  obtain ⟨more, others, up', next', state'⟩ := rest
  refine ⟨messages ++ more, fun message member => ?_, ?_, ?_, state'.trans state⟩
  · rcases List.mem_append.mp member with early | late
    · exact kinds message early
    · exact same state message (others message late)
  · rw [up', up, next, numbered_append, List.append_assoc]
  · rw [next', next, List.length_append, Nat.add_assoc]

theorem Relays.trans (head : Relays first middle) (rest : Relays middle last) : Relays first last :=
  Speaks.trans head rest fun same _ relayed => ⟨relayed.1, same ▸ relayed.2⟩

theorem Mute.relays (mute : Mute first last) : Relays first last := mute.speaks

theorem Relays.refl (controller : Controller) : Relays controller controller := Mute.relays ⟨rfl, rfl⟩

/-- A call that sends upstream only what it relays. -/
def Relaying (call : Controller → Outcome Controller) : Prop := ∀ controller, (call controller).Every (Relays controller)

theorem mute_sendToClient (session : Nat) (message : ToClient) (controller : Controller) :
    Mute controller (controller.sendToClient session message) := by
  unfold sendToClient
  split
  · exact ⟨rfl, rfl⟩
  · exact ⟨by simp [sentUp, Output.goesUp], rfl⟩

theorem sentUp_sendToServer (message : ToServer) (controller : Controller) :
    (controller.sendToServer message).sentUp =
      controller.sentUp ++ numbered controller.serverSession.outboundMsgSeqNum [message] := by
  simp [sendToServer, sentUp, numbered, Output.goesUp]

theorem sendToServer_speaks {kind : ToServer → Prop} {message : ToServer} (allowed : kind message) (controller : Controller) :
    Speaks kind controller (controller.sendToServer message) := by
  refine ⟨[message], fun other member => ?_, sentUp_sendToServer message controller, rfl, rfl⟩
  rw [List.mem_singleton.mp member]
  exact allowed

private theorem relaying_dispatchToServer {message : ToServer} (relayed : message.Relayed) :
    Relaying (dispatchToServer message) := by
  intro controller
  unfold dispatchToServer
  split
  · next ready => exact sendToServer_speaks ⟨relayed, ready⟩ controller
  · exact Relays.refl controller

instance : Frame Relays where
  trans _ _ _ := Relays.trans
  inner _ log serverSession _ := Mute.relays ⟨congrArg (List.filter Output.goesUp) log, serverSession⟩
  record _ _ _ _ := Mute.relays ⟨rfl, rfl⟩
  say session message controller := (mute_sendToClient session message controller).relays
  shut _ _ := Mute.relays ⟨by simp [sentUp, Output.goesUp], rfl⟩
  relay := relaying_dispatchToServer

end Controller

namespace Client
open Controller (Relaying Relays Mute)
open Outcome (Every)
variable {session : Nat}

/-! What touches the supervision of a session. -/

private theorem relays_updateSession (change : Session → Session) (controller : Controller) :
    Relays controller (controller.updateSession session change) := Mute.relays ⟨rfl, rfl⟩

theorem relaying_timer (env : Env) (now : Nanoseconds) (session : Nat) : Relaying (timer env now session) := by
  intro controller
  by_cases due : ∃ client, controller.sessions.find session = some client ∧ client.state = .ready ∧ client.nextHeartbeat < now
  · obtain ⟨client, held, ready, past⟩ := due
    have timed : Relays controller (controller.updateSession session fun client =>
      { client with nextHeartbeat := now + env.settings.clientHeartbeatFreq }) := relays_updateSession ..
    rw [timer_due env held ready past]
    refine Every.before timed ?_
    split
    · exact keeping_sendAndClose env session _ _
    · exact Relays.trans (Frame.say ..) (relays_updateSession ..)
  · exact every_timer fun client held ready past => due ⟨client, held, ready, past⟩

private theorem relaying_heartbeat (env : Env) (header : Header) (session : Nat) :
    Relaying (heartbeat env header session) := by
  refine keeping_withSession fun client controller => ?_
  cases client.state with
  | waitingLogon => exact keeping_sendAndClose ..
  | waitingCreateRoute => exact keeping_sendAndClose ..
  | ready => exact relays_updateSession ..
  | _ => exact Relays.refl controller

theorem relaying_read (env : Env) (message : FromClient) (header : Header) (clock : Clock) (session : Nat) :
    Relaying (read env message header clock session) :=
  keeping_read env clock fun _ => relaying_heartbeat env header session

end Client
end FixProxy
