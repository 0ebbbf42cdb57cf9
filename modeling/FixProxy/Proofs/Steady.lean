import FixProxy.Proofs.Frame
import FixProxy.Roster

/-! What whole events keep. A relation that the handlers of a session keep, and that is neither
about the supervision of a session nor about the upstream connection, holds across every event
but a new connection and a message of the authentication service. -/

namespace FixProxy
open Codec

/-- A framed relation that the supervision of a session keeps as well. -/
class Tended (R : Controller → Controller → Prop) : Prop extends Frame R where
  adjust {change : Client.Session → Client.Session} (session : Nat) (controller : Controller)
    (counted : ∀ client, (change client).outboundMsgSeqNum = client.outboundMsgSeqNum) :
    R controller (controller.updateSession session change)

/-- And the upstream connection, and the collection of the dead. -/
class Steady (R : Controller → Controller → Prop) : Prop extends Tended R where
  upstream {first last : Controller} {outputs : List Output} (sessions : last.sessions = first.sessions)
    (log : last.log = first.log ++ outputs) (own : ∀ output ∈ outputs, output.Own)
    (credentials : last.shared.usernameToPasswordAndStrategyId = first.shared.usernameToPasswordAndStrategyId) :
    R first last
  fewer {first last : Controller} (log : last.log = first.log)
    (fewer : ∀ session client, last.sessions.find session = some client → first.sessions.find session = some client)
    (credentials : last.shared.usernameToPasswordAndStrategyId = first.shared.usernameToPasswordAndStrategyId) :
    R first last

/-- The events that go on with what is there. -/
def Input.Settled : Input → Prop
  | .accept _ | .authInsert _ _ _ | .authRemove _ => False
  | _ => True

open Outcome (Keeping Every)

namespace Client
variable {R : Controller → Controller → Prop} [Tended R]

theorem keeping_timer (env : Env) (now : Nanoseconds) (session : Nat) : Keeping R (timer env now session) := by
  intro controller
  by_cases due : ∃ client, controller.sessions.find session = some client ∧ client.state = .ready ∧ client.nextHeartbeat < now
  · obtain ⟨client, held, ready, past⟩ := due
    have timed : R controller (controller.updateSession session fun client =>
      { client with nextHeartbeat := now + env.settings.clientHeartbeatFreq }) :=
      Tended.adjust session controller fun _ => rfl
    rw [timer_due env held ready past]
    refine Every.before timed ?_
    split
    · exact keeping_sendAndClose env session _ _
    · exact Frame.chain (Frame.say ..) (Tended.adjust session _ fun _ => rfl)
  · exact every_timer fun client held ready past => due ⟨client, held, ready, past⟩

theorem keeping_message (env : Env) (message : FromClient) (header : Header) (clock : Clock) (session : Nat) :
    Keeping R (read env message header clock session) := by
  refine keeping_read env clock fun _ => keeping_withSession fun client controller => ?_
  cases client.state with
  | waitingLogon => exact keeping_sendAndClose ..
  | waitingCreateRoute => exact keeping_sendAndClose ..
  | ready => exact Tended.adjust session controller fun _ => rfl
  | _ => exact Frame.refl controller

end Client

variable {R : Controller → Controller → Prop} [Steady R]

theorem Steady.beside {first last : Controller} (sessions : last.sessions = first.sessions) (log : last.log = first.log)
    (credentials : last.shared.usernameToPasswordAndStrategyId = first.shared.usernameToPasswordAndStrategyId) :
    R first last :=
  Steady.upstream sessions (log.trans (List.append_nil _).symm) (by simp) credentials

private theorem steady_tell (message : ToServer) (own : message.Own) (controller : Controller) :
    R controller (controller.sendToServer message) := by
  have log : (controller.sendToServer message).log =
    controller.log ++ [.toServer (controller.serverSession.outboundMsgSeqNum + 1) message] := rfl
  refine Steady.upstream rfl log (fun output member => ?_) rfl
  obtain rfl := List.mem_singleton.mp member
  exact own

namespace Client

theorem collect_fewer {controller : Controller} {session other : Nat} {client : Session}
    (held : (collect session controller).sessions.find other = some client) : controller.sessions.find other = some client := by
  simp only [collect, Map.find_erase] at held
  split at held
  · cases held
  · exact held

private theorem steady_collect (session : Nat) (controller : Controller) : R controller (collect session controller) := by
  refine Steady.fewer rfl (fun other client => collect_fewer) ?_
  · unfold collect Shared.sessionCleanupHelper Shared.sessionRemoveHelper
    simp only
    split <;> rfl

private theorem steady_removeZombies (now : Nanoseconds) (controller : Controller) :
    R controller (removeZombies now controller) := by
  have collected (sessions : List Nat) (controller : Controller) :
      R controller (sessions.foldl (fun controller session => collect session controller) controller) := by
    induction sessions generalizing controller with
    | nil => exact Frame.refl controller
    | cons session rest ih => exact Frame.chain (steady_collect session controller) (ih _)
  unfold removeZombies
  split
  · exact Frame.refl controller
  · have timed : R controller { controller with nextGarbageCollection := now + garbageCollectionFrequency } :=
      Steady.beside rfl rfl rfl
    exact Frame.chain (Frame.chain timed (collected _ _)) (Steady.beside rfl rfl rfl)

end Client

namespace Server

private theorem steady_timer (env : Env) (now : Nanoseconds) (controller : Controller) :
    R controller (timer env now controller) := by
  unfold timer
  split
  · exact Frame.refl controller
  · split
    · have scheduled : R controller { controller with
          serverSession := { controller.serverSession with nextHeartbeat := now + env.settings.serverPingFreq } } :=
        Steady.beside rfl rfl rfl
      exact Frame.chain scheduled (steady_tell (.testRequest (toString now)) trivial _)
    · exact Frame.refl controller

private theorem steady_disconnected (env : Env) : Keeping R (disconnected env) := by
  intro controller
  have closing (sessions : List Nat) : Keeping R (Outcome.forEach sessions (Client.forceDisconnect env)) :=
    Keeping.forEach Frame.refl (Client.keeping_close env)
  have unready : R controller { controller with ready := false } := Steady.beside rfl rfl rfl
  have closed : (Controller.serverDisconnected env controller).Every (R controller) :=
    Every.before unready (closing _ _)
  exact Every.andThen closed fun _ => Steady.beside rfl rfl rfl

private theorem steady_read (env : Env) (message : FromServer) (msgSeqNum : Nat) : Keeping R (read env message msgSeqNum) := by
  intro controller
  have numbers : R controller { controller with
      serverSession := { controller.serverSession with inboundMsgSeqNum := msgSeqNum } } := Steady.beside rfl rfl rfl
  cases message with
  | testRequest testReqId =>
    exact Frame.chain numbers (steady_tell (.heartbeat testReqId) trivial _)
  | userResponse value => exact Every.before numbers (Controller.keeping_userResponse env value _)
  | response value => exact Frame.chain numbers (Controller.frame_response env value _)
  | logon => exact Steady.beside rfl rfl rfl
  | _ => exact numbers

end Server

/-- What the operations keep, a whole event keeps, however its call ends. -/
private theorem steady_step (env : Env) {input : Input} (settled : input.Settled) : Keeping R (step env input) := by
  intro controller
  cases input with
  | timer now =>
    have turns : Keeping R (Outcome.forEach (Server.timer env now controller).sessions.keys (Client.timer env now)) :=
      Keeping.forEach Frame.refl (Client.keeping_timer env now)
    exact Every.before (Server.steady_timer env now controller)
      (Every.andThen (turns _) fun after => Client.steady_removeZombies now after)
  | accept | authInsert | authRemove => exact settled.elim
  | read session clock header message => exact Client.keeping_message ..
  | readError session => exact Client.keeping_close ..
  | disconnected session => exact Client.keeping_makeZombie ..
  | serverConnected => exact Frame.chain (steady_tell _ (by exact trivial) _) (Steady.beside rfl rfl rfl)
  | serverDisconnected => exact Server.steady_disconnected env controller
  | serverRead msgSeqNum message => exact Server.steady_read env message msgSeqNum controller

theorem World.Step.steady {env : Env} {before after : World} {input : Input} (step : World.Step env before input after)
    (settled : input.Settled) : R before.controller after.controller := by
  have every : (FixProxy.step env input before.controller).Every (R before.controller) := steady_step env settled _
  rw [step.performed] at every
  exact every

end FixProxy
