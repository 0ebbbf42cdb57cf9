import FixProxy.World

/-! A connection may report its end while it is being closed, or later, or both. Nothing
depends on which: the end of a session is handled once, and a second report finds it done. -/

namespace FixProxy
open Codec

/-- The same environment, but for when connections report their end. -/
def Env.withCallbacks (callsBack : Nat → Bool) (env : Env) : Env :=
  { env with library := { env.library with closeCallsBack := callsBack } }

namespace Client
variable {callsBack : Nat → Bool} {env : Env} {controller after : Controller} {session : Nat}

private theorem makeZombie_of_stopped (stopped : Stopped session controller) :
    makeZombie session controller = .done controller := by
  unfold makeZombie withSession
  cases held : controller.sessions.find session with
  | none => rfl
  | some client => simp only [stopped client held]

/-- Ending a session twice is ending it once. -/
theorem makeZombie_twice (session : Nat) (controller : Controller) :
    (makeZombie session controller).andThen (makeZombie session) = makeZombie session controller := by
  cases ended : makeZombie session controller with
  | done after => exact makeZombie_of_stopped (stopped_of_makeZombie ended)
  | _ => rfl

private theorem close_callbacks : close (env.withCallbacks callsBack) = close env := by
  have once (back : Bool) (session : Nat) (controller : Controller) :
      (if back then makeZombie session controller else .done controller).andThen (makeZombie session) =
        makeZombie session controller := by
    cases back with
    | true => exact makeZombie_twice session controller
    | false => rfl
  funext session controller
  simp only [close, once]

private theorem forceDisconnect_callbacks : forceDisconnect (env.withCallbacks callsBack) = forceDisconnect env :=
  close_callbacks

private theorem sendAndClose_callbacks : sendAndClose (env.withCallbacks callsBack) = sendAndClose env := by
  funext session message controller
  simp only [sendAndClose, close_callbacks]

private theorem sendRejectAndClose_callbacks : sendRejectAndClose (env.withCallbacks callsBack) = sendRejectAndClose env := by
  funext session header msgType text
  simp only [sendRejectAndClose, sendAndClose_callbacks]

private theorem timer_callbacks : timer (env.withCallbacks callsBack) = timer env := by
  funext now session
  simp only [timer, close_callbacks, sendAndClose_callbacks]
  rfl

private theorem userResponse_callbacks : userResponse (env.withCallbacks callsBack) = userResponse env := by
  funext response session
  simp only [userResponse, sendAndClose_callbacks]
  rfl

private theorem business_callbacks : business (env.withCallbacks callsBack) = business env := by
  funext msgType header session ready
  simp only [business, sendRejectAndClose_callbacks]

private theorem request_callbacks : request (env.withCallbacks callsBack) = request env := by
  funext value
  cases value with
  | _ =>
    funext header session
    simp only [request, securityListRequest, securityDefinitionRequest, securityStatusRequest, marketDataRequest,
      orderStatusRequest, newOrderSingle, orderCancelReplaceRequest, orderCancelRequest, orderMassStatusRequest,
      orderMassCancelRequest, requestForPositions, tradeCaptureReportRequest, business_callbacks]
    rfl

private theorem logon_callbacks : logon (env.withCallbacks callsBack) = logon env := by
  funext value header clock session
  simp only [logon, logonAccepted, sendRejectAndClose_callbacks]
  rfl

private theorem read_callbacks : read (env.withCallbacks callsBack) = read env := by
  funext message header clock session
  simp only [read, parse, testRequest, resendRequest, heartbeat, logout, close_callbacks, sendRejectAndClose_callbacks,
    request_callbacks, logon_callbacks]
  rfl

end Client

namespace Server
variable {callsBack : Nat → Bool} {env : Env}

private theorem read_callbacks : read (env.withCallbacks callsBack) = read env := by
  funext message msgSeqNum controller
  cases message with
  | userResponse value => simp only [read, parse, Controller.userResponse, Client.userResponse_callbacks]
  | _ => rfl

end Server

private theorem step_callbacks (callsBack : Nat → Bool) (env : Env) : step (env.withCallbacks callsBack) = step env := by
  funext input controller
  cases input with
  | timer now =>
    simp only [step, Client.timer_callbacks]
    rfl
  | read => simp only [step, Client.read_callbacks]
  | readError => simp only [step, Client.readError, Client.close_callbacks]
  | serverDisconnected =>
    simp only [step, Server.disconnected, Controller.serverDisconnected, Client.forceDisconnect_callbacks]
  | serverRead => simp only [step, Server.read_callbacks]
  | _ => rfl

namespace World
variable {callsBack : Nat → Bool} {env : Env} {users : Map String (String × Nat)} {realtime : Nat}
  {before after world : World} {input : Input} {inputs : List Input} {session : Nat}

private theorem step_withCallbacks : Step (env.withCallbacks callsBack) before input after ↔ Step env before input after := by
  constructor
  · exact fun step => ⟨step.permitted, step_callbacks callsBack env ▸ step.performed, step.answered⟩
  · exact fun step => ⟨step.permitted, (step_callbacks callsBack env).symm ▸ step.performed, step.answered⟩

private theorem step_of_late (dead : ¬ world.Alive session) :
    Step env world (.disconnected session) after ↔ after = world := by
  have idle : Client.makeZombie session world.controller = .done world.controller := by
    refine Client.makeZombie_of_stopped fun client held => ?_
    by_contra alive
    exact dead ⟨client, held, alive⟩
  obtain ⟨controller, answered⟩ := after
  constructor
  · intro step
    have kept : answered = world.answered ++ [] := step.answered
    have same : controller = world.controller := (Outcome.done.inj (idle.symm.trans step.performed)).symm
    rw [kept, List.append_nil, same]
  · rintro rfl
    exact ⟨trivial, idle, (List.append_nil _).symm⟩

/-- The process runs alike whether connections report their end while they are closed or not, and
a report that comes later, once or more often, changes nothing. -/
theorem callbacks_irrelevant (callsBack : Nat → Bool) (env : Env) (users : Map String (String × Nat)) (realtime : Nat)
    (inputs : List Input) (world : World) :
    (Runs (env.withCallbacks callsBack) users realtime inputs world ↔ Runs env users realtime inputs world) ∧
      ∀ session, ¬ world.Alive session → ∀ after, Step env world (.disconnected session) after ↔ after = world := by
  refine ⟨⟨fun runs => runs.mono step_withCallbacks.mp, fun runs => runs.mono step_withCallbacks.mpr⟩, ?_⟩
  exact fun session dead after => step_of_late dead

end World
end FixProxy
