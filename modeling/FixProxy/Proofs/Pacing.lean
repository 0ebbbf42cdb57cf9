import FixProxy.Lib.Metronome
import FixProxy.Proofs.Deadlines
import FixProxy.Proofs.Supervision

/-! The supervision of the upstream connection. While it lasts, upstream is sent test requests in
the time of a metronome, whatever the clients do and whatever upstream answers. -/

namespace FixProxy
open Codec

def Output.ping : Output → Option String
  | .toServer _ (.testRequest testReqId) => some testReqId
  | _ => none

namespace Controller

/-- The test requests that upstream has been sent, oldest first. -/
def pings (controller : Controller) : List String := controller.log.filterMap Output.ping

/-- No test request is sent, and the upstream connection is timed as it was. -/
def Unpinged (first last : Controller) : Prop := SameClock first last ∧ last.pings = first.pings

variable {first last : Controller}

private theorem unpinged_of_log {outputs : List Output} (serverSession : last.serverSession = first.serverSession)
    (log : last.log = first.log ++ outputs) (silent : ∀ output ∈ outputs, output.ping = none) : Unpinged first last := by
  refine ⟨sameClock_of_eq serverSession, ?_⟩
  rw [pings, log, List.filterMap_append, List.filterMap_eq_nil_iff.mpr silent, List.append_nil, pings]

private theorem unpinged_of_eq (serverSession : last.serverSession = first.serverSession) (log : last.log = first.log) :
    Unpinged first last :=
  unpinged_of_log serverSession (log.trans (List.append_nil _).symm) (by simp)

private theorem unpinged_sendToServer {message : ToServer} (other : ∀ testReqId, message ≠ .testRequest testReqId)
    (controller : Controller) : Unpinged controller (controller.sendToServer message) := by
  refine ⟨⟨rfl, rfl⟩, ?_⟩
  have silent : Output.ping (.toServer (controller.serverSession.outboundMsgSeqNum + 1) message) = none := by
    cases message with
    | testRequest testReqId => exact absurd rfl (other testReqId)
    | _ => rfl
  simp [pings, sendToServer, silent]

instance : Tended Unpinged where
  trans _ _ _ head rest := ⟨Frame.chain head.1 rest.1, rest.2.trans head.2⟩
  inner _ log serverSession _ := unpinged_of_eq serverSession log
  record _ _ _ _ := unpinged_of_eq rfl rfl
  say session message controller := by
    unfold sendToClient
    split
    · exact unpinged_of_eq rfl rfl
    · exact unpinged_of_log rfl rfl (by simp [Output.ping])
  shut _ _ := unpinged_of_log rfl rfl (by simp [Output.ping])
  relay {message} relayed controller := by
    unfold dispatchToServer
    split
    · refine unpinged_sendToServer (fun testReqId same => ?_) controller
      rw [same] at relayed
      exact relayed
    · exact unpinged_of_eq rfl rfl
  adjust _ _ _ := unpinged_of_eq rfl rfl

end Controller

namespace World
open Controller (Unpinged)
variable {env : Env} {before after first last : World} {input : Input} {inputs : List Input} {now : Nanoseconds}

def Linked (world : World) : Prop := world.controller.serverSession.state = .ready

def deadline (world : World) : Nanoseconds := world.controller.serverSession.nextHeartbeat

def pings (world : World) : List String := world.controller.pings

private theorem log_collect (sessions : List Nat) (controller : Controller) :
    (sessions.foldl (fun controller session => Client.collect session controller) controller).log = controller.log := by
  induction sessions generalizing controller with
  | nil => rfl
  | cons session rest ih => exact ih (Client.collect session controller)

private theorem unpinged_removeZombies (now : Nanoseconds) (controller : Controller) :
    Unpinged controller (Client.removeZombies now controller) := by
  refine Controller.unpinged_of_eq (Client.fewer_of_removeZombies now controller).2.2 ?_
  unfold Client.removeZombies
  split
  · rfl
  · exact log_collect ..

private theorem unpinged_timer (step : Step env before (.timer now) after) :
    Unpinged (Server.timer env now before.controller) after.controller := by
  obtain ⟨timed, looped, swept⟩ := Outcome.andThen_eq_done.mp step.performed
  have loop : Outcome.Keeping Unpinged
      (Outcome.forEach (Server.timer env now before.controller).sessions.keys (Client.timer env now)) :=
    Outcome.Keeping.forEach Frame.refl (Client.keeping_timer env now)
  have turns := loop (Server.timer env now before.controller)
  rw [looped] at turns
  rw [← Outcome.done.inj swept]
  exact Frame.chain turns (unpinged_removeZombies now timed)

/-- Other events are nothing to the supervision of a connection that is ready and stays. -/
private theorem unpinged_step (step : Step env before input after) (linked : before.Linked)
    (stays : input ≠ .serverDisconnected)
    (untimed : input.tick = none) : Unpinged before.controller after.controller := by
  have every : (FixProxy.step env input before.controller).Every (Unpinged before.controller) := by
    cases input with
    | timer now => cases untimed
    | accept now => exact Controller.unpinged_of_eq rfl rfl
    | authInsert | authRemove => exact Controller.unpinged_of_eq rfl rfl
    | read session clock header message => exact Client.keeping_message ..
    | readError session => exact Client.keeping_close ..
    | disconnected session => exact Client.keeping_makeZombie ..
    | serverConnected =>
      have down : before.controller.serverSession.state = .disconnected := step.permitted
      cases down.symm.trans linked
    | serverDisconnected => exact absurd rfl stays
    | serverRead msgSeqNum message =>
      have numbers : Unpinged before.controller { before.controller with
        serverSession := { before.controller.serverSession with inboundMsgSeqNum := msgSeqNum } } := ⟨⟨rfl, rfl⟩, rfl⟩
      cases message with
      | testRequest testReqId =>
        exact Frame.chain numbers (Controller.unpinged_sendToServer (by simp) _)
      | userResponse value => exact Outcome.Every.before numbers (Controller.keeping_userResponse env value _)
      | response value => exact Frame.chain numbers (Controller.frame_response env value _)
      | logon => exact ⟨⟨linked.symm, rfl⟩, rfl⟩
      | _ => exact numbers
  rw [step.performed] at every
  exact every

private theorem linked_of_sameClock (linked : before.Linked)
    (same : Controller.SameClock before.controller after.controller) :
    after.Linked := same.1.trans linked

theorem idle_step (step : Step env before input after) (linked : before.Linked) (stays : input ≠ .serverDisconnected)
    (early : ∀ now, input.tick = some now → ¬ before.deadline ≤ now) : Unpinged before.controller after.controller := by
  cases heard : input.tick with
  | none => exact unpinged_step step linked stays heard
  | some now =>
    obtain rfl : input = .timer now := by cases input <;> cases heard; rfl
    have idle : Server.timer env now before.controller = before.controller :=
      Server.timer_idle fun _ => not_le.mp (early now rfl)
    have turns := unpinged_timer step
    rwa [idle] at turns

private theorem due_step (step : Step env before (.timer now) after) (linked : before.Linked) (due : before.deadline ≤ now) :
    after.Linked ∧ after.deadline = now + env.settings.serverPingFreq ∧ after.pings = before.pings ++ [toString now] := by
  have sends : Server.timer env now before.controller = ({ before.controller with
      serverSession := { before.controller.serverSession with
        nextHeartbeat := now + env.settings.serverPingFreq } }).sendToServer (.testRequest (toString now)) := by
    have ready : ¬ before.controller.serverSession.state ≠ .ready := not_not.mpr linked
    unfold Server.timer
    rw [if_neg ready]
    exact if_pos due
  obtain ⟨⟨state, deadline⟩, pings⟩ := unpinged_timer step
  rw [sends] at state deadline pings
  refine ⟨state.trans linked, deadline, pings.trans ?_⟩
  simp [Controller.pings, Controller.sendToServer, Output.ping, World.pings]

private theorem linked_step (step : Step env before input after) (linked : before.Linked)
    (stays : input ≠ .serverDisconnected) :
    after.Linked := by
  by_cases due : ∃ now, input = .timer now ∧ before.deadline ≤ now
  · obtain ⟨now, rfl, due⟩ := due
    exact (due_step step linked due).1
  · refine linked_of_sameClock linked (idle_step step linked stays fun now heard past => due ⟨now, ?_, past⟩).1
    cases input <;> cases heard
    rfl

/-- A step while upstream is logged on, and does not go. -/
def Lasting (env : Env) (before : World) (input : Input) (after : World) : Prop :=
  Step env before input after ∧ before.Linked ∧ input ≠ .serverDisconnected

private theorem lasting_of_run (run : Run (Step env) first inputs last) (linked : first.Linked)
    (stays : .serverDisconnected ∉ inputs) : Run (Lasting env) first inputs last := by
  induction run with
  | nil => exact .nil _
  | cons head _ ih =>
    obtain ⟨different, rest⟩ := not_or.mp (List.mem_cons.not.mp stays)
    have here := Ne.symm different
    exact .cons ⟨head, linked, here⟩ (ih (linked_step head linked here) rest)

private theorem lasting_idle (lasting : Lasting env before input after)
    (early : ∀ now, input.tick = some now → ¬ before.deadline ≤ now) :
    after.deadline = before.deadline ∧ after.pings = before.pings := by
  obtain ⟨step, linked, stays⟩ := lasting
  obtain ⟨⟨-, deadline⟩, pings⟩ := idle_step step linked stays early
  exact ⟨deadline, pings⟩

private theorem lasting_due (lasting : Lasting env before input after) (heard : input.tick = some now)
    (due : before.deadline ≤ now) :
    after.deadline = now + env.settings.serverPingFreq ∧ after.pings = before.pings ++ [toString now] := by
  obtain ⟨step, linked, -⟩ := lasting
  obtain rfl : input = .timer now := by cases input <;> cases heard; rfl
  exact (due_step step linked due).2

/-- From a state in which upstream is logged on, and for as long as the connection lasts, the test
requests that it is sent are the beats of a metronome that hears the ticks of the timer and nothing
else. Any two of them are a period apart or more, and if the time does not run back, at every tick
from the first deadline on the last one is less than a period old. -/
theorem pings_paced (linked : first.Linked) (run : Run (Step env) first inputs last) (stays : .serverDisconnected ∉ inputs)
    (freq : 0 < env.settings.serverPingFreq) :
    ∃ times, last.pings = first.pings ++ times.map toString ∧
      times = Metronome.beats (· + env.settings.serverPingFreq) first.deadline (inputs.filterMap Input.tick) ∧
      times.Pairwise (fun ping next => ping + env.settings.serverPingFreq ≤ next) ∧
      ((inputs.filterMap Input.tick).Pairwise (· ≤ ·) → ∀ now ∈ inputs.filterMap Input.tick, first.deadline ≤ now →
        ∃ ping ∈ times, ping ≤ now ∧ now < ping + env.settings.serverPingFreq) := by
  have later (time : Nanoseconds) : time < time + env.settings.serverPingFreq := Int.lt_add_of_pos_right time freq
  have beaten : last.pings = first.pings ++ (Metronome.beats (· + env.settings.serverPingFreq) first.deadline
      (inputs.filterMap Input.tick)).map toString :=
    @Metronome.of_run _ _ _ _ _ _ (Lasting env) deadline pings Input.tick toString (fun step => lasting_idle step)
      (fun step => lasting_due step) _ _ _ (lasting_of_run run linked stays)
  refine ⟨_, beaten, rfl, Metronome.spaced fun time => (later time).le, fun forward now tick due => ?_⟩
  exact Metronome.recent forward later tick due

/-- Of four ticks one is early. -/
theorem pings_paced_loggedOn : ∃ first last, Reachable Deployment.env first ∧
    Run (Step Deployment.env) first [.timer 40, .timer 50, .timer 80] last ∧
      last.pings = first.pings ++ [toString (40 : Nanoseconds), toString (80 : Nanoseconds)] := by
  have replayed := exists_runs_of_replay Regular Deployment.env Deployment.users 0 Deployment.loggedOn (.timer 10)
    [.timer 40, .timer 50, .timer 80]
    (fun _ first _ => first.controller.serverSession.state == .ready && first.deadline == 40) (by decide +kernel)
  obtain ⟨world, first, last, runs, step, run, checked⟩ := replayed
  simp only [Bool.and_eq_true, beq_iff_eq] at checked
  obtain ⟨linked, deadline⟩ := checked
  have run : Run (Step Deployment.env) first [.timer 40, .timer 50, .timer 80] last := run.mono fun performed => performed.2
  obtain ⟨times, pings, beats, -⟩ := pings_paced linked run (by simp) (by decide)
  have paced : times = [40, 80] := by
    rw [beats, deadline]
    decide
  exact ⟨first, last, (reachable_of_runsUnder runs).step step, run, by rw [pings, paced]; rfl⟩

end World
end FixProxy
