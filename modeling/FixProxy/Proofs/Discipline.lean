import FixProxy.Deployment
import FixProxy.Proofs.Fates

/-! What a client hears in which state. Two handlers answer without a look at the state:
a test request is answered before the logon is, and an unexpected message in any state. -/

namespace FixProxy
open Codec
open Roster (Fate)

namespace World
variable {env : Env} {before after world : World} {input : Input} {session : Nat} {users : Map String (String × Nat)}
  {realtime : Nat} {inputs : List Input}

/-- What one event hands to the connection of a session, by the state it is in: nothing; a
message while it is ready; the logon that makes it ready; or its end, with a Reject or a
Logout before it or none. -/
def Conduct (before : World) (session : Nat) (after : World) : Prop :=
  ∃ outputs, after.roster.heard session = before.roster.heard session ++ outputs ∧
    (outputs = [] ∨ ∃ client, before.session session = some client ∧
      ((client.state = .ready ∧ (∃ last, after.session session = some last ∧ last.state = .ready) ∧
          ∃ msgSeqNum message, outputs = [.toClient session msgSeqNum message]) ∨
        (client.state = .waitingCreateRoute ∧ (∃ last, after.session session = some last ∧ last.state = .ready) ∧
          ∃ msgSeqNum message, outputs = [.toClient session msgSeqNum (.logon message)]) ∨
        (client.state ≠ .zombie ∧ ¬ after.Alive session ∧
          (outputs = [.closeClient session] ∨
            ∃ msgSeqNum message, message.Final ∧ outputs = [.toClient session msgSeqNum message, .closeClient session]))))

/-- The message is not one that is answered out of turn. -/
def Proper (before : World) (input : Input) : Prop :=
  ∀ session clock header message client, input = .read session clock header message →
    before.session session = some client → ¬ message.Stray client.state

private theorem conduct_of_proper (step : Step env before input after) (reachable : Reachable env before)
    (proper : before.Proper input) (session : Nat) : Conduct before session after := by
  cases held : before.session session with
  | none => exact ⟨[], by simpa using (step.absent reachable held).heard, Or.inl rfl⟩
  | some client =>
    obtain ⟨deed, last, scene, fate⟩ := step.fate reachable held
    obtain ⟨msgSeqNum, heard⟩ := fate.heard
    refine ⟨_, heard, ?_⟩
    cases scene with
    | rest | enlist | depart | pass => exact Or.inl rfl
    | ends ends alive final =>
      have dead : ¬ after.Alive session := not_alive_of_fate fate (fate.state.trans (Deed.leads_of_ends ends _))
      cases deed with
      | dismiss message =>
        exact Or.inr ⟨client, held, Or.inr (Or.inr ⟨alive, dead, Or.inr ⟨_, message, final message rfl, rfl⟩⟩)⟩
      | leave => exact Or.inr ⟨client, held, Or.inr (Or.inr ⟨alive, dead, Or.inl rfl⟩)⟩
      | vanish => exact Or.inl rfl
      | _ => exact ends.elim
    | say message ready =>
      have state : last.state = .ready := fate.state.trans ready
      have still := kept_of_fate fate (by simp [state])
      exact Or.inr ⟨client, held, Or.inl ⟨ready, ⟨last, still, state⟩, _, message, rfl⟩⟩
    | stray answer read stray => exact absurd stray (proper _ _ _ _ client read held)
    | welcome waiting answer confirmed asked =>
      have state : last.state = .ready := fate.state
      have still := kept_of_fate fate (by simp [state])
      exact Or.inr ⟨client, held, Or.inr (Or.inl ⟨waiting, ⟨last, still, state⟩, _, _, rfl⟩)⟩

private theorem says_of_stray {client : Client.Session} {clock : Clock} {header : Header} {shared : Shared}
    {message : FromClient}
    {deed : Deed} (heeds : client.Heeds env clock header shared session message deed) (stray : message.Stray client.state) :
    ∃ answer, deed = .say answer ∧ ∀ logon, answer ≠ .logon logon := by
  unfold Client.Session.Heeds at heeds
  cases message with
  | testRequest testReqId =>
    have waiting : client.state = .waitingCreateRoute := stray
    rw [waiting] at heeds
    exact ⟨_, heeds, fun _ same => nomatch same⟩
  | tradingSessionStatusRequest | unexpected =>
    obtain ⟨unready, alive⟩ := stray
    cases state : client.state with
    | ready => exact absurd state unready
    | zombie => exact absurd state alive
    | _ =>
      rw [state] at heeds
      obtain ⟨value, same⟩ := heeds
      exact ⟨_, same, fun _ same => nomatch same⟩
  | _ => exact stray.elim

private theorem proper_of_conduct (step : Step env before input after) (reachable : Reachable env before)
    (conduct : ∀ session, Conduct before session after) : before.Proper input := by
  rintro session clock header message client rfl held stray
  obtain ⟨plays, registered⟩ := step.round reachable
  obtain ⟨deed, last, allowed, fate⟩ := plays.fate registered held
  simp only [Allows, if_true] at allowed
  obtain ⟨answer, rfl, notLogon⟩ := says_of_stray allowed stray
  obtain ⟨msgSeqNum, said⟩ := fate.heard
  have unready : client.state ≠ .ready := by
    intro ready
    rw [ready] at stray
    cases message with
    | tradingSessionStatusRequest | unexpected => exact stray.1 rfl
    | testRequest => cases stray
    | _ => exact stray
  obtain ⟨outputs, heard, shape⟩ := conduct session
  obtain rfl : outputs = [.toClient session msgSeqNum answer] := List.append_cancel_left (heard.symm.trans said)
  obtain none | ⟨other, found, ready | logon | ends⟩ := shape
  · cases none
  · rw [held] at found
    cases found
    exact unready ready.1
  · obtain ⟨-, -, _, message, same⟩ := logon
    simp only [List.cons.injEq, Output.toClient.injEq, and_true, true_and] at same
    exact notLogon message same.2
  · obtain ⟨-, -, closed | ⟨_, _, _, closed⟩⟩ := ends
    · cases closed
    · cases closed

/-- Every message to a client is in its place exactly in the runs in which no message of a
client is answered out of turn. -/
theorem conduct_iff_proper : RunsUnder Proper env users realtime inputs world ↔
    Run (fun before input after => Step env before input after ∧ ∀ session, Conduct before session after)
      (create users realtime) inputs world := by
  have start : Reachable env (create users realtime) := ⟨users, realtime, [], .nil _⟩
  constructor
  · intro run
    refine run.mono_of (Reachable env) (fun performed reachable => reachable.step performed.2)
      (fun performed reachable => ?_) start
    exact ⟨performed.2, conduct_of_proper performed.2 reachable performed.1⟩
  · intro run
    refine run.mono_of (Reachable env) (fun performed reachable => reachable.step performed.1)
      (fun performed reachable => ?_) start
    exact ⟨proper_of_conduct performed.1 reachable performed.2, performed.1⟩

/-- A client whose logon is not yet answered sends a test request, and hears of it. -/
theorem testRequest_out_of_turn : ∃ world after, Runs Deployment.env Deployment.users 0 Deployment.arrived world ∧
    Step Deployment.env world (Deployment.sends 1 (.testRequest "ping")) after ∧ ¬ Conduct world 1 after := by
  obtain ⟨world, after, runs, -, step, checked⟩ := exists_step_of_replay Regular Deployment.env Deployment.users 0
    Deployment.arrived (Deployment.sends 1 (.testRequest "ping"))
    (fun world after => (world.session 1).any (·.state == .waitingCreateRoute) &&
      after.controller.log == world.controller.log ++ [.toClient 1 1 (.heartbeat "ping")]) (by decide +kernel)
  simp only [Bool.and_eq_true, beq_iff_eq, Option.any_eq_true] at checked
  obtain ⟨⟨client, held, waiting⟩, log⟩ := checked
  refine ⟨world, after, runs_of_runsUnder runs, step, ?_⟩
  rintro ⟨outputs, heard, shape⟩
  have said : after.roster.heard 1 = world.roster.heard 1 ++ [.toClient 1 1 (.heartbeat "ping")] := by
    have logs : after.roster.log = world.roster.log ++ [.toClient 1 1 (.heartbeat "ping")] := log
    rw [Roster.heard, logs, List.filter_append]
    rfl
  obtain rfl : outputs = [.toClient 1 1 (.heartbeat "ping")] := List.append_cancel_left (heard.symm.trans said)
  obtain none | ⟨other, found, ready | logon | ends⟩ := shape
  · cases none
  · rw [held] at found
    cases found
    rw [waiting] at ready
    cases ready.1
  · obtain ⟨-, -, _, message, same⟩ := logon
    simp at same
  · obtain ⟨-, -, closed | ⟨_, _, _, closed⟩⟩ := ends
    · cases closed
    · cases closed

end World
end FixProxy
