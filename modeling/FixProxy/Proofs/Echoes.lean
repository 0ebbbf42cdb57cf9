import FixProxy.Deployment
import FixProxy.Proofs.Fates

/-! Test requests of a client. Each is answered by one heartbeat with its id, in the order in
which they came, and nothing else makes the proxy send a heartbeat. -/

namespace FixProxy
open Codec

def Output.echo (session : Nat) : Output → Option String
  | .toClient receiver _ (.heartbeat testReqId) => if receiver = session then some testReqId else none
  | _ => none

def Input.probe (session : Nat) : Input → Option String
  | .read reader _ _ (.testRequest testReqId) => if reader = session then some testReqId else none
  | _ => none

def Codec.ToClient.echo : ToClient → Option String
  | .heartbeat testReqId => some testReqId
  | _ => none

def Deed.echo : Deed → Option String
  | .say message | .dismiss message => message.echo
  | _ => none

private theorem Output.client_of_echo {output : Output} {session : Nat} {testReqId : String}
    (echo : output.echo session = some testReqId) : output.client = some session := by
  unfold Output.echo at echo
  split at echo
  · split at echo
    · next own => exact congrArg some own
    · cases echo
  · cases echo

namespace Deed

private theorem echo_outputs (deed : Deed) (session msgSeqNum : Nat) :
    (deed.outputs session msgSeqNum).filterMap (Output.echo session) = deed.echo.toList := by
  cases deed with
  | say message => cases message <;> simp [outputs, Output.echo, echo, ToClient.echo]
  | dismiss message => cases message <;> simp [outputs, Output.echo, echo, ToClient.echo]
  | _ => rfl

private theorem echo_of_refuses {deed : Deed} (refuses : deed.Refuses) : deed.echo = none := by
  cases deed with
  | dismiss message =>
    cases message with
    | reject => rfl
    | _ => exact refuses.elim
  | _ => exact refuses.elim

end Deed

namespace World
variable {env : Env} {before after first last : World} {session : Nat} {client : Client.Session} {input : Input}
  {inputs : List Input} {deed : Deed}

/-- The ids of the heartbeats that a session has been sent, oldest first. -/
def echoed (world : World) (session : Nat) : List String := world.controller.log.filterMap (Output.echo session)

theorem observed_eq_heard {α : Type u} {observe : Output → Option α}
    (own : ∀ output value, observe output = some value → output.client = some session) (world : World) :
    world.controller.log.filterMap observe = (world.roster.heard session).filterMap observe := by
  rw [Roster.heard, List.filterMap_filter]
  refine List.filterMap_congr fun output _ => ?_
  cases observed : observe output with
  | none => simp
  | some value => simp [own output value observed]

private theorem echoed_eq_heard (world : World) :
    world.echoed session = (world.roster.heard session).filterMap (Output.echo session) :=
  observed_eq_heard (fun _ _ => Output.client_of_echo) world

/-- The session has sent its credentials and has not logged out. -/
def Online (world : World) (session : Nat) : Prop :=
  ∃ client, world.session session = some client ∧ (client.state = .waitingCreateRoute ∨ client.state = .ready)

private theorem echo_of_heeds {clock : Clock} {header : Header} {shared : Shared} {message : FromClient}
    (online : client.state = .waitingCreateRoute ∨ client.state = .ready)
    (heeds : client.Heeds env clock header shared session message deed) :
    deed.echo = (Input.read session clock header message).probe session := by
  unfold Client.Session.Heeds at heeds
  rcases online with waiting | ready
  · rw [waiting] at heeds
    cases message with
    | reject => exact heeds ▸ rfl
    | testRequest testReqId => rw [heeds]; simp [Deed.echo, ToClient.echo, Input.probe]
    | tradingSessionStatusRequest | unexpected =>
      obtain ⟨value, rfl⟩ := heeds
      rfl
    | _ => exact Deed.echo_of_refuses heeds
  · rw [ready] at heeds
    cases message with
    | testRequest testReqId => rw [heeds]; simp [Deed.echo, ToClient.echo, Input.probe]
    | tradingSessionStatusRequest | unexpected =>
      obtain ⟨value, rfl⟩ := heeds
      rfl
    | request request =>
      rcases heeds with ⟨response, rfl⟩ | ⟨-, sent, rfl, -⟩ <;> rfl
    | resendRequest | logon => exact Deed.echo_of_refuses heeds
    | _ => exact heeds ▸ rfl

private theorem echo_of_allows (online : client.state = .waitingCreateRoute ∨ client.state = .ready)
    (allowed : before.Allows env input session client deed) : deed.echo = input.probe session := by
  cases input with
  | timer now =>
    obtain rfl := allowed
    rcases online with state | state
    · simp only [Client.Session.tick, state]
      split <;> rfl
    · simp only [Client.Session.tick, state]
      split
      · split <;> rfl
      · rfl
  | read reader clock header message =>
    simp only [Allows] at allowed
    split at allowed
    · next same =>
      subst same
      exact echo_of_heeds online allowed
    · next other =>
      have foreign : reader ≠ session := Ne.symm other
      rw [allowed]
      cases message <;> simp [Deed.echo, Input.probe, foreign]
  | readError reader =>
    simp only [Allows, Client.Session.closing] at allowed
    split at allowed
    · split at allowed <;> exact allowed ▸ rfl
    · exact allowed ▸ rfl
  | disconnected other =>
    simp only [Allows, Client.Session.ending] at allowed
    split at allowed
    · split at allowed <;> exact allowed ▸ rfl
    · exact allowed ▸ rfl
  | serverDisconnected =>
    simp only [Allows, Client.Session.closing] at allowed
    split at allowed <;> exact allowed ▸ rfl
  | serverRead msgSeqNum message =>
    cases message with
    | response value => rcases allowed with rfl | ⟨-, response, rfl⟩ <;> rfl
    | userResponse response =>
      simp only [Allows] at allowed
      split at allowed
      · unfold Client.Session.Answers at allowed
        rcases online with state | state
        · rw [state] at allowed
          simp only at allowed
          split at allowed <;> exact allowed ▸ rfl
        · rw [state] at allowed
          exact allowed ▸ rfl
      · exact allowed ▸ rfl
    | _ => exact allowed ▸ rfl
  | _ => exact allowed ▸ rfl

private theorem echoed_step (step : Step env before input after) (reachable : Reachable env before)
    (online : before.Online session) :
    after.echoed session = before.echoed session ++ (input.probe session).toList := by
  obtain ⟨client, held, state⟩ := online
  obtain ⟨plays, registered⟩ := step.round reachable
  obtain ⟨deed, last, allowed, fate⟩ := plays.fate registered held
  obtain ⟨msgSeqNum, heard⟩ := fate.heard
  rw [echoed_eq_heard, heard, List.filterMap_append, Deed.echo_outputs, echo_of_allows state allowed, echoed_eq_heard]

/-- From its logon to its logout a session is sent one heartbeat for each test request it sends,
with the same ids in the same order, and no other. -/
theorem probes_echoed (reachable : Reachable env first)
    (run : Run (fun before input after => Step env before input after ∧ before.Online session) first inputs last) :
    last.echoed session = first.echoed session ++ inputs.filterMap (Input.probe session) := by
  have grows : Run (fun before input after => after.echoed session = before.echoed session ++ (input.probe session).toList)
      first inputs last :=
    run.mono_of (Reachable env) (fun ⟨step, _⟩ reachable => reachable.step step)
      (fun ⟨step, online⟩ reachable => echoed_step step reachable online) reachable
  have collected := grows.collects (fun world : World => world.echoed session)
    (fun input : Input => (input.probe session).toList) fun grown => grown
  rw [collected, List.filterMap_eq_flatMap_toList]

theorem probes_echoed_loggedOn : ∃ first last,
    RunsUnder Regular Deployment.env Deployment.users 0 Deployment.loggedOn first ∧
      Step Deployment.env first (Deployment.sends 1 (.testRequest "T")) last ∧
      last.echoed 1 = first.echoed 1 ++ ["T"] := by
  obtain ⟨first, last, runs, -, step, checked⟩ := exists_step_of_replay Regular Deployment.env Deployment.users 0
    Deployment.loggedOn (Deployment.sends 1 (.testRequest "T"))
    (fun first _ => (first.session 1).any fun client => client.state == .ready) (by decide +kernel)
  simp only [beq_iff_eq, Option.any_eq_true] at checked
  obtain ⟨client, held, ready⟩ := checked
  exact ⟨first, last, runs, step,
    probes_echoed (reachable_of_runsUnder runs) (.single ⟨step, client, held, Or.inr ready⟩)⟩

end World
end FixProxy
