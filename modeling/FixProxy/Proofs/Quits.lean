import FixProxy.Proofs.ExactIndex
import FixProxy.Proofs.Usernames

/-! When a session that is logged on ends. Its record and the event decide it, and until then
it keeps its party. -/

namespace FixProxy
open Codec

private theorem Client.State.serving_iff {state : Client.State} :
    state.Serving ↔ state = .ready ∨ state = .waitingRemoveRoute := by
  cases state <;> simp [Client.State.Serving]

theorem Client.State.Serving.active {state : Client.State} (serving : state.Serving) : state.Active := by
  rcases Client.State.serving_iff.mp serving with same | same <;> simp [same, Client.State.Active]

theorem Client.State.Serving.alive {state : Client.State} (serving : state.Serving) : state ≠ .zombie :=
  (Client.State.active_iff.mp serving.active).2

/-- What a session that is logged on does not outlive. -/
def Codec.FromClient.Expels (state : Client.State) : FromClient → Prop
  | .reject | .resendRequest | .logon _ => True
  | .logout | .request _ => state = .waitingRemoveRoute
  | .testRequest _ | .heartbeat | .tradingSessionStatusRequest _ | .unexpected _ => False

instance (state : Client.State) : DecidablePred (FromClient.Expels state) := fun message => by
  unfold Codec.FromClient.Expels
  split <;> infer_instance

/-- The event ends the session, if it is logged on. -/
def Client.Session.Quits (before : World) (session : Nat) (client : Client.Session) : Input → Prop
  | .timer now => (client.tick now).Ends
  | .read reader _ _ message => reader = session ∧ message.Expels client.state
  | .readError other | .disconnected other => other = session
  | .serverDisconnected => True
  | .serverRead _ (.userResponse response) =>
    client.state = .waitingRemoveRoute ∧
      before.controller.subscriptions.user.serverToClient.find response.userRequestId = some session
  | _ => False

instance (before : World) (session : Nat) (client : Client.Session) : DecidablePred (client.Quits before session) :=
  fun input => match input with
  | .timer now => inferInstanceAs (Decidable (client.tick now).Ends)
  | .read reader _ _ message => inferInstanceAs (Decidable (reader = session ∧ message.Expels client.state))
  | .readError other | .disconnected other => inferInstanceAs (Decidable (other = session))
  | .serverDisconnected => isTrue trivial
  | .serverRead _ (.userResponse _) => inferInstanceAs (Decidable (_ ∧ _))
  | .serverRead _ .reject | .serverRead _ .resendRequest | .serverRead _ .unexpected | .serverRead _ .logon
  | .serverRead _ .logout | .serverRead _ .heartbeat | .serverRead _ (.testRequest _) | .serverRead _ (.response _)
  | .accept _ | .serverConnected | .authInsert _ _ _ | .authRemove _ => isFalse id

/-- What a session that waits for its route to be removed does not outlive. -/
def Codec.FromClient.Interrupts : FromClient → Prop
  | .reject | .resendRequest | .logon _ | .logout | .request _ => True
  | .testRequest _ | .heartbeat | .tradingSessionStatusRequest _ | .unexpected _ => False

instance : DecidablePred FromClient.Interrupts := fun message => by
  unfold Codec.FromClient.Interrupts
  split <;> infer_instance

/-- The session that waits for its route to be removed does not wait for the answer. -/
def Client.Session.GivesUp (session : Nat) (client : Client.Session) : Input → Prop
  | .timer now => client.userResponseTimeout < now
  | .read reader _ _ message => reader = session ∧ message.Interrupts
  | .readError other | .disconnected other => other = session
  | _ => False

instance (session : Nat) (client : Client.Session) : DecidablePred (client.GivesUp session) := fun input => by
  unfold Client.Session.GivesUp
  split <;> infer_instance

namespace World
variable {env : Env} {before after : World} {input : Input} {session : Nat} {client : Client.Session}

/-- A session that is held ends by the event. -/
def Loses (before : World) (session : Nat) (input : Input) : Prop :=
  ∃ client ∈ before.session session, client.Quits before session input

instance (before : World) (session : Nat) (input : Input) : Decidable (before.Loses session input) := by
  unfold Loses
  infer_instance

private theorem ends_iff_quits {deed : Deed} (allowed : before.Allows env input session client deed)
    (serving : client.state.Serving) : deed.Ends ↔ client.Quits before session input := by
  have idle {deed : Deed} (rest : deed = .rest) : ¬ deed.Ends := by
    subst rest
    exact id
  cases input with
  | timer now =>
    cases (allowed : deed = client.tick now)
    exact Iff.rfl
  | read reader clock header message =>
    simp only [Allows] at allowed
    split at allowed
    · next same =>
      subst same
      refine Iff.trans ?_ (and_iff_right rfl).symm
      unfold Client.Session.Heeds at allowed
      obtain ready | leaving := Client.State.serving_iff.mp serving
      · simp only [ready] at allowed ⊢
        have unexpelled : ¬ Client.State.ready = .waitingRemoveRoute := by decide
        cases message with
        | testRequest | heartbeat =>
          subst allowed
          exact Iff.rfl
        | logout =>
          subst allowed
          exact iff_of_false id unexpelled
        | tradingSessionStatusRequest | unexpected =>
          obtain ⟨value, rfl⟩ := allowed
          exact Iff.rfl
        | request request =>
          obtain ⟨response, rfl⟩ | ⟨-, sent, rfl, -⟩ := allowed
          · exact iff_of_false id unexpelled
          · exact iff_of_false id unexpelled
        | reject =>
          subst allowed
          exact Iff.rfl
        | resendRequest | logon => exact iff_of_true (by cases deed <;> trivial) trivial
      · simp only [leaving] at allowed ⊢
        cases message with
        | testRequest | heartbeat =>
          subst allowed
          exact Iff.rfl
        | tradingSessionStatusRequest | unexpected =>
          obtain ⟨value, rfl⟩ := allowed
          exact Iff.rfl
        | logout | request =>
          subst allowed
          exact iff_of_true trivial rfl
        | _ =>
          subst allowed
          exact Iff.rfl
    · next other => exact iff_of_false (idle allowed) fun quits => other quits.1.symm
  | readError other =>
    simp only [Allows, Client.Session.closing] at allowed
    split at allowed
    · next same => exact iff_of_true (by rw [allowed, if_neg serving.alive]; trivial) same.symm
    · next different => exact iff_of_false (idle allowed) fun same => different same.symm
  | disconnected other =>
    simp only [Allows, Client.Session.ending] at allowed
    split at allowed
    · next same => exact iff_of_true (by rw [allowed, if_neg serving.alive]; trivial) same.symm
    · next different => exact iff_of_false (idle allowed) fun same => different same.symm
  | serverDisconnected =>
    simp only [Allows, Client.Session.closing] at allowed
    exact iff_of_true (by rw [allowed, if_neg serving.alive]; trivial) trivial
  | serverRead msgSeqNum message =>
    cases message with
    | userResponse response =>
      simp only [Allows] at allowed
      split at allowed
      · next asked =>
        unfold Client.Session.Answers at allowed
        obtain ready | leaving := Client.State.serving_iff.mp serving
        · simp only [ready] at allowed
          refine iff_of_false (idle allowed) fun quits => ?_
          cases ready.symm.trans quits.1
        · simp only [leaving] at allowed
          refine iff_of_true ?_ ⟨leaving, asked⟩
          obtain rfl | ⟨-, rfl⟩ := allowed
          · trivial
          · trivial
      · next unasked => exact iff_of_false (idle allowed) fun quits => unasked quits.2
    | response value =>
      obtain rfl | ⟨-, response, rfl⟩ := allowed
      · exact Iff.rfl
      · exact Iff.rfl
    | _ => exact iff_of_false (idle allowed) id
  | _ => exact iff_of_false (idle allowed) id

theorem givesUp_of_allows {deed : Deed} (allowed : before.Allows env input session client deed) (ends : deed.Ends)
    (leaving : client.state = .waitingRemoveRoute) (silent : input.answer = none) (up : input ≠ .serverDisconnected) :
    client.GivesUp session input := by
  have quits := (ends_iff_quits allowed (by simp [leaving, Client.State.Serving])).mp ends
  cases input with
  | timer now =>
    simp only [Client.Session.Quits, Client.Session.tick, leaving] at quits
    split at quits
    · next late => exact late
    · exact quits.elim
  | read reader clock header message =>
    obtain ⟨same, expels⟩ := quits
    refine ⟨same, ?_⟩
    cases message with
    | testRequest | heartbeat | tradingSessionStatusRequest | unexpected => exact expels
    | _ => trivial
  | readError | disconnected => exact quits
  | serverDisconnected => exact absurd rfl up
  | serverRead msgSeqNum message =>
    cases message with
    | userResponse response => cases silent
    | _ => exact quits.elim
  | _ => exact quits.elim

/-- A session that is logged on is dead after an event exactly if the event ends it. -/
theorem Step.alive_iff (step : Step env before input after) (reachable : Reachable env before)
    (held : before.session session = some client) (serving : client.state.Serving) :
    after.Alive session ↔ ¬ before.Loses session input := by
  obtain ⟨plays, registered⟩ := step.round reachable
  obtain ⟨deed, last, allowed, fate⟩ := plays.fate registered held
  have ends : deed.Ends ↔ before.Loses session input := by
    refine (ends_iff_quits allowed serving).trans ⟨fun quits => ⟨client, held, quits⟩, ?_⟩
    rintro ⟨other, found, quits⟩
    rw [Option.mem_def, held] at found
    cases found
    exact quits
  rw [← ends]
  constructor
  · intro alive ended
    exact not_alive_of_fate fate (fate.state.trans (Deed.leads_of_ends ended _)) alive
  · intro lives
    obtain ⟨kept, alive⟩ := alive_of_fate fate lives serving.alive
    exact ⟨last, kept, alive⟩

theorem Step.serves (step : Step env before input after) (reachable : Reachable env before)
    (held : before.session session = some client) (serving : client.state.Serving) {last : Client.Session}
    (heldAfter : after.session session = some last) (alive : last.state ≠ .zombie) :
    last.state.Serving ∧ last.partyId = client.partyId ∧ (last.state = .ready → client.state = .ready) := by
  obtain ⟨deed, settled, scene, fate⟩ := step.fate reachable held
  have lives : settled.state ≠ .zombie := fun zombie => not_alive_of_fate fate zombie ⟨last, heldAfter, alive⟩
  obtain rfl : settled = last := Option.some.inj ((kept_of_fate fate lives).symm.trans heldAfter)
  obtain ⟨-, -, party⟩ := who_of_fate scene fate held serving.active alive
  have state := fate.state
  cases scene with
  | rest | say | stray | pass => exact ⟨state ▸ serving, party, fun ready => state.symm.trans ready⟩
  | depart =>
    refine ⟨state ▸ trivial, party, fun ready => ?_⟩
    rw [state] at ready
    cases ready
  | ends ends => exact absurd (state.trans (Deed.leads_of_ends ends _)) alive
  | enlist accepts =>
    obtain ⟨_, _, _, other, _, -, -, found, arriving, -⟩ := accepts
    rw [held] at found
    cases found
    rw [arriving] at serving
    exact serving.elim
  | welcome waiting =>
    rw [waiting] at serving
    exact serving.elim

end World
end FixProxy
