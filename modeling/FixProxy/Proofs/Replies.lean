import Mathlib.Data.List.Infix
import FixProxy.Proofs.Authenticity
import FixProxy.Proofs.Feeds

/-! What the clients are told, against what is read. Each business message to a client is brought
about by one event: a message of upstream that is passed on, or a message of the session itself
that is turned down. They come in the order of these events. -/

namespace FixProxy
open Codec

def Output.told : Output → Option (Nat × Response)
  | .toClient session _ (.response value) => some (session, value)
  | _ => none

def Input.AsksUnder (session : Nat) (name : MappingName) (clientId : String) : Input → Prop
  | .read reader _ _ (.request request) => reader = session ∧ request.key = (name, clientId)
  | _ => False

/-- A message of upstream as a client is told it: with the client's part of its order ids and,
where it goes through a mapping, under an id with which the client has asked. -/
def Codec.Response.ToldAs (asked : MappingName → String → Prop) (value told : Response) : Prop :=
  match value.mapping with
  | some name => ∃ clientId, asked name clientId ∧ told = value.addressed name clientId
  | none => ∃ report, value = .executionReport report ∧ told = .executionReport report.translated

/-- What a session is told of its own message: that a request is refused, or that the type of
the message is not supported. -/
def Codec.FromClient.TurnedDown (message : FromClient) (told : Response) : Prop :=
  match message with
  | .request value => told.Declines value
  | .tradingSessionStatusRequest _ | .unexpected _ => ∃ reject, told = .businessMessageReject reject ∧
      reject.refMsgType = message.msgType ∧ reject.businessRejectReason = .unsupportedMessageType
  | _ => False

/-- The event, after some others, makes the proxy tell this session this message. -/
def Input.Accounts (earlier : List Input) : Input → Nat × Response → Prop
  | .serverRead _ (.response value), (receiver, told) =>
    value.ToldAs (fun name clientId => ∃ input ∈ earlier, input.AsksUnder receiver name clientId) told
  | .read session _ _ message, (receiver, told) => receiver = session ∧ message.TurnedDown told
  | _, _ => False

/-- The last event of a history accounts for the message. -/
def Brings (history : List Input) (told : Nat × Response) : Prop :=
  ∃ earlier input, history = earlier ++ [input] ∧ input.Accounts earlier told

/-- The deed says nothing of any request. -/
def Deed.Mute : Deed → Prop
  | .say (.response _) | .dismiss (.response _) => False
  | _ => True

private theorem Deed.mute_of_refuses {deed : Deed} (refuses : deed.Refuses) : deed.Mute := by
  cases deed with
  | dismiss message =>
    cases message with
    | response => exact refuses.elim
    | _ => trivial
  | _ => exact refuses.elim

namespace Roster
variable {before after : Roster} {session : Nat} {deed : Deed}

/-- The business messages that sessions have been handed, oldest first. -/
def told (roster : Roster) : List (Nat × Response) := roster.log.filterMap Output.told

private theorem told_append {roster : Roster} {outputs : List Output} (silent : ∀ output ∈ outputs, output.told = none) :
    (roster.log ++ outputs).filterMap Output.told = roster.told := by
  rw [List.filterMap_append, List.filterMap_eq_nil_iff.mpr silent, List.append_nil, told]

private theorem told_of_client {output : Output} (upstream : output.client = none) : output.told = none := by
  cases output <;> first | rfl | cases upstream

private theorem told_bury (client : Client.Session) {partings : List Output} (parting : ∀ output ∈ partings, output.Parting)
    (roster : Roster) : (roster.bury session client partings).told = roster.told :=
  told_append fun output member => told_of_client (client_of_parting (parting output member))

private theorem Does.told_of_mute (does : Does session before deed after) (mute : deed.Mute) : after.told = before.told := by
  have spoken {outputs : List Output} (silent : ∀ output ∈ outputs, output.told = none) :
      (before.log ++ outputs).filterMap Output.told = before.told := told_append silent
  have speaks {message : ToClient} (plain : (Deed.say message).Mute) (client : Client.Session) :
      (before.say session client message).told = before.told := by
    refine spoken fun output member => ?_
    rw [List.mem_singleton.mp member]
    cases message with
    | response => exact plain.elim
    | _ => rfl
  have shuts (roster : Roster) : (roster.shut session).told = roster.told := told_append (by simp [Output.told])
  cases does with
  | rest => rfl
  | say held => exact speaks mute _
  | @dismiss client message partings held alive parting =>
    have plain : (Deed.say message).Mute := by
      cases message with
      | response => exact mute.elim
      | _ => trivial
    rw [told_bury _ parting, shuts, speaks plain]
  | leave held alive parting => rw [told_bury _ parting, shuts]
  | vanish held alive parting => exact told_bury _ parting before
  | _ => exact spoken (by simp [Output.told])

private theorem Acts.told_of_mute (acts : Acts session deed before after) (mute : deed.Mute) : after.told = before.told := by
  obtain ⟨first, last, head, does, rest⟩ := acts
  have done := does.told_of_mute mute
  unfold told at done ⊢
  rw [rest.log, done, head.log]

private theorem Turn.told_of_mute {allowed : Client.Session → Deed → Prop} (turn : Turn allowed before session after)
    (mute : ∀ client deed, allowed client deed → deed.Mute) : after.told = before.told := by
  cases held : before.session session with
  | none =>
    unfold Turn at turn
    rw [held] at turn
    rw [turn]
  | some client =>
    obtain ⟨deed, allowed, acts⟩ := turn.of_held held
    exact acts.told_of_mute (mute client deed allowed)

end Roster

namespace World
variable {env : Env} {users : Map String (String × Nat)} {realtime : Nat} {before after world : World} {input : Input}
  {inputs : List Input} {session : Nat} {client : Client.Session} {deed : Deed}

/-- The business messages that the clients have been told, oldest first. -/
def told (world : World) : List (Nat × Response) := world.roster.told

private theorem told_log {outputs : List Output} (log : after.controller.log = before.controller.log ++ outputs) :
    after.told = before.told ++ outputs.filterMap Output.told := by
  have added : after.roster.log = before.roster.log ++ outputs := log
  rw [told, Roster.told, added, List.filterMap_append, told, Roster.told]

private theorem told_quietly (step : Step env before input after) (reachable : Reachable env before)
    (mute : ∀ session client deed, before.Allows env input session client deed → deed.Mute) : after.told = before.told := by
  obtain ⟨⟨first, sessions, last, ⟨outputs, own, rfl⟩, -, -, run, settles⟩, -⟩ := step.round reachable
  have opened : (before.roster.tellAll outputs).told = before.told :=
    Roster.told_append fun output member => Roster.told_of_client (Roster.client_of_own (own output member))
  have turned : last.told = before.told :=
    run.preserves (fun roster => roster.told = before.told)
      (fun {_ session _} turn same => (turn.told_of_mute (mute session)).trans same) opened
  rw [told, Roster.told, (gone_of_settles settles).1]
  exact turned

private theorem mute_of_heeds {clock : Clock} {header : Header} {shared : Shared} {message : FromClient}
    (heeds : client.Heeds env clock header shared session message deed)
    (unasked : ∀ request, message = .request request → client.state ≠ .ready)
    (supported : (∀ tradSesReqId, message ≠ .tradingSessionStatusRequest tradSesReqId) ∧
      ∀ msgType, message ≠ .unexpected msgType) : deed.Mute := by
  unfold Client.Session.Heeds at heeds
  cases message with
  | tradingSessionStatusRequest tradSesReqId => exact absurd rfl (supported.1 tradSesReqId)
  | unexpected msgType => exact absurd rfl (supported.2 msgType)
  | request request =>
    cases state : client.state with
    | ready => exact absurd state (unasked request rfl)
    | waitingLogon | waitingCreateRoute =>
      rw [state] at heeds
      exact Deed.mute_of_refuses heeds
    | waitingRemoveRoute | zombie =>
      rw [state] at heeds
      exact heeds ▸ trivial
  | logon value =>
    cases state : client.state with
    | waitingLogon =>
      rw [state] at heeds
      rcases heeds with refuses | ⟨-, strategyId, shared, accepted, rfl⟩
      · exact Deed.mute_of_refuses refuses
      · trivial
    | waitingCreateRoute | ready =>
      rw [state] at heeds
      exact Deed.mute_of_refuses heeds
    | waitingRemoveRoute | zombie =>
      rw [state] at heeds
      exact heeds ▸ trivial
  | _ =>
    cases state : client.state <;> rw [state] at heeds
    all_goals first | exact heeds ▸ trivial | exact Deed.mute_of_refuses heeds

private theorem mute_of_allows (allowed : before.Allows env input session client deed)
    (unanswered : ∀ msgSeqNum value, input ≠ .serverRead msgSeqNum (.response value))
    (unread : ∀ session clock header message, input ≠ .read session clock header message) : deed.Mute := by
  cases input with
  | timer now =>
    obtain rfl := allowed
    unfold Client.Session.tick
    split
    all_goals first | trivial | (split <;> first | trivial | (split <;> trivial))
  | read session clock header message => exact absurd rfl (unread session clock header message)
  | readError reader =>
    simp only [Allows, Client.Session.closing] at allowed
    split at allowed
    · split at allowed <;> exact allowed ▸ trivial
    · exact allowed ▸ trivial
  | disconnected other =>
    simp only [Allows, Client.Session.ending] at allowed
    split at allowed
    · split at allowed <;> exact allowed ▸ trivial
    · exact allowed ▸ trivial
  | serverDisconnected =>
    simp only [Allows, Client.Session.closing] at allowed
    split at allowed <;> exact allowed ▸ trivial
  | serverRead msgSeqNum message =>
    cases message with
    | response value => exact absurd rfl (unanswered msgSeqNum value)
    | userResponse response =>
      simp only [Allows] at allowed
      split at allowed
      · unfold Client.Session.Answers at allowed
        cases state : client.state <;> rw [state] at allowed
        all_goals first | exact allowed ▸ trivial | skip
        · simp only at allowed
          split at allowed <;> exact allowed ▸ trivial
        · rcases allowed with rfl | ⟨-, rfl⟩ <;> trivial
      · exact allowed ▸ trivial
    | _ => exact allowed ▸ trivial
  | _ => exact allowed ▸ trivial

private theorem told_response {msgSeqNum : Nat} {value : Response} (runs : Runs env users realtime inputs before)
    (step : Step env before (.serverRead msgSeqNum (.response value)) after) :
    after.told = before.told ∨ ∃ receiver told,
      value.ToldAs (fun name clientId => ∃ input ∈ inputs, input.AsksUnder receiver name clientId) told ∧
        after.told = before.told ++ [(receiver, told)] := by
  cases mapped : value.mapping with
  | some name =>
    obtain ⟨response, -, delivered⟩ := Controller.response_delivered env mapped { before.controller with
      serverSession := { before.controller.serverSession with inboundMsgSeqNum := msgSeqNum } }
    rw [← step.response] at delivered
    obtain silent | ⟨owner, clientId, keepAlive, client, number, found, held, ready, -⟩ := delivered
    · refine Or.inl ?_
      rw [told_log (silent.trans (List.append_nil _).symm), List.filterMap_nil, List.append_nil]
    · refine Or.inr ⟨owner, value.addressed name clientId, ?_, told_log (step.delivers mapped found held ready)⟩
      have entry : (before.view.index name).entry (value.id name) = some (owner, clientId, keepAlive) := found
      obtain ⟨earlier, clock, header, request, later, _, _, rfl, _, _, ⟨key, -⟩, -⟩ := entry_requested runs entry
      unfold Response.ToldAs
      rw [mapped]
      exact ⟨clientId, ⟨_, List.mem_append_right _ (List.mem_cons_self ..), rfl, key⟩, rfl⟩
  | none =>
    cases value with
    | businessMessageReject reject =>
      have internal : Controller.businessMessageRejectMapping reject.refMsgType = none := mapped
      have silent : after.controller.log = before.controller.log := by
        simp only [step.response, Controller.response, Controller.businessMessageReject, internal]
      refine Or.inl ?_
      rw [told_log (silent.trans (List.append_nil _).symm), List.filterMap_nil, List.append_nil]
    | executionReport report =>
      have sent := Controller.log_unmapped env mapped { before.controller with
        serverSession := { before.controller.serverSession with inboundMsgSeqNum := msgSeqNum } }
      rw [← step.response] at sent
      rw [told_log sent]
      unfold Controller.broadcasts
      split
      · exact Or.inl (List.append_nil _)
      · next receiver route =>
        split
        · exact Or.inl (List.append_nil _)
        · next client held =>
          split
          · refine Or.inr ⟨receiver, _, ?_, rfl⟩
            unfold Response.ToldAs
            rw [mapped]
            exact ⟨report, rfl, rfl⟩
          · exact Or.inl (List.append_nil _)
    | _ => cases mapped

private theorem told_unsupported {clock : Clock} {header : Header} {message : FromClient}
    (step : Step env before (.read session clock header message) after) (held : before.session session = some client)
    (unsupported : (∃ tradSesReqId, message = .tradingSessionStatusRequest tradSesReqId) ∨
      ∃ msgType, message = .unexpected msgType) :
    after.told = before.told ∨ ∃ told, message.TurnedDown told ∧ after.told = before.told ++ [(session, told)] := by
  have performed := step.performed
  have found : before.controller.sessions.find session = some client := held
  by_cases zombie : client.state = .zombie
  · simp only [FixProxy.step, Client.read, Client.withSession, found, zombie, if_true, Outcome.done.injEq] at performed
    exact Or.inl (by rw [told, World.roster, ← performed, told, World.roster])
  · obtain ⟨seen, reads, -⟩ : ∃ seen, (Client.received header session before.controller).sessions.find session = some seen ∧
        seen.state = client.state ∧ seen.partyId = client.partyId := Client.received_find found
    have tells {reply : Response} (sent : (Client.received header session before.controller).sendToClient session
        (.response reply) = after.controller) : after.told = before.told ++ [(session, reply)] := by
      refine @told_log _ _ [.toClient session (seen.outboundMsgSeqNum + 1) (.response reply)] ?_
      rw [← sent]
      simp only [Controller.sendToClient, reads]
      rfl
    obtain ⟨tradSesReqId, rfl⟩ | ⟨msgType, rfl⟩ := unsupported
    · simp only [FixProxy.step, Client.read, Client.withSession, found, zombie, if_false, Client.parse] at performed
      exact Or.inr ⟨_, ⟨_, rfl, rfl, rfl⟩, tells (Outcome.done.inj performed)⟩
    · simp only [FixProxy.step, Client.read, Client.withSession, found, zombie, if_false, Client.parse] at performed
      exact Or.inr ⟨_, ⟨_, rfl, rfl, rfl⟩, tells (Outcome.done.inj performed)⟩

/-- A message of a session makes the proxy tell this session one thing at most. -/
private theorem told_read {clock : Clock} {header : Header} {message : FromClient}
    (step : Step env before (.read session clock header message) after) (reachable : Reachable env before) :
    after.told = before.told ∨ ∃ told, message.TurnedDown told ∧ after.told = before.told ++ [(session, told)] := by
  cases held : before.session session with
  | none =>
    have turn := step.reads reachable
    have absent : before.roster.session session = none := held
    unfold Roster.Turn at turn
    rw [absent] at turn
    exact Or.inl (by rw [told, turn, told])
  | some client =>
    by_cases unsupported : (∃ tradSesReqId, message = .tradingSessionStatusRequest tradSesReqId) ∨
        ∃ msgType, message = .unexpected msgType
    · exact told_unsupported step held unsupported
    · by_cases asked : (∃ request, message = .request request) ∧ client.state = .ready
      · obtain ⟨⟨request, rfl⟩, ready⟩ := asked
        rcases step.disposes (consistent_of_reachable reachable) held ready with forwards | ⟨⟨number, reply, declines, log⟩, -⟩
        · obtain ⟨_, -, number, serverId, log⟩ := forwards
          exact Or.inl ((told_log log).trans (List.append_nil _))
        · cases reply with
          | response told => exact Or.inr ⟨told, declines, told_log log⟩
          | _ => exact declines.elim
      · obtain ⟨deed, heeds, acts⟩ := (step.reads reachable).of_held held
        refine Or.inl (acts.told_of_mute (mute_of_heeds heeds (fun request same ready => asked ⟨⟨request, same⟩, ready⟩) ?_))
        exact ⟨fun tradSesReqId same => unsupported (Or.inl ⟨tradSesReqId, same⟩),
          fun msgType same => unsupported (Or.inr ⟨msgType, same⟩)⟩

private theorem told_step (runs : Runs env users realtime inputs before) (step : Step env before input after) :
    after.told = before.told ∨ ∃ told, Brings (inputs ++ [input]) told ∧ after.told = before.told ++ [told] := by
  have reachable : Reachable env before := ⟨users, realtime, inputs, runs⟩
  by_cases answered : ∃ msgSeqNum value, input = .serverRead msgSeqNum (.response value)
  · obtain ⟨msgSeqNum, value, rfl⟩ := answered
    refine (told_response runs step).imp_right fun ⟨receiver, told, toldAs, added⟩ => ⟨(receiver, told), ?_, added⟩
    exact ⟨inputs, _, rfl, toldAs⟩
  · by_cases read : ∃ session clock header message, input = .read session clock header message
    · obtain ⟨session, clock, header, message, rfl⟩ := read
      refine (told_read step reachable).imp_right fun ⟨told, turned, added⟩ => ⟨(session, told), ?_, added⟩
      exact ⟨inputs, _, rfl, rfl, turned⟩
    · refine Or.inl (told_quietly step reachable fun session client deed allowed => mute_of_allows allowed ?_ ?_)
      · exact fun msgSeqNum value same => answered ⟨msgSeqNum, value, same⟩
      · exact fun session clock header message same => read ⟨session, clock, header, message, same⟩

/-- The business messages that the clients see are brought about by some of the events, in the
order of these events and by each of them at most once. -/
theorem replies_accounted (runs : Runs env users realtime inputs world) :
    ∃ causes : List (List Input), causes.Sublist inputs.inits ∧ List.Forall₂ Brings causes world.told := by
  refine runs.history (fun inputs world => ∃ causes : List (List Input), causes.Sublist inputs.inits ∧
    List.Forall₂ Brings causes world.told) ⟨[], List.nil_sublist _, .nil⟩ ?_
  intro inputs input before after run step accounted
  obtain ⟨causes, order, accounts⟩ := accounted
  have grown : (inputs ++ [input]).inits = inputs.inits ++ [inputs ++ [input]] := by simp [List.inits_append]
  rw [grown]
  rcases told_step run step with silent | ⟨told, brings, added⟩
  · exact ⟨causes, order.trans (List.sublist_append_left ..), silent ▸ accounts⟩
  · refine ⟨causes ++ [inputs ++ [input]], order.append (List.Sublist.refl _), ?_⟩
    rw [added]
    exact List.rel_append accounts (.cons brings .nil)

/-- A session is told once that the id of its subscription is in use, for its second request. -/
theorem replies_accounted_duplicate : ∃ world cause told,
    RunsUnder Regular Deployment.env Deployment.users 0
      (Deployment.subscribed ++ [Deployment.asks 1 (Deployment.marketData "AAAA" .snapshotUpdates)]) world ∧
    told = Response.marketDataRequestReject
      { mdReqId := "AAAA", mdReqRejReason := .duplicateMdReqId, text := Texts.duplicateMdReqId } ∧
    world.told = [(1, told)] ∧ Brings cause (1, told) := by
  obtain ⟨world, runs, checked⟩ := exists_run_of_replay Regular Deployment.env Deployment.users 0
    (Deployment.subscribed ++ [Deployment.asks 1 (Deployment.marketData "AAAA" .snapshotUpdates)])
    (fun world => world.told == [(1, .marketDataRequestReject
      { mdReqId := "AAAA", mdReqRejReason := .duplicateMdReqId, text := Texts.duplicateMdReqId })]) (by decide +kernel)
  have log := beq_iff_eq.mp checked
  obtain ⟨causes, -, accounts⟩ := replies_accounted (runs_of_runsUnder runs)
  rw [log] at accounts
  obtain ⟨cause, rest, brings, -, -⟩ := List.forall₂_cons_right_iff.mp accounts
  exact ⟨world, cause, _, runs, rfl, log, brings⟩

end World
end FixProxy
