import FixProxy.Proofs.Echoes
import FixProxy.Proofs.Gate
import FixProxy.Proofs.KeepAlive
import FixProxy.Proofs.Outcomes

/-! The responses that a session is given, and among them the data of its subscriptions. What
upstream sends under the server id of a subscription with updates reaches its session once, in
the same order, under its own id; nothing else does. -/

namespace FixProxy
open Codec

def Output.response (session : Nat) : Output → Option Response
  | .toClient receiver _ (.response value) => if receiver = session then some value else none
  | _ => none

def World.given (world : World) (session : Nat) : List Response := world.controller.log.filterMap (Output.response session)

private theorem Output.client_of_response {output : Output} {session : Nat} {value : Response}
    (response : output.response session = some value) : output.client = some session := by
  unfold Output.response at response
  split at response
  · split at response
    · next own => exact congrArg some own
    · cases response
  · cases response

/-- An execution report as its client sees it: the client's part of each order id. -/
def Codec.ExecutionReport.translated (value : ExecutionReport) : ExecutionReport :=
  { value with clOrdId := getClientClOrdId value.clOrdId, origClOrdId := getClientClOrdId value.origClOrdId }

namespace Controller
variable {controller middle after : Controller}

def Retabled (before after : Controller) : Prop := ∃ clOrdId, after = { before with clOrdId }

theorem Retabled.refl (controller : Controller) : Retabled controller controller := ⟨controller.clOrdId, rfl⟩

theorem Retabled.trans (head : Retabled controller middle) (rest : Retabled middle after) : Retabled controller after := by
  obtain ⟨first, rfl⟩ := head
  obtain ⟨last, rfl⟩ := rest
  exact ⟨last, rfl⟩

private theorem ensureClOrdId_retabled (clOrdId : String) (ordStatus : OrdStatus) (controller : Controller) :
    Retabled controller (controller.ensureClOrdId clOrdId ordStatus) := by
  unfold ensureClOrdId
  split
  · exact .refl _
  · exact ⟨_, rfl⟩

private theorem removeClOrdId_retabled (env : Env) (clOrdId : String) (controller : Controller) :
    Retabled controller (controller.removeClOrdId env clOrdId) := by
  unfold removeClOrdId
  split
  · exact .refl _
  · split
    · exact .refl _
    · exact ⟨_, rfl⟩

/-- What a broadcast hands to the client that it finds. -/
def broadcasts (response : Response) (clientId : String) (controller : Controller) : List Output :=
  match controller.subscriptions.user.clientToSession.find clientId with
  | none => []
  | some session =>
    match controller.sessions.find session with
    | none => []
    | some client =>
      if client.state = .ready then [.toClient session (client.outboundMsgSeqNum + 1) (.response response)] else []

private theorem log_broadcast (response : Response) (clientId : String) (controller : Controller) :
    (controller.broadcast response clientId).log = controller.log ++ controller.broadcasts response clientId := by
  unfold broadcast broadcasts
  cases controller.subscriptions.user.clientToSession.find clientId with
  | none => exact (List.append_nil _).symm
  | some session =>
    simp only [dispatchToClient]
    cases held : controller.sessions.find session with
    | none => exact (List.append_nil _).symm
    | some client =>
      simp only
      split
      · simp [sendToClient, held]
      · exact (List.append_nil _).symm

/-- A report that goes through no mapping is broadcast to the client of its party. -/
theorem log_unmapped (env : Env) {value : ExecutionReport} (unmapped : (Response.executionReport value).mapping = none)
    (controller : Controller) :
    (controller.response env (.executionReport value)).log =
      controller.log ++ controller.broadcasts (.executionReport value.translated) (getClientFromParties value.noPartyIds) := by
  simp only [Response.mapping] at unmapped
  split at unmapped
  · cases unmapped
  · next status =>
    split at unmapped
    · cases unmapped
    · next massStatus =>
      split at unmapped
      · cases unmapped
      · next accepted =>
        simp only [Controller.response, executionReport, if_neg status, if_neg massStatus, if_neg accepted]
        have removed (broadcasting : Controller) : (if isPending value.execType = true then broadcasting
            else broadcasting.removeReqId .clOrdId value.clOrdId).log = broadcasting.log := by
          split
          · rfl
          · exact log_removeReqId ..
        rw [removed]
        have passed {after : Controller} (retabled : Retabled controller after) :
            (after.broadcast (.executionReport value.translated) (getClientFromParties value.noPartyIds)).log =
              controller.log ++
                controller.broadcasts (.executionReport value.translated) (getClientFromParties value.noPartyIds) := by
          obtain ⟨clOrdId, rfl⟩ := retabled
          exact log_broadcast ..
        apply passed
        have recorded : Retabled controller (if env.library.isOrderComplete value.ordStatus = true
            then controller.removeClOrdId env value.clOrdId
            else if isPending value.execType = true then controller.ensureClOrdId value.clOrdId value.ordStatus
            else controller) := by
          split
          · exact removeClOrdId_retabled ..
          · split
            · exact ensureClOrdId_retabled ..
            · exact .refl _
        split
        · exact recorded.trans (removeClOrdId_retabled ..)
        · exact recorded

end Controller

/-- What a session is told beside responses to its requests. -/
def Codec.ToClient.Plain : ToClient → Prop
  | .response (.businessMessageReject _) => True
  | .response _ => False
  | _ => True

namespace Deed

/-- The deeds that give their session no response but a business reject. -/
def Plain : Deed → Prop
  | .say message | .dismiss message => message.Plain
  | _ => True

private theorem plain_of_refuses {deed : Deed} (refuses : deed.Refuses) : deed.Plain := by
  cases deed with
  | dismiss message =>
    cases message with
    | reject => trivial
    | _ => exact refuses.elim
  | _ => exact refuses.elim

private theorem response_of_plain {deed : Deed} (plain : deed.Plain) {session msgSeqNum : Nat} {output : Output}
    (member : output ∈ deed.outputs session msgSeqNum) {value : Response} (given : output.response session = some value) :
    ∃ reject, value = .businessMessageReject reject := by
  have told {message : ToClient} (plain : message.Plain)
      (given : (Output.toClient session msgSeqNum message).response session = some value) :
      ∃ reject, value = .businessMessageReject reject := by
    cases message with
    | response response =>
      obtain rfl : response = value := by simpa [Output.response] using given
      cases response with
      | businessMessageReject reject => exact ⟨reject, rfl⟩
      | _ => exact plain.elim
    | _ => cases given
  cases deed with
  | say message =>
    obtain rfl := List.mem_singleton.mp member
    exact told plain given
  | dismiss message =>
    obtain rfl | closed := List.mem_cons.mp member
    · exact told plain given
    · obtain rfl := List.mem_singleton.mp closed
      cases given
  | welcome | leave =>
    obtain rfl := List.mem_singleton.mp member
    cases given
  | _ => cases member

end Deed

namespace World
variable {env : Env} {before after first last : World} {session : Nat} {client : Client.Session} {name : MappingName}
  {clientId serverId : String} {input : Input} {inputs : List Input} {request : Request} {deed : Deed}

private theorem given_eq_heard (world : World) :
    world.given session = (world.roster.heard session).filterMap (Output.response session) :=
  observed_eq_heard (fun _ _ => Output.client_of_response) world

private theorem plain_of_allows (ready : client.state = .ready) (allowed : before.Allows env input session client deed)
    (unanswered : ∀ msgSeqNum value, input ≠ .serverRead msgSeqNum (.response value))
    (unasked : ∀ clock header request, input ≠ .read session clock header (.request request)) : deed.Plain := by
  cases input with
  | timer now =>
    obtain rfl := allowed
    simp only [Client.Session.tick, ready]
    split
    · split <;> trivial
    · trivial
  | read reader clock header message =>
    simp only [Allows] at allowed
    split at allowed
    · next same =>
      subst same
      unfold Client.Session.Heeds at allowed
      rw [ready] at allowed
      cases message with
      | request request => exact absurd rfl (unasked clock header request)
      | tradingSessionStatusRequest | unexpected =>
        obtain ⟨value, rfl⟩ := allowed
        trivial
      | testRequest | reject | heartbeat | logout => exact allowed ▸ trivial
      | resendRequest | logon => exact Deed.plain_of_refuses allowed
    · exact allowed ▸ trivial
  | readError reader =>
    simp only [Allows, Client.Session.closing] at allowed
    split at allowed
    · split at allowed <;> exact allowed ▸ trivial
    · exact allowed ▸ trivial
  | disconnected other =>
    simp only [Allows, Client.Session.ending] at allowed
    split at allowed
    · split at allowed <;> exact allowed ▸ trivial
    · exact allowed ▸ trivial
  | serverDisconnected =>
    simp only [Allows, Client.Session.closing] at allowed
    split at allowed <;> exact allowed ▸ trivial
  | serverRead msgSeqNum message =>
    cases message with
    | response value => exact absurd rfl (unanswered msgSeqNum value)
    | userResponse response =>
      simp only [Allows, Client.Session.Answers, ready] at allowed
      split at allowed <;> exact allowed ▸ trivial
    | _ => exact allowed ▸ trivial
  | _ => exact allowed ▸ trivial

/-- What a ready session is given in an event that brings no response: business rejects, and
what declines a request of its own. -/
theorem given_quietly (step : Step env before input after) (reachable : Reachable env before)
    (held : before.session session = some client) (ready : client.state = .ready)
    (unanswered : ∀ msgSeqNum value, input ≠ .serverRead msgSeqNum (.response value)) :
    ∃ more, after.given session = before.given session ++ more ∧ ∀ value ∈ more,
      (∃ reject, value = .businessMessageReject reject) ∨ ∃ request, value.Declines request := by
  by_cases asked : ∃ clock header request, input = .read session clock header (.request request)
  · obtain ⟨clock, header, request, rfl⟩ := asked
    rcases step.disposes (consistent_of_reachable reachable) held ready with forwards | ⟨⟨number, reply, declines, sent⟩, -⟩
    · obtain ⟨_, -, number, id, sent⟩ := forwards
      exact ⟨[], by simp [given, sent, Output.response], by simp⟩
    · cases reply with
      | response value => exact ⟨[value], by simp [given, sent, Output.response], by simpa using Or.inr ⟨request, declines⟩⟩
      | _ => exact declines.elim
  · obtain ⟨plays, registered⟩ := step.round reachable
    obtain ⟨deed, last, allowed, fate⟩ := plays.fate registered held
    obtain ⟨msgSeqNum, heard⟩ := fate.heard
    have plain := plain_of_allows ready allowed unanswered fun clock header request same =>
      asked ⟨clock, header, request, same⟩
    refine ⟨_, by rw [given_eq_heard, heard, List.filterMap_append, ← given_eq_heard], fun value member => Or.inl ?_⟩
    obtain ⟨output, told, response⟩ := List.mem_filterMap.mp member
    exact Deed.response_of_plain plain told response

/-- What a session that is ready gets of a response: all of it through its entry, or as the
owner of the route to the party. -/
def shares (world : World) (session : Nat) (value : Response) : List Response :=
  match value.mapping with
  | some name =>
    match world.controller.findReqId name (value.id name) with
    | some (owner, own, _) => if owner = session then [value.addressed name own] else []
    | none => []
  | none =>
    match value with
    | .executionReport report =>
      if world.controller.subscriptions.user.clientToSession.find (getClientFromParties report.noPartyIds) = some session then
        [.executionReport report.translated]
      else []
    | _ => []

private theorem given_append {outputs : List Output} (log : after.controller.log = before.controller.log ++ outputs) :
    after.given session = before.given session ++ outputs.filterMap (Output.response session) := by
  rw [given, log, List.filterMap_append, given]

private theorem given_mapped {msgSeqNum : Nat} {value : Response}
    (step : Step env before (.serverRead msgSeqNum (.response value)) after) (held : before.session session = some client)
    (ready : client.state = .ready) (mapped : value.mapping = some name) :
    after.given session = before.given session ++ before.shares session value := by
  obtain ⟨response, -, delivered⟩ := Controller.response_delivered env mapped { before.controller with
    serverSession := { before.controller.serverSession with inboundMsgSeqNum := msgSeqNum } }
  rw [← step.response] at delivered
  simp only [shares, mapped]
  cases found : before.controller.findReqId name (value.id name) with
  | none =>
    obtain silent | ⟨owner, own, keepAlive, other, number, entry, -⟩ := delivered
    · rw [given_append (silent.trans (List.append_nil _).symm), List.filterMap_nil]
    · cases found.symm.trans entry
  | some entry =>
    obtain ⟨owner, own, keepAlive⟩ := entry
    simp only
    split
    · next same =>
      subst same
      rw [given_append (step.delivers mapped found held ready)]
      simp [Output.response]
    · next foreign =>
      obtain silent | ⟨owner', own', keepAlive', other, number, entry, -, -, sent⟩ := delivered
      · rw [given_append (silent.trans (List.append_nil _).symm), List.filterMap_nil]
      · cases found.symm.trans entry
        rw [given_append sent]
        simp [Output.response, foreign]

private theorem given_unmapped {msgSeqNum : Nat} {value : Response}
    (step : Step env before (.serverRead msgSeqNum (.response value)) after) (held : before.session session = some client)
    (ready : client.state = .ready) (unmapped : value.mapping = none) :
    after.given session = before.given session ++ before.shares session value := by
  cases value with
  | businessMessageReject reject =>
    have internal : Controller.businessMessageRejectMapping reject.refMsgType = none := unmapped
    have silent : after.controller.log = before.controller.log := by
      simp only [step.response, Controller.response, Controller.businessMessageReject, internal]
    rw [given_append (silent.trans (List.append_nil _).symm)]
    simp [shares, unmapped]
  | executionReport report =>
    have sent : after.controller.log = before.controller.log ++ before.controller.broadcasts
        (.executionReport report.translated) (getClientFromParties report.noPartyIds) := by
      rw [step.response]
      exact Controller.log_unmapped env unmapped _
    rw [given_append sent]
    congr 1
    simp only [shares, unmapped, Controller.broadcasts]
    cases route : before.controller.subscriptions.user.clientToSession.find (getClientFromParties report.noPartyIds) with
    | none => simp
    | some owner =>
      by_cases same : owner = session
      · subst same
        have found : before.controller.sessions.find owner = some client := held
        simp [found, ready, Output.response]
      · simp only [Option.some.injEq, same, if_false]
        cases before.controller.sessions.find owner with
        | none => rfl
        | some other =>
          simp only
          split
          · simp [Output.response, same]
          · rfl
  | _ => cases unmapped

/-- A response gives a ready session its share, and no more. -/
theorem given_response {msgSeqNum : Nat} {value : Response}
    (step : Step env before (.serverRead msgSeqNum (.response value)) after) (held : before.session session = some client)
    (ready : client.state = .ready) : after.given session = before.given session ++ before.shares session value := by
  cases mapped : value.mapping with
  | some name => exact given_mapped step held ready mapped
  | none => exact given_unmapped step held ready mapped

end World

/-- The mapping that a message of a subscription's data goes through, and its id there. What
reports a failure is no data, and a security status without a trading status neither. -/
def Codec.Response.feed : Response → Option (MappingName × String)
  | .securityList value =>
    if value.securityRequestResult = .valid then some (.securityReqId, value.securityReqId) else none
  | .securityDefinition value =>
    if value.securityResponseType = .acceptSecurityProposalAsIs then some (.securityReqId, value.securityReqId) else none
  | .securityStatus value =>
    if value.securityTradingStatus ≠ 0 then some (.securityStatusReqId, value.securityStatusReqId) else none
  | .marketDataSnapshotFullRefresh value => some (.mdReqId, value.mdReqId)
  | .marketDataIncrementalRefresh value => some (.mdReqId, value.mdReqId)
  | .positionReport value => some (.posReqId, value.posReqId)
  | .tradeCaptureReport value => some (.tradeRequestId, value.tradeRequestId)
  | _ => none

/-- The data that an input brings for a server id. -/
def Input.feed (name : MappingName) (serverId : String) : Input → Option Response
  | .serverRead _ (.response value) => if value.feed = some (name, serverId) then some value else none
  | _ => none

/-- The data that a session has been given under one of its own ids, oldest first. -/
def World.fed (world : World) (name : MappingName) (session : Nat) (clientId : String) : List Response :=
  (world.given session).filter fun value => value.feed = some (name, clientId)

namespace World
variable {env : Env} {before after first last : World} {session : Nat} {client : Client.Session} {name : MappingName}
  {clientId serverId : String} {input : Input} {inputs : List Input} {request : Request}

end World
end FixProxy
